import Assay.Unicode.Properties

/-
  Texts shown between quotation marks.

  A quotation mark, a backslash and five control characters are written with a backslash and a
  letter; every other character that cannot be shown as itself is written by its code point, in
  hexadecimal between braces.  All other characters, the apostrophe among them, stand for
  themselves.

  Which characters cannot be shown is a table of its own (`Unicode.unprintable`); the basic Latin
  block is decided without it.  The list of texts in brackets (`quoteList`) is how messages show the
  names of fixtures.
-/

namespace Assay.Text

/-- The code point of a character, in lower case hexadecimal. -/
def hexDigits (n : Nat) : List Char := Nat.toDigits 16 n

/-- How one character is shown between quotation marks. -/
def shown (c : Char) : List Char :=
  if c = '"' then ['\\', '"']
  else if c = '\\' then ['\\', '\\']
  else if c = '\n' then ['\\', 'n']
  else if c = '\t' then ['\\', 't']
  else if c = '\r' then ['\\', 'r']
  else if c.toNat = 0 then ['\\', '0']
  else if 32 ≤ c.toNat && c.toNat < 127 then [c]
  else if Unicode.unprintable.has c then
    '\\' :: 'u' :: '{' :: (hexDigits c.toNat ++ ['}'])
  else [c]

/-- A text between quotation marks. -/
def quote (s : String) : String := String.ofList ('"' :: (s.toList.flatMap shown ++ ['"']))

/-- A list of texts, each between quotation marks. -/
def quoteList (ss : List String) : String := "[" ++ ", ".intercalate (ss.map quote) ++ "]"

end Assay.Text
