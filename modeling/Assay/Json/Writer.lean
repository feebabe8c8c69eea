import Assay.Json.Basic

/-
  The text of a JSON document.

  The compact form has no blanks.  In a string the quotation mark, the backslash and the control
  characters below the space are escaped, five of them by a letter and the others by four
  hexadecimal digits; every other character stands for itself.

  The indented form puts every item and member on a line of its own, two blanks deeper than its
  container, and leaves empty containers on one line.

  Both forms are functions to lists of characters that recurse on the document, with its items and
  its members; `compact` and `indented` are their texts.  Members are written in the order in which
  the object lists them.  No character of the compact form is a line break, since a line break in a
  string is escaped, which is what makes one document to a line possible (`Assay.Proofs.Lines`).
-/

namespace Assay.Json

/-- A hexadecimal digit, in lower case. -/
def hexDigit (n : Nat) : Char := Nat.digitChar n

/-- How one character is written inside a string. -/
def escaped (c : Char) : List Char :=
  if c = '"' then ['\\', '"']
  else if c = '\\' then ['\\', '\\']
  else if c = '\n' then ['\\', 'n']
  else if c = '\t' then ['\\', 't']
  else if c = '\r' then ['\\', 'r']
  else if c.toNat = 8 then ['\\', 'b']
  else if c.toNat = 12 then ['\\', 'f']
  else if c.toNat < 32 then ['\\', 'u', '0', '0', hexDigit (c.toNat / 16), hexDigit (c.toNat % 16)]
  else [c]

/-- A string with its quotation marks. -/
def quoted (s : List Char) : List Char := '"' :: (s.flatMap escaped ++ ['"'])

/-! ## Compact form -/

mutual
/-- The compact text of a document. -/
def compactChars : Json → List Char
  | .null => ['n', 'u', 'l', 'l']
  | .bool true => ['t', 'r', 'u', 'e']
  | .bool false => ['f', 'a', 'l', 's', 'e']
  | .number n => n.text
  | .string s => quoted s.toList
  | .array items => '[' :: (compactItems items ++ [']'])
  | .object members => '{' :: (compactMembers members ++ ['}'])
/-- The items, with commas between them. -/
def compactItems : List Json → List Char
  | [] => []
  | [v] => compactChars v
  | v :: w :: rest => compactChars v ++ ',' :: compactItems (w :: rest)
/-- The members, with commas between them. -/
def compactMembers : List (String × Json) → List Char
  | [] => []
  | [(k, v)] => quoted k.toList ++ ':' :: compactChars v
  | (k, v) :: m :: rest =>
    quoted k.toList ++ ':' :: (compactChars v ++ ',' :: compactMembers (m :: rest))
end

/-- The compact text of a document. -/
def compact (v : Json) : String := String.ofList (compactChars v)

/-! ## Indented form -/

/-- A line break and two blanks for each level. -/
def newline (level : Nat) : List Char := '\n' :: List.replicate (2 * level) ' '

mutual
/-- The indented text of a document that stands at the given level. -/
def indentedChars (level : Nat) : Json → List Char
  | .array (v :: rest) =>
    '[' ::
      (newline (level + 1) ++ (indentedItems (level + 1) (v :: rest) ++ (newline level ++ [']'])))
  | .object (m :: rest) =>
    '{' ::
      (newline (level + 1) ++ (indentedMembers (level + 1) (m :: rest) ++ (newline level ++ ['}'])))
  | .array [] => ['[', ']']
  | .object [] => ['{', '}']
  | .null => ['n', 'u', 'l', 'l']
  | .bool true => ['t', 'r', 'u', 'e']
  | .bool false => ['f', 'a', 'l', 's', 'e']
  | .number n => n.text
  | .string s => quoted s.toList
/-- The items, each on a line. -/
def indentedItems (level : Nat) : List Json → List Char
  | [] => []
  | [v] => indentedChars level v
  | v :: w :: rest =>
    indentedChars level v ++ ',' :: (newline level ++ indentedItems level (w :: rest))
/-- The members, each on a line. -/
def indentedMembers (level : Nat) : List (String × Json) → List Char
  | [] => []
  | [(k, v)] => quoted k.toList ++ ':' :: ' ' :: indentedChars level v
  | (k, v) :: m :: rest => quoted k.toList ++ ':' :: ' ' ::
      (indentedChars level v ++ ',' :: (newline level ++ indentedMembers level (m :: rest)))
end

/-- The indented text of a document. -/
def indented (v : Json) : String := String.ofList (indentedChars 0 v)

end Assay.Json
