import Assay.Text.Utf8

/-
  Percent encoding.

  A character that may not stand for itself is written as the bytes of its UTF-8 form, each as a
  percent sign and two capital hexadecimal digits.  Which characters may stand for themselves
  depends on the part of an address; characters outside the basic Latin block never do.

  There is one function for encoding and one predicate for each part, and each predicate accepts no
  more than the one before it: `keepFragment`, `keepPath`, `keepUser`.  The percent sign stands for
  itself in all of them, so a part that has been encoded can be encoded once more without a change.
  Form fields have rules of their own (`encodeField`).
-/

namespace Assay.Percent

/-- A byte as a percent sign and two hexadecimal digits. -/
def ofByte (b : UInt8) : List Char :=
  let digit (n : Nat) : Char := if n < 10 then Char.ofNat (48 + n) else Char.ofNat (55 + n)
  ['%', digit (b.toNat / 16), digit (b.toNat % 16)]

/-- A character that does not stand for itself. -/
def encodeChar (c : Char) : List Char := (String.utf8EncodeChar c).flatMap ofByte

/-- A text in which the characters that `keep` accepts stand for themselves. -/
def encode (keep : Char → Bool) (s : List Char) : List Char :=
  s.flatMap fun c => if c.toNat < 128 && keep c then [c] else encodeChar c

/-! ## The characters that stand for themselves -/

/-- Neither a control character nor outside the basic Latin block. -/
def isGraphic (c : Char) : Bool := 32 ≤ c.toNat && c.toNat < 127

/-- In a part that has no structure. -/
def keepOpaque (c : Char) : Bool := isGraphic c

/-- In a fragment. -/
def keepFragment (c : Char) : Bool := isGraphic c && !" \"<>`".toList.contains c

/-- In a query; a special scheme also encodes the apostrophe. -/
def keepQuery (special : Bool) (c : Char) : Bool :=
  isGraphic c && !" \"#<>".toList.contains c && !(special && c == '\'')

/-- In a path. -/
def keepPath (c : Char) : Bool := keepFragment c && !"#?^\x7b\x7d".toList.contains c

/-- In user name and password. -/
def keepUser (c : Char) : Bool := keepPath c && !"/:;=@[\\]|".toList.contains c

/-! ## Decoding -/

/-- The value of a hexadecimal digit. -/
def hexDigit? (c : Char) : Option Nat :=
  let n := c.toNat
  if 48 ≤ n && n ≤ 57 then some (n - 48)
  else if 65 ≤ n && n ≤ 70 then some (n - 55)
  else if 97 ≤ n && n ≤ 102 then some (n - 87)
  else none

/-- The bytes of a text: a percent sign with two hexadecimal digits is one byte, everything else
stands for itself. -/
def decode : List Char → List UInt8
  | [] => []
  | '%' :: a :: b :: rest =>
    match hexDigit? a, hexDigit? b with
    | some x, some y => UInt8.ofNat (x * 16 + y) :: decode rest
    | _, _ => String.utf8EncodeChar '%' ++ decode (a :: b :: rest)
  | c :: rest => String.utf8EncodeChar c ++ decode rest

/-! ## Form fields -/

/-- A form field: letters, digits and four marks stand for themselves, a blank is a plus sign. -/
def encodeField (s : String) : List Char :=
  s.toList.flatMap fun c =>
    if c == ' ' then ['+']
    else if c.isAlphanum || "*-._".toList.contains c then [c]
    else encodeChar c

/-- Fields with their values, as they are added to a query. -/
def encodeForm (fields : List (String × String)) : List Char :=
  ['&'].intercalate (fields.map fun f => encodeField f.1 ++ '=' :: encodeField f.2)

end Assay.Percent
