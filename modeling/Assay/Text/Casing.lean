import Assay.Unicode.Properties
import Assay.Unicode.CaseMaps

/-
  Capital and small forms of whole texts.

  Each character is replaced by its full case form, which may have several characters.  One letter
  looks at its surroundings: a capital sigma becomes the final small sigma when a cased letter
  stands before it and none after it, characters that are skipped for this purpose left out of
  account.

  `lowerFrom` carries what stands before a character along, in reverse, so that both sides of a
  sigma are lists that can be searched from their fronts (`casedAhead`).  Because of this letter the
  small form of a text is not made up of the small forms of its parts: what a text becomes inside of
  another one is worked out in `Assay.Proofs.Lettercase`.  Capital forms have no such exception.

  Names of headers and schemes are compared by the basic Latin letters alone (`asciiLower`,
  `alike`), which is another and simpler relation.
-/

namespace Assay.Text

/-- The character of a code point that is known to be one. -/
def charAt (n : Nat) : Char := Char.ofNat n

/-- The capital form of a character. -/
def upperChar (c : Char) : List Char :=
  match Unicode.upperLong.lookup c.toNat with
  | some ns => ns.map charAt
  | none => [charAt (Unicode.applyRuns Unicode.upperRuns c.toNat)]

/-- The small form of a character outside any context. -/
def lowerChar (c : Char) : List Char :=
  if c.toNat = 0x130 then [charAt 0x69, charAt 0x307]
  else [charAt (Unicode.applyRuns Unicode.lowerRuns c.toNat)]

/-- The first character that is not skipped is a cased letter. -/
def casedAhead (s : List Char) : Bool :=
  match s.dropWhile Unicode.caseIgnorable.has with
  | [] => false
  | c :: _ => Unicode.cased.has c

/-- The small form of a text; `before` is what stands before it, in reverse. -/
def lowerFrom (before : List Char) : List Char → List Char
  | [] => []
  | c :: rest =>
    let image := if c.toNat = 0x3A3 then
        if casedAhead before && !casedAhead rest then [charAt 0x3C2] else [charAt 0x3C3]
      else lowerChar c
    image ++ lowerFrom (c :: before) rest

/-- A text in small letters. -/
def toLower (s : List Char) : List Char := lowerFrom [] s

/-- A text in capitals. -/
def toUpper (s : List Char) : List Char := s.flatMap upperChar

/-- A text in small letters. -/
def lower (s : String) : String := String.ofList (toLower s.toList)

/-- A text in capitals. -/
def upper (s : String) : String := String.ofList (toUpper s.toList)

/-! ## Case of the basic Latin letters only -/

/-- The small form of a basic Latin capital; every other character is its own. -/
def asciiLower (c : Char) : Char :=
  if 65 ≤ c.toNat && c.toNat ≤ 90 then Char.ofNat (c.toNat + 32) else c

/-- Two texts are alike when they differ at most in the case of basic Latin letters. -/
def alike (a b : String) : Bool := a.toList.map asciiLower == b.toList.map asciiLower

end Assay.Text
