import Assay.Number.Shortest

/-
  Numbers of a JSON document.

  A number without fraction and exponent that fits 64 bits, signed or unsigned, is an integer; every
  other number is a double.  The two kinds never compare equal as numbers of a document (`1` and
  `1.0` are different values), but both have a double that approximates them.

  Integers are written in decimal.  Doubles are written with the fewest digits that read back,
  positionally while the decimal point falls near the digits and with an exponent otherwise, and
  always with a point or an exponent, so that the kind of a number survives being written.

  The bounds of an integer are part of the type (`Number.integer`), so that every integer of a
  document has a nearest double, and `toDouble` is total.  `Number.same` is used wherever documents
  are compared.  Comparing two numbers by size goes through `toDouble` instead, which does not tell
  large integers apart; what this means is worked out in `Assay.Proofs.Comparing`.
-/

namespace Assay

/-- A number of a JSON document. -/
inductive Json.Number where
  | integer (value : Int) (inRange : -0x8000000000000000 ≤ value ∧ value < 0x10000000000000000)
  | double (value : Double)
  deriving DecidableEq, Repr

namespace Json.Number

/-- An integer, if it fits 64 bits, signed or unsigned. -/
def ofInt? (n : Int) : Option Number :=
  if h : -0x8000000000000000 ≤ n ∧ n < 0x10000000000000000 then some (.integer n h) else none

/-- Every 64-bit word is an integer of a document. -/
def ofWord (n : UInt64) : Number :=
  .integer n.toNat ⟨by have := n.toNat_lt; omega, by have := n.toNat_lt; omega⟩

/-- Equality of two numbers of documents: integers by value, doubles by value, never across. -/
def same : Number → Number → Bool
  | .integer a _, .integer b _ => a == b
  | .double a, .double b => a.same b
  | _, _ => false

/-- The double nearest to the number.  Every integer of a document is within range, so the zero of
the last case is never reached. -/
def toDouble : Number → Double
  | .double d => d
  | .integer n _ => (Double.ofInt n).getD (Double.zero false)

/-! ## Text -/

/-- Decimal digits of a natural number. -/
def natDigits (n : Nat) : List Char := Nat.toDigits 10 n

/-- Decimal text of an integer. -/
def intDigits (n : Int) : List Char :=
  if n < 0 then '-' :: natDigits n.natAbs else natDigits n.natAbs

/-- Where the notations of a double part: the point may stand up to 16 places after the first digit,
or have four zeros between itself and the first digit. -/
structure DoubleFormat where
  placesAfter : Int
  zerosBefore : Int

/-- The format of doubles in a document. -/
def doubleFormat : DoubleFormat := ⟨16, 4⟩

/-- Text of a positive decimal whose digits are not empty. -/
def decimalText (f : DoubleFormat) (digits : List Char) (exponent : Int) : List Char :=
  -- The decimal point stands after this many digits.
  let point : Int := digits.length + exponent
  if 0 ≤ exponent && point ≤ f.placesAfter then
    digits ++ List.replicate exponent.toNat '0' ++ ['.', '0']
  else if 0 < point && point ≤ f.placesAfter then
    digits.take point.toNat ++ '.' :: digits.drop point.toNat
  else if -f.zerosBefore ≤ point && point ≤ 0 then
    '0' :: '.' :: (List.replicate (-point).toNat '0' ++ digits)
  else
    let e := point - 1
    let mark := if e < 0 then ['e', '-'] else ['e', '+']
    let fraction := match digits with
      | [] => []
      | [d] => [d]
      | d :: ds => d :: '.' :: ds
    fraction ++ mark ++ natDigits e.natAbs

/-- Text of a double. -/
def doubleText (d : Double) : List Char :=
  let body := if d.significand = 0 then ['0', '.', '0']
    else
      let s := d.shortest
      decimalText doubleFormat (natDigits s.digits) s.exponent
  if d.negative then '-' :: body else body

/-- The text of a number in a document. -/
def text : Number → List Char
  | .integer n _ => intDigits n
  | .double d => doubleText d

end Json.Number

end Assay
