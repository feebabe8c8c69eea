/-
  Finite binary64 numbers, exactly.

  A `Double` is a sign, a significand and a power of two, in the one canonical form of the binary64
  format: 53 significant bits, or fewer at the least exponent.  There is no infinity and no
  not-a-number: a result that leaves the format is `none`.

  Every value is a whole multiple of `2^(-1074)`.  `Double.units` counts those multiples, and is the
  view through which doubles are compared and combined: the two zeros have the same `units`, order
  is the order of the integers.

  `ofRatio` is the only place that rounds, to the nearest value with ties to the even significand.

  Since the form is canonical and part of the type, two doubles are equal exactly if their parts
  are, with one exception that comparison has to make: the two zeros.  `less` and `lessEq` are
  defined by `units`, and so are orders of whole numbers.

  `scaleFor` says on which grid a ratio is to be rounded, and `roundHalfEven` rounds it there;
  `ofRatio` puts the two together and refuses what is too large.  That the result is the nearest
  double, and the even one of two that are equally near, is shown in `Assay.Proofs.Rounding` without
  looking at the grid. A decimal can be read in two ways: `nearestDecimal` rounds once, and
  `scaledDecimal` rounds digits and power of ten one after the other, as the reader of JSON
  documents does.
-/

namespace Assay

/-- A finite binary64 value `±significand · 2^exponent`. -/
structure Double where
  negative : Bool
  significand : Nat
  exponent : Int
  /-- Bit 52 of the significand is set, or the exponent is the least one. -/
  canonical :
    (0x10000000000000 ≤ significand ∧ significand < 0x20000000000000 ∧
      -1074 ≤ exponent ∧ exponent ≤ 971) ∨
    (significand < 0x10000000000000 ∧ exponent = -1074)
  deriving DecidableEq, Repr

namespace Double

/-- The value as a whole number of steps of `2^(-1074)`. -/
def units (d : Double) : Int :=
  let m : Int := (d.significand <<< (d.exponent + 1074).toNat : Nat)
  if d.negative then -m else m

/-- Numeric equality: the two zeros are equal. -/
def same (a b : Double) : Bool := a.units == b.units

/-- Numeric order. -/
def less (a b : Double) : Bool := a.units < b.units

/-- Numeric order or equality. -/
def lessEq (a b : Double) : Bool := a.units ≤ b.units

/-- Puts a sign, a significand and an exponent together, if they are in canonical form. -/
def ofParts? (negative : Bool) (significand : Nat) (exponent : Int) : Option Double :=
  if h : (0x10000000000000 ≤ significand ∧ significand < 0x20000000000000 ∧
      -1074 ≤ exponent ∧ exponent ≤ 971) ∨
      (significand < 0x10000000000000 ∧ exponent = -1074) then
    some ⟨negative, significand, exponent, h⟩
  else none

/-- Zero, with a sign. -/
def zero (negative : Bool) : Double := ⟨negative, 0, -1074, .inr ⟨by decide, rfl⟩⟩

/-! ## Rounding -/

/-- Rounds a ratio to the nearest whole number; a tie goes to the even one. -/
def roundHalfEven (num den : Nat) : Nat :=
  let q := num / den
  let r := num % den
  if 2 * r < den then q
  else if den < 2 * r then q + 1
  else q + q % 2

/-- The exponent at which `num / den` has 53 bits before the point, never below the least one. -/
def scaleFor (num den : Nat) : Int :=
  let guess : Int := (Nat.log2 num : Int) - Nat.log2 den - 52
  let tooLarge := if 0 ≤ guess then num < (0x10000000000000 * den) <<< guess.toNat
    else num <<< (-guess).toNat < 0x10000000000000 * den
  max (if tooLarge then guess - 1 else guess) (-1074)

/-- The nearest double to `±num / den`; a tie goes to the even significand, and a value that rounds
beyond the largest double is `none`. -/
def ofRatio (negative : Bool) (num den : Nat) : Option Double :=
  if num = 0 ∨ den = 0 then some (zero negative)
  else
    let e := scaleFor num den
    let m := if 0 ≤ e then roundHalfEven num (den <<< e.toNat)
      else roundHalfEven (num <<< (-e).toNat) den
    if m = 0x20000000000000 then ofParts? negative 0x10000000000000 (e + 1)
    else ofParts? negative m e

/-- The nearest double to a whole number. -/
def ofInt (n : Int) : Option Double := ofRatio (n < 0) n.natAbs 1

/-- The nearest double to `±digits · 10^exponent`, rounded once. -/
def nearestDecimal (negative : Bool) (digits : Nat) (exponent : Int) : Option Double :=
  if 0 ≤ exponent then
    -- Beyond 400 places a nonzero value is out of range whatever its digits.
    if digits = 0 then some (zero negative)
    else if 400 < exponent then none
    else ofRatio negative (digits * Nat.pow 10 exponent.toNat) 1
  else
    let places := (-exponent).toNat
    if (Nat.log2 digits + 1) + 1100 < 3 * places then some (zero negative)
    else ofRatio negative digits (Nat.pow 10 places)

/-- One step of `2^(-1074)` is the unit of `units`. -/
def unitsPerOne : Nat := 1 <<< 1074

/-- The product of the absolute values, rounded. -/
def mulAbs (negative : Bool) (a b : Double) : Option Double :=
  ofRatio negative (a.units.natAbs * b.units.natAbs) (unitsPerOne * unitsPerOne)

/-- The quotient of the absolute values, rounded. -/
def divAbs (negative : Bool) (a b : Double) : Option Double :=
  ofRatio negative a.units.natAbs b.units.natAbs

/-- The double nearest to a power of ten. -/
def powerOfTen (k : Nat) : Option Double := ofRatio false (Nat.pow 10 k) 1

/-- A decimal read in two steps: the digits become a double first, which is then scaled by the
double nearest to a power of ten (at most `10^308` at a time).  Each step rounds, so the result can
differ from `nearestDecimal` in its last bit.  Too large a value is `none`. -/
def scaledDecimal (negative : Bool) (digits : Nat) (exponent : Int) : Option Double := do
  let f ← ofRatio negative digits 1
  if 0 ≤ exponent then
    if exponent ≤ 308 then mulAbs negative f (← powerOfTen exponent.toNat)
    else if f.significand = 0 then some f else none
  else
    let places := (-exponent).toNat
    if places ≤ 308 then divAbs negative f (← powerOfTen places)
    else
      let g ← divAbs negative f (← powerOfTen 308)
      if places ≤ 616 then divAbs negative g (← powerOfTen (places - 308))
      else
        -- Two divisions by 10^308 take every finite value to zero.
        some (zero negative)

end Double

end Assay
