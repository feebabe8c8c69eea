import Assay.Number.Double

/-
  The shortest decimal that reads back as a given double.

  The reals that round to a double form an interval: its ends lie half-way to the two neighbours,
  and belong to it exactly when the significand is even.  For `n = 1, 2, … 17` digits the only
  candidates on the grid of `n`-digit decimals are the two neighbours of the value itself; the first
  `n` with a candidate inside the interval wins, and of two such candidates the nearer one.  All of
  this is whole number arithmetic, in quarters of a step of `2^(-1074)`.

  `lowerEnd` and `upperEnd` are the ends of the interval, `candidate` is what a number of digits has
  to offer, and `shortest` takes the first one that `readsBack`.  17 digits are always enough, so
  the search is a short list and has no need of fuel.  Zeros at the end are dropped (`stripZeros`),
  since they belong to the exponent.
-/

namespace Assay.Double

/-- A positive decimal `digits · 10^exponent`. -/
structure Decimal where
  digits : Nat
  exponent : Int
  deriving DecidableEq, Repr

/-- A quarter of a step counts four times as often. -/
def quarters (d : Double) : Nat := 4 * d.units.natAbs

/-- The step to the next larger double, in steps of `2^(-1074)`. -/
def step (d : Double) : Nat := 1 <<< (d.exponent + 1074).toNat

/-- The lower end of the interval of reals that round to `d`, in quarters: below a power of two the
neighbour is twice as near. -/
def lowerEnd (d : Double) : Nat :=
  if d.significand = 0x10000000000000 ∧ -1074 < d.exponent then d.quarters - d.step
  else d.quarters - 2 * d.step

/-- The upper end of that interval, in quarters. -/
def upperEnd (d : Double) : Nat := d.quarters + 2 * d.step

/-- `c · 10^g` compared with a number of quarters: both sides brought to whole numbers. -/
def scaledPair (c : Nat) (g : Int) (quarters : Nat) : Nat × Nat :=
  let one := 4 * unitsPerOne
  if 0 ≤ g then (c * Nat.pow 10 g.toNat * one, quarters)
  else (c * one, quarters * Nat.pow 10 (-g).toNat)

/-- The decimal `c · 10^g` reads back as `d`. -/
def readsBack (d : Double) (c : Nat) (g : Int) : Bool :=
  let lo := scaledPair c g d.lowerEnd
  let hi := scaledPair c g d.upperEnd
  if d.significand % 2 = 0 then lo.2 ≤ lo.1 && hi.1 ≤ hi.2 else lo.2 < lo.1 && hi.1 < hi.2

/-- The number of decimal digits of a positive number. -/
def digitCount : Nat → Nat → Nat
  | 0, _ => 0
  | fuel + 1, n => if n < 10 then 1 else digitCount fuel (n / 10) + 1

/-- The exponent `p` with `10^(p-1) ≤ value < 10^p`, for a positive value. -/
def magnitude (d : Double) : Int :=
  let u := d.units.natAbs
  let whole := u / unitsPerOne
  if 0 < whole then digitCount 400 whole
  else
    -- Below one, scale up by a power of ten that is surely enough.
    let scaled := u * Nat.pow 10 400 / unitsPerOne
    (digitCount 800 scaled : Int) - 400

/-- The candidate with `n` digits, if one reads back. -/
def candidate (d : Double) (p : Int) (n : Nat) : Option Decimal :=
  let g := p - n
  let one := 4 * unitsPerOne
  -- The value on the grid of step `10^g`, rounded down.
  let floor := if 0 ≤ g then d.quarters / (one * Nat.pow 10 g.toNat)
    else d.quarters * Nat.pow 10 (-g).toNat / one
  let below := readsBack d floor g
  let above := readsBack d (floor + 1) g
  if below && above then
    let lo := scaledPair (2 * floor + 1) g (2 * d.quarters)
    -- The value against the middle of the two candidates; a tie goes to the even one.
    if lo.2 < lo.1 then some ⟨floor, g⟩
    else if lo.1 < lo.2 then some ⟨floor + 1, g⟩
    else some ⟨floor + floor % 2, g⟩
  else if below then some ⟨floor, g⟩
  else if above then some ⟨floor + 1, g⟩
  else none

/-- Zeros at the end of the digits go into the exponent. -/
def stripZeros : Nat → Decimal → Decimal
  | 0, d => d
  | fuel + 1, d =>
    if d.digits % 10 = 0 ∧ d.digits ≠ 0 then stripZeros fuel ⟨d.digits / 10, d.exponent + 1⟩ else d

/-- The shortest decimal that reads back as the absolute value of `d`, nearest to it among those. -/
def shortest (d : Double) : Decimal :=
  if d.significand = 0 then ⟨0, 0⟩
  else
    let p := d.magnitude
    match (List.range 17).findSome? fun k => d.candidate p (k + 1) with
    | some r => stripZeros 400 r
    | none => ⟨0, 0⟩

end Assay.Double
