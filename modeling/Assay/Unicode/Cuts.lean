/-
  Sets of code points as lists of cuts.

  A set of code points is given by the increasing list of the points at which membership changes:
  the first cut is the first member, the second the first non-member after it, and so on.  A code
  point belongs to the set when an odd number of cuts lie at or below it.
-/

namespace Assay.Unicode

/-- A set of code points, as the points where membership changes. -/
abbrev Cuts := List Nat

/-- Membership flips at every cut that has been passed. -/
def Cuts.holds (cuts : Cuts) (n : Nat) : Bool :=
  cuts.foldl (fun inside cut => if cut ≤ n then !inside else inside) false

/-- Membership of a character. -/
def Cuts.has (cuts : Cuts) (c : Char) : Bool := cuts.holds c.toNat

end Assay.Unicode
