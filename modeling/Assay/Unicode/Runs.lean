/-
  Partitions of the code points, as runs.

  A partition is written as one text: for every run of code points with the same value, in order
  from zero, the name of the value and the length of the run in lower case hexadecimal.
  `Partition.ofText` turns it into an array of starting points, in which the value of a code point
  is found by halving.

  Texts are used because the tables are long: one string literal is read at once when the program
  starts, while a list of as many entries would have to be elaborated one by one.
-/

namespace Assay.Unicode

/-- The runs of a partition: where each begins, and its value. -/
abbrev Partition := Array (Nat × String)

/-- The value of a lower case hexadecimal digit. -/
def hexDigitOf (c : Char) : Option Nat :=
  let n := c.toNat
  if 48 ≤ n && n ≤ 57 then some (n - 48) else if 97 ≤ n && n ≤ 102 then some (n - 87) else none

/-- Reads runs whose values have names of `width` characters. -/
def runsFrom (width : Nat) : Nat → Nat → List Char → List (Nat × String)
  | 0, _, _ => []
  | _ + 1, _, [] => []
  | fuel + 1, start, c :: cs =>
    let name := (c :: cs).take width
    let rest := (c :: cs).drop width
    let digits := rest.takeWhile fun d => (hexDigitOf d).isSome
    let length := digits.foldl (fun n d => n * 16 + (hexDigitOf d).getD 0) 0
    (start, String.ofList name) :: runsFrom width fuel (start + length) (rest.drop digits.length)

/-- The partition that a text describes. -/
def Partition.ofText (width : Nat) (text : String) : Partition :=
  let cs := text.toList
  (runsFrom width cs.length 0 cs).toArray

/-- The last index below `hi` whose run begins at or before the code point, found by halving. -/
def findRun (p : Partition) (n : Nat) : Nat → Nat → Nat → Nat
  | 0, lo, _ => lo
  | fuel + 1, lo, hi =>
    if hi ≤ lo + 1 then lo
    else
      let mid := (lo + hi) / 2
      match p[mid]? with
      | some (start, _) => if start ≤ n then findRun p n fuel mid hi else findRun p n fuel lo mid
      | none => lo

/-- The value of a code point. -/
def Partition.value (p : Partition) (n : Nat) : String :=
  match p[findRun p n 32 0 p.size]? with
  | some (_, name) => name
  | none => ""

/-- Reads numbers in lower case hexadecimal that follow each other with blanks between them. -/
def hexNumbers : List Char → Nat → List Nat
  | [], n => [n]
  | c :: cs, n =>
    match hexDigitOf c with
    | some d => hexNumbers cs (n * 16 + d)
    | none => n :: hexNumbers cs 0

/-- Running totals. -/
def totals : Nat → List Nat → List Nat
  | _, [] => []
  | n, d :: ds => (n + d) :: totals (n + d) ds

/-- The cuts of a set of code points, from a text with the first cut and the distances to the
next. -/
def cutsOfText (text : String) : Array Nat := (totals 0 (hexNumbers text.toList 0)).toArray

/-- The number of cuts at or below a code point, found by halving. -/
def countCuts (cuts : Array Nat) (n : Nat) : Nat → Nat → Nat → Nat
  | 0, lo, _ => lo
  | fuel + 1, lo, hi =>
    if hi ≤ lo then lo
    else
      let mid := (lo + hi) / 2
      match cuts[mid]? with
      | some cut => if cut ≤ n then countCuts cuts n fuel (mid + 1) hi else
          countCuts cuts n fuel lo mid
      | none => lo

/-- Membership in the set with the given cuts. -/
def inCuts (cuts : Array Nat) (n : Nat) : Bool := countCuts cuts n 32 0 cuts.size % 2 == 1

end Assay.Unicode
