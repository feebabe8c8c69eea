/-
  Labels of domain names in basic Latin letters.

  A label with other characters is written as its basic Latin characters, a hyphen, and the other
  ones as a row of differences: each says how far the next code point and its place lie behind the
  last one.  A difference is a number of variable length in base 36, whose thresholds follow the
  size of the last one.

  Writing goes through the code points in increasing order (`writeFrom`), and for each of them
  through the label (`passChar`); reading puts one character after the other into its place
  (`readFrom`).  Both adapt the thresholds in the same way (`adapt`), so each difference is read
  with the thresholds with which it was written.  That reading undoes writing is shown in
  `Assay.Proofs.Labels`, where one invariant ties the two states together.
-/

namespace Assay.Punycode

/-- A digit of base 36: letters first. -/
def digitChar (d : Nat) : Char := if d < 26 then Char.ofNat (97 + d) else Char.ofNat (22 + d)

/-- The value of a digit. -/
def digitValue (c : Char) : Option Nat :=
  let n := c.toNat
  if 97 ≤ n && n ≤ 122 then some (n - 97)
  else if 65 ≤ n && n ≤ 90 then some (n - 65)
  else if 48 ≤ n && n ≤ 57 then some (n - 22)
  else none

/-- The threshold of a digit at position `k`, which counts in steps of 36. -/
def threshold (k bias : Nat) : Nat :=
  if k ≤ bias then 1 else if bias + 26 ≤ k then 26 else k - bias

/-- Divides by 35 until 455 is not exceeded, and counts in steps of 36. -/
def adaptSteps (delta k : Nat) : Nat × Nat :=
  if 455 < delta then adaptSteps (delta / 35) (k + 36) else (delta, k)
termination_by delta

/-- The thresholds for the difference after `delta`, of which there have been `count`. -/
def adapt (delta count : Nat) (first : Bool) : Nat :=
  let d := if first then delta / 700 else delta / 2
  let (d, k) := adaptSteps (d + d / count) 0
  k + 36 * d / (d + 38)

/-! ## Writing -/

/-- A difference; `fuel` bounds the number of its digits. -/
def writeNumber (bias : Nat) : Nat → Nat → Nat → List Char
  | 0, _, _ => []
  | fuel + 1, k, q =>
    let t := threshold k bias
    if q < t then [digitChar q]
    else digitChar (t + (q - t) % (36 - t)) :: writeNumber bias fuel (k + 36) ((q - t) / (36 - t))

/-- The state of writing: the text so far, the difference so far, the thresholds and the number of
characters written. -/
structure Writing where
  text : List Char
  delta : Nat
  bias : Nat
  count : Nat

/-- Passes over one character while writing those with code point `n`. -/
def passChar (basic n : Nat) (w : Writing) (c : Char) : Writing :=
  if c.toNat < n then { w with delta := w.delta + 1 }
  else if c.toNat = n then
    ⟨w.text ++ writeNumber w.bias (w.delta + 1) 36 w.delta, 0,
      adapt w.delta (w.count + 1) (w.count == basic), w.count + 1⟩
  else w

/-- Writes the characters of the given code points, which increase; `n` is the least one not yet
done. -/
def writeFrom (label : List Char) (basic : Nat) : List Nat → Nat → Writing → Writing
  | [], _, w => w
  | m :: rest, n, w =>
    let w := label.foldl (passChar basic m) { w with delta := w.delta + (m - n) * (w.count + 1) }
    writeFrom label basic rest (m + 1) { w with delta := w.delta + 1 }

/-- Puts a number into an increasing list, unless it is there. -/
def insertNat (n : Nat) : List Nat → List Nat
  | [] => [n]
  | m :: rest =>
    if n < m then n :: m :: rest else if n = m then m :: rest else m :: insertNat n rest

/-- A label in basic Latin characters, without the mark in front. -/
def encode (label : List Char) : List Char :=
  let basic := label.filter fun c => c.toNat < 128
  let others := (label.filter fun c => 128 ≤ c.toNat).foldr (fun c ns => insertNat c.toNat ns) []
  let front := if basic.isEmpty then [] else basic ++ ['-']
  front ++ (writeFrom label basic.length others 128 ⟨[], 0, 72, basic.length⟩).text

/-! ## Reading -/

/-- Reads a difference: its value and what follows. -/
def readNumber (bias : Nat) : List Char → Nat → Nat → Nat → Option (Nat × List Char)
  | [], _, _, _ => none
  | c :: rest, k, weight, sum => do
    let d ← digitValue c
    let t := threshold k bias
    let sum := sum + d * weight
    if d < t then return (sum, rest)
    readNumber bias rest (k + 36) (weight * (36 - t)) sum

/-- Reads the differences and puts their characters into the label. -/
def readFrom : Nat → List Char → Nat → Nat → Nat → List Char → Option (List Char)
  | 0, _, _, _, _, _ => none
  | fuel + 1, s, n, place, bias, label =>
    if s.isEmpty then some label
    else do
      let (delta, rest) ← readNumber bias s 36 1 0
      let size := label.length + 1
      let next := place + delta
      let n := n + next / size
      if !n.isValidChar then none
      else
        let i := next % size
        readFrom fuel rest n (i + 1) (adapt delta size (place == 0))
          (label.insertIdx i (Char.ofNat n))

/-- The label that a text in basic Latin characters stands for. -/
def decode (s : List Char) : Option (List Char) :=
  let back := s.reverse.takeWhile (· ≠ '-')
  let front := s.reverse.drop (back.length + 1)
  readFrom (s.length + 1) back.reverse 128 0 72 front.reverse

end Assay.Punycode
