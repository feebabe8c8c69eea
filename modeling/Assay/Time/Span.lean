/-
  Spans of time.

  A span is a number of nanoseconds.  Reports store spans in whole milliseconds, in a 64-bit word.
  For reading, a span is shown in the largest unit in which it is at least one, with two decimals;
  a half in the last decimal goes to the even digit.

  Spans are measured with 64 bits of seconds, so a sum of spans may be longer than any span
  (`Span.longest`).  Adding up is checked for this (`Span.add?`), and so no sum is ever cut off.

  `millisWord` is what a report can hold: whole milliseconds, and of these the low 64 bits.  Reading
  it back with `ofMillis` therefore gives the span cut to milliseconds, as long as it fits.
-/

namespace Assay

/-- A span of time. -/
structure Span where
  nanos : Nat
  deriving DecidableEq, Repr, Inhabited

namespace Span

/-- A span of whole milliseconds. -/
def ofMillis (ms : Nat) : Span := ⟨ms * 1000000⟩

/-- Whole milliseconds. -/
def millis (s : Span) : Nat := s.nanos / 1000000

/-- Whole milliseconds in a 64-bit word, as reports store them: what does not fit is lost from the
top. -/
def millisWord (s : Span) : UInt64 := UInt64.ofNat s.millis

/-- The longest span that can be measured, in nanoseconds: all seconds of a 64-bit word, and what is
missing of one more. -/
def longest : Nat := 0x10000000000000000 * 1000000000 - 1

/-- Two spans one after the other, unless they take longer than any span. -/
def add? (s t : Span) : Option Span :=
  if s.nanos + t.nanos ≤ longest then some ⟨s.nanos + t.nanos⟩ else none

/-- A unit in which spans are shown. -/
structure Unit where
  nanos : Nat
  name : String

/-- The units, the largest first. -/
def units : List Unit := [⟨1000000000, "s"⟩, ⟨1000000, "ms"⟩, ⟨1000, "µs"⟩]

/-- The unit in which a span is shown. -/
def unitFor (s : Span) : Unit := (units.find? fun u => u.nanos ≤ s.nanos).getD ⟨1, "ns"⟩

/-- Hundredths of a unit, rounded to nearest with ties to even. -/
def hundredths (s : Span) (u : Unit) : Nat :=
  let q := s.nanos * 100 / u.nanos
  let r := s.nanos * 100 % u.nanos
  if 2 * r < u.nanos then q else if u.nanos < 2 * r then q + 1 else q + q % 2

/-- A number of hundredths with two decimals. -/
def twoDecimals (n : Nat) : String :=
  s!"{n / 100}." ++ (if n % 100 < 10 then "0" else "") ++ s!"{n % 100}"

/-- A span as it is shown. -/
def shown (s : Span) : String :=
  let u := s.unitFor
  twoDecimals (s.hundredths u) ++ u.name

end Span

end Assay
