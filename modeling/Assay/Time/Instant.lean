import Assay.Text.Blank
import Assay.Text.Search
import Assay.Time.Span

/-
  Instants of universal time, and their date-and-time text.

  An instant is a number of whole seconds since the start of 1970 and a fraction in nanoseconds.
  The fraction may reach two seconds: the second beyond the first is a leap second, written as
  second 60.

  Reading is lenient about the separators (blanks around them, a blank or a small `t` between date
  and time) and strict about the values.  Writing is canonical: three, six or nine decimals, or
  none.

  Days are numbered by years that start in March, in eras of 400 years (`Day.number`), and the day
  of a number (`Day.ofNumber`) has this number (`Assay.Proofs.Calendar`).  `text` writes an instant
  and `parse` reads one, with any offset, and what is written is read back
  (`Assay.Proofs.Instants`).

  The calendar ends, on both sides, and a sum of an instant and a span may lie behind the end.
  `after` is the sum without regard to this, in the arithmetic of whole numbers, and `after?` is the
  sum that the calendar covers, if it does.
-/

namespace Assay

/-- An instant of universal time. -/
structure Instant where
  seconds : Int
  nanos : Nat
  deriving DecidableEq, Repr, Inhabited

namespace Instant

/-! ## The calendar -/

/-- A day of the calendar. -/
structure Day where
  year : Int
  month : Nat
  day : Nat
  deriving DecidableEq, Repr

/-- A year with a 29th of February. -/
def isLeapYear (y : Int) : Bool := y % 4 == 0 && (y % 100 != 0 || y % 400 == 0)

/-- The number of days of a month. -/
def daysInMonth (y : Int) (m : Nat) : Nat :=
  if m = 2 then (if isLeapYear y then 29 else 28)
  else if m = 4 || m = 6 || m = 9 || m = 11 then 30 else 31

/-- Days since the first of January 1970.  Years are counted from March here, so that the leap day
is the last day of its year. -/
def Day.number (d : Day) : Int :=
  let y := if d.month ≤ 2 then d.year - 1 else d.year
  let era := y / 400
  let yearOfEra := y - era * 400
  let m : Int := if d.month > 2 then d.month - 3 else d.month + 9
  let dayOfYear := (153 * m + 2) / 5 + d.day - 1
  let dayOfEra := yearOfEra * 365 + yearOfEra / 4 - yearOfEra / 100 + dayOfYear
  era * 146097 + dayOfEra - 719468

/-- The day with the given number. -/
def Day.ofNumber (n : Int) : Day :=
  let z := n + 719468
  let era := z / 146097
  let dayOfEra := z - era * 146097
  let yearOfEra := (dayOfEra - dayOfEra / 1460 + dayOfEra / 36524 - dayOfEra / 146096) / 365
  let dayOfYear := dayOfEra - (365 * yearOfEra + yearOfEra / 4 - yearOfEra / 100)
  let m := (5 * dayOfYear + 2) / 153
  let month : Int := if m < 10 then m + 3 else m - 9
  let year := yearOfEra + era * 400 + (if month ≤ 2 then 1 else 0)
  ⟨year, month.toNat, (dayOfYear - (153 * m + 2) / 5 + 1).toNat⟩

/-! ## Writing -/

/-- A number with at least `width` digits. -/
def padded (width n : Nat) : String :=
  let ds := Nat.toDigits 10 n
  String.ofList (List.replicate (width - ds.length) '0' ++ ds)

/-- The year: four digits, or a sign and at least four. -/
def yearText (y : Int) : String :=
  if 0 ≤ y && y ≤ 9999 then padded 4 y.toNat
  else (if y < 0 then "-" else "+") ++ padded 4 y.natAbs

/-- The fraction of a second: as many groups of three decimals as it needs. -/
def fractionText (nanos : Nat) : String :=
  if nanos = 0 then ""
  else if nanos % 1000000 = 0 then "." ++ padded 3 (nanos / 1000000)
  else if nanos % 1000 = 0 then "." ++ padded 6 (nanos / 1000)
  else "." ++ padded 9 nanos

/-- Date and time, followed by the given name of the zone. -/
def text (t : Instant) (zone : String) : String :=
  let d := Day.ofNumber (t.seconds / 86400)
  let s := (t.seconds % 86400).toNat
  let leap := decide (1000000000 ≤ t.nanos)
  let second := s % 60 + (if leap then 1 else 0)
  let fraction := if leap then t.nanos - 1000000000 else t.nanos
  yearText d.year ++ "-" ++ padded 2 d.month ++ "-" ++ padded 2 d.day ++ "T" ++
    padded 2 (s / 3600) ++ ":" ++ padded 2 (s / 60 % 60) ++ ":" ++ padded 2 second ++
    fractionText fraction ++ zone

/-- The text of an instant in a report. -/
def zulu (t : Instant) : String := t.text "Z"

/-- The text of an instant with a numeric offset. -/
def numericOffset (t : Instant) : String := t.text "+00:00"

/-! ## Arithmetic -/

/-- The longest span that can be added to an instant: as many milliseconds as fit 63 bits. -/
def longestSpan : Nat := 0x7FFFFFFFFFFFFFFF * 1000000

/-- The instant a span later.  A leap second is left behind once its own second is over. -/
def add (t : Instant) (span : Span) : Instant :=
  let secs := span.nanos / 1000000000
  let frac := span.nanos % 1000000000
  if 1000000000 ≤ t.nanos && secs = 0 && t.nanos + frac < 2000000000 then
    ⟨t.seconds, t.nanos + frac⟩
  else
    let nanos := if 1000000000 ≤ t.nanos then t.nanos - 1000000000 else t.nanos
    let sum := nanos + frac
    ⟨t.seconds + secs + (sum / 1000000000 : Nat), sum % 1000000000⟩

/-- The instant a span later, on a line of seconds without an end; a span that is too long to be
added counts as none.  Whether the calendar still covers it is asked by `after?`. -/
def after (t : Instant) (span : Span) : Instant :=
  if span.nanos ≤ longestSpan then t.add span else t

/-- Years the calendar covers. -/
def yearInRange (y : Int) : Bool := -262143 ≤ y && y ≤ 262142

/-- The calendar covers the instant. -/
def isCovered (t : Instant) : Bool := yearInRange (Day.ofNumber (t.seconds / 86400)).year

/-- The instant a span later, unless it lies outside of the calendar. -/
def after? (t : Instant) (span : Span) : Option Instant :=
  if (t.after span).isCovered then some (t.after span) else none

/-- Milliseconds since the start of 1970. -/
def epochMillis (t : Instant) : Int := t.seconds * 1000 + (t.nanos / 1000000 : Nat)

/-! ## Reading -/

/-- Why a text is not a date and time. -/
inductive ParseError where
  | outOfRange | impossible | invalid | tooShort | tooLong
  deriving DecidableEq, Repr

/-- The wording of such an error. -/
def ParseError.message : ParseError → String
  | outOfRange => "input is out of range"
  | impossible => "no possible date and time matching input"
  | invalid => "input contains invalid characters"
  | tooShort => "premature end of input"
  | tooLong => "trailing input"

/-- A digit of the decimal system. -/
def isDigit (c : Char) : Bool := 48 ≤ c.toNat && c.toNat ≤ 57

/-- The value of a list of digits. -/
def valueOf (ds : List Char) : Nat := ds.foldl (fun n d => n * 10 + (d.toNat - 48)) 0

/-- Reads a number of at least one and at most `width` digits, behind blanks. -/
def readNumber (width : Nat) (s : List Char) : Except ParseError (Nat × List Char) :=
  let s := Text.trimLeft s
  let ds := (s.take width).takeWhile isDigit
  if s.isEmpty then .error .tooShort
  else if ds.isEmpty then .error .invalid
  else if 0x8000000000000000 ≤ valueOf ds then .error .outOfRange
  else .ok (valueOf ds, s.drop ds.length)

/-- Reads a number within bounds. -/
def readField (lo hi : Nat) (s : List Char) : Except ParseError (Nat × List Char) := do
  let (n, s) ← readNumber 2 s
  if lo ≤ n && n ≤ hi then return (n, s) else .error .outOfRange

/-- Reads a year: four digits, or any number of them behind a sign. -/
def readYear (s : List Char) : Except ParseError (Int × List Char) := do
  let s := Text.trimLeft s
  let signed (sign : Int) (rest : List Char) : Except ParseError (Int × List Char) := do
    -- Behind the sign no blank may stand.
    if rest.head?.any Text.isBlank then .error .invalid
    else
      let (n, s) ← readNumber rest.length rest
      return (sign * n, s)
  let (y, s) ← match s with
    | '-' :: rest => signed (-1) rest
    | '+' :: rest => signed 1 rest
    | _ => do
      let (n, s) ← readNumber 4 s
      pure ((n : Int), s)
  if -0x80000000 ≤ y && y < 0x80000000 then return (y, s) else .error .outOfRange

/-- Passes a separator, which blanks may precede. -/
def readMark (mark : Char) (s : List Char) : Except ParseError (List Char) :=
  match Text.trimLeft s with
  | [] => .error .tooShort
  | c :: rest => if c = mark then .ok rest else .error .invalid

/-- Reads a fraction of a second, if one follows: nine digits count. -/
def readFraction : List Char → Except ParseError (Nat × List Char)
  | '.' :: s =>
    let ds := (s.take 9).takeWhile isDigit
    if s.isEmpty then .error .tooShort
    else if ds.isEmpty then .error .invalid
    else .ok (valueOf ds * Nat.pow 10 (9 - ds.length), s.dropWhile isDigit)
  | s => .ok (0, s)

/-- Two digits at the front of a text. -/
def twoDigits (s : List Char) : Except ParseError (Nat × Nat) :=
  if Text.byteLength s < 2 then .error .tooShort
  else
    match s with
    | a :: b :: _ =>
      if isDigit a && isDigit b then .ok (a.toNat - 48, b.toNat - 48) else .error .invalid
    | _ => .error .invalid

/-- Reads an offset from universal time, in seconds. -/
def readOffset (s : List Char) : Except ParseError (Int × List Char) := do
  match s with
  | 'Z' :: rest | 'z' :: rest => return (0, rest)
  | [] => .error .tooShort
  | c :: rest =>
    let negative ← if c = '+' then pure false
      else if c = '-' || c = '−' then pure true else .error .invalid
    let (h1, h2) ← twoDigits rest
    let rest := (rest.drop 2).dropWhile fun c => c = ':' || Text.isBlank c
    let (m1, m2) ← twoDigits rest
    if 6 ≤ m1 then .error .outOfRange
    else
      let seconds : Int := (h1 * 10 + h2) * 3600 + (m1 * 10 + m2) * 60
      return (if negative then -seconds else seconds, rest.drop 2)

/-- The name of universal time, in any case. -/
def startsWithUtc (s : List Char) : Bool :=
  match s with
  | u :: t :: c :: _ => (u = 'U' || u = 'u') && (t = 'T' || t = 't') && (c = 'C' || c = 'c')
  | _ => false

/-- Reads a date and time with its offset. -/
def parseChars (s : List Char) : Except ParseError Instant := do
  let (year, s) ← readYear s
  let s ← readMark '-' s
  let (month, s) ← readField 1 12 s
  let s ← readMark '-' s
  let (day, s) ← readField 1 31 s
  let s ← match s with
    | 'T' :: rest | 't' :: rest | ' ' :: rest => pure rest
    | [] => .error .tooShort
    | _ :: _ => .error .invalid
  let (hour, s) ← readField 0 23 s
  let s ← readMark ':' s
  let (minute, s) ← readField 0 59 s
  let s ← readMark ':' s
  let (second, s) ← readField 0 60 s
  let (fraction, s) ← readFraction s
  let s := Text.trimLeft s
  let (offset, s) ← if startsWithUtc s then pure (0, s.drop 3) else readOffset s
  if !(Text.trimLeft s).isEmpty then .error .tooLong
  if !yearInRange year || daysInMonth year month < day then .error .outOfRange
  if offset ≤ -86400 || 86400 ≤ offset then .error .outOfRange
  let nanos := if second = 60 then fraction + 1000000000 else fraction
  let second := min second 59
  let days := (Day.mk year month day).number
  let seconds := days * 86400 + (hour * 3600 + minute * 60 + second : Nat) - offset
  if yearInRange (Day.ofNumber (seconds / 86400)).year then return ⟨seconds, nanos⟩
  else .error .impossible

/-- Reads a date and time with its offset. -/
def parse (s : String) : Except ParseError Instant := parseChars s.toList

end Instant

end Assay
