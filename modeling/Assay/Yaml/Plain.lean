import Assay.Json.Basic
import Assay.Yaml.Token

/-
  What a scalar stands for when nothing says what it has to be.

  A plain scalar is null, a truth value, an integer, a number with a fraction or a text, whichever
  of these it reads as first.  Digits with a leading zero are a text.  A scalar that is not plain is
  a text, and so is one with a tag, unless it is the tag of one of the other kinds.

  Integers may have a sign and be written in four bases; one that does not fit 64 bits is refused,
  unless it does not fit 128 either, and then it is no integer.  A few words stand for an infinite
  number or for none; a document has no such value, and they become null (`isBoundless`).
  `scalarValue` puts tags, styles and plain values together.
-/

namespace Assay.Yaml

/-- Plain scalars that stand for null. -/
def isNull (s : String) : Bool := s = "null" || s = "Null" || s = "NULL" || s = "~"

/-- Plain scalars that stand for truth values. -/
def truth? (s : String) : Option Bool :=
  if s = "true" || s = "True" || s = "TRUE" then some true
  else if s = "false" || s = "False" || s = "FALSE" then some false
  else none

/-! ## Numbers -/

/-- The number that digits of some base stand for; there has to be one at least. -/
def digitsValue? (base : Nat) (ds : List Char) : Option Nat :=
  if ds.isEmpty then none
  else ds.foldlM (fun n c => do
    let lower := if 'A' ≤ c ∧ c ≤ 'Z' then c.toNat + 32 else c.toNat
    let v ← if c.isDigit then some (c.toNat - 48)
      else if 97 ≤ lower ∧ lower ≤ 122 then some (lower - 87) else none
    if v < base then some (n * base + v) else none) 0

/-- A leading zero followed by nothing but digits: such a scalar is no number. -/
def hasLeadingZero (s : List Char) : Bool :=
  let body := match s with
    | '-' :: rest => rest
    | '+' :: rest => rest
    | _ => s
  match body with
  | '0' :: d :: rest => (d :: rest).all Char.isDigit
  | _ => false

/-- An integer without sign: hexadecimal, octal and binary ones name their base. -/
def natural? (s : List Char) : Option Nat :=
  match s with
  | '0' :: 'x' :: ds => digitsValue? 16 ds
  | '0' :: 'o' :: ds => digitsValue? 8 ds
  | '0' :: 'b' :: ds => digitsValue? 2 ds
  | ds => digitsValue? 10 ds

/-- An integer. -/
def integer? (s : List Char) : Option Int :=
  if hasLeadingZero s then none
  else
    match s with
    | '-' :: ds => (natural? ds).map fun n => -(n : Int)
    | '+' :: ds => (natural? ds).map Int.ofNat
    | ds => (natural? ds).map Int.ofNat

/-- The digits in front of something else. -/
def digitRun (s : List Char) : List Char × List Char :=
  (s.takeWhile Char.isDigit, s.dropWhile Char.isDigit)

/-- The number behind the mark of an exponent, zero if there is no mark. -/
def exponent? (s : List Char) : Option Int :=
  match s with
  | [] => some 0
  | e :: rest =>
    if e = 'e' || e = 'E' then
      match rest with
      | '-' :: ds =>
        if ds.all Char.isDigit then (digitsValue? 10 ds).map fun n => -(n : Int) else none
      | '+' :: ds => if ds.all Char.isDigit then (digitsValue? 10 ds).map Int.ofNat else none
      | ds => if ds.all Char.isDigit then (digitsValue? 10 ds).map Int.ofNat else none
    else none

/-- A decimal number without sign: its digits and the exponent of the last one. -/
def decimal? (s : List Char) : Option (Nat × Int) := do
  let (whole, rest) := digitRun s
  let (fraction, rest) := match rest with
    | '.' :: more => digitRun more
    | _ => ([], rest)
  let digits ← digitsValue? 10 (whole ++ fraction)
  let e ← exponent? rest
  return (digits, e - fraction.length)

/-- The double nearest to a decimal number, if there is one.  Numbers far out of range are settled
without computing their powers of ten. -/
def boundedDecimal (negative : Bool) (digits : Nat) (exponent : Int) : Option Double :=
  let size : Int := (Nat.toDigits 10 digits).length + exponent
  if digits = 0 ∨ size < -400 then some (Double.zero negative)
  else if 400 < size then none
  else Double.nearestDecimal negative digits exponent

/-- A number with a fraction or an exponent, or an integer too large for one. -/
def double? (s : List Char) : Option Double := do
  let (negative, body) := match s with
    | '-' :: rest => (true, rest)
    | '+' :: rest => (false, rest)
    | _ => (false, s)
  let (digits, exponent) ← decimal? body
  boundedDecimal negative digits exponent

/-- Plain scalars that stand for an infinite number, or for none. -/
def isBoundless (s : String) : Bool :=
  let unsigned := if s.startsWith "+" || s.startsWith "-" then (s.drop 1).toString else s
  unsigned = ".inf" || unsigned = ".Inf" || unsigned = ".INF" ||
    s = ".nan" || s = ".NaN" || s = ".NAN"

/-! ## Scalars -/

/-- An integer as a document.  One of at most 128 bits that does not fit 64 is refused; larger ones
are no integers. -/
def integerValue? (s : String) : Option (Except Fault Json) :=
  match integer? s.toList with
  | none => none
  | some n =>
    match Json.Number.ofInt? n with
    | some v => some (.ok (.number v))
    | none =>
      if -0x80000000000000000000000000000000 ≤ n ∧ n < 0x100000000000000000000000000000000 then
        some (.error .wrongScalar)
      else none

/-- A number that is no integer.  A document has no number without bounds. -/
def doubleValue? (s : String) : Option Json :=
  if isBoundless s then some .null else (double? s.toList).map fun d => .number (.double d)

/-- What a plain scalar stands for. -/
def plainValue (s : String) : Except Fault Json :=
  if s.isEmpty || isNull s then .ok .null
  else
    match truth? s with
    | some b => .ok (.bool b)
    | none =>
      match integerValue? s with
      | some v => v
      | none =>
        if hasLeadingZero s.toList then .ok (.string s)
        else .ok ((doubleValue? s).getD (.string s))

/-- The tags of the kinds that a scalar may be of, beside texts. -/
def nullTag : String := "tag:yaml.org,2002:null"
@[inherit_doc nullTag] def boolTag : String := "tag:yaml.org,2002:bool"
@[inherit_doc nullTag] def intTag : String := "tag:yaml.org,2002:int"
@[inherit_doc nullTag] def floatTag : String := "tag:yaml.org,2002:float"

/-- A tag that is private to a document. -/
def isLocal (tag : Option String) : Bool := tag.any (·.startsWith "!")

/-- What a scalar stands for. -/
def scalarValue (tag : Option String) (style : ScalarStyle) (s : String) : Except Fault Json :=
  match tag with
  | none => if style = .plain then plainValue s else .ok (.string s)
  | some t =>
    if isLocal tag then .error .localTag
    else if t = boolTag then ((truth? s).map fun b => .ok (.bool b)).getD (.error .wrongScalar)
    else if t = intTag then (integerValue? s).getD (.error .wrongScalar)
    else if t = floatTag then ((doubleValue? s).map .ok).getD (.error .wrongScalar)
    else if t = nullTag then if isNull s then .ok .null else .error .wrongScalar
    else .ok (.string s)

end Assay.Yaml
