import Assay.Text.Casing
import Assay.Time.Instant
import Assay.Uuid

/-
  Built-in variables.

  The name of a built-in variable starts with `$`.  Its value is generated, not given: from the
  current time or at random.  `Draw` holds everything that the values of one test are made from, so
  that all places in a test that use a built-in variable see the same value.

  `generate` makes the value of a built-in variable from a draw.  The time is that of the draw, in
  universal time, and the random values are made of its numbers, which are not bounded: a number is
  read as the digits of a random text (`randomText`).  `isWellFormed` says what such a value looks
  like without knowing the draw; it is what can be checked about a value that came from elsewhere.
-/

namespace Assay

/-- A built-in variable. -/
inductive BuiltIn where
  | uuid | timestamp | isoTimestamp | randomInt | randomString | randomEmail | date
  deriving DecidableEq, Repr

namespace BuiltIn

/-- The name of a built-in variable. -/
def name : BuiltIn → String
  | uuid => "$uuid"
  | timestamp => "$timestamp"
  | isoTimestamp => "$isoTimestamp"
  | randomInt => "$randomInt"
  | randomString => "$randomString"
  | randomEmail => "$randomEmail"
  | date => "$date"

/-- All built-in variables. -/
def all : List BuiltIn :=
  [uuid, timestamp, isoTimestamp, randomInt, randomString, randomEmail, date]

/-- The built-in variable of a name. -/
def ofName? (s : String) : Option BuiltIn := all.find? fun b => b.name == s

/-! ## Generated values -/

/-- What the values of one test are made from: the time, and numbers drawn at random. -/
structure Draw where
  now : Instant
  uuid : Nat
  integer : Nat
  letters : Nat

/-- The characters of random texts. -/
def alphabet : List Char :=
  "ABCDEFGHIJKLMNOPQRSTUVWXYZabcdefghijklmnopqrstuvwxyz0123456789".toList

/-- A text of the given length whose characters are the digits of a number. -/
def randomText : Nat → Nat → List Char
  | 0, _ => []
  | k + 1, n => (alphabet[n % alphabet.length]?).getD 'A' :: randomText k (n / alphabet.length)

/-- The value of a built-in variable. -/
def generate (d : Draw) : BuiltIn → String
  | uuid => (Uuid.random d.uuid).text
  | timestamp => toString d.now.seconds
  | isoTimestamp => d.now.numericOffset
  | randomInt => toString (d.integer % 1001)
  | randomString => String.ofList (randomText 16 d.letters)
  | randomEmail => String.ofList ((randomText 8 d.letters).map Text.asciiLower) ++ "@example.com"
  | date => String.ofList (d.now.numericOffset.toList.takeWhile (· ≠ 'T'))

/-! ## The shapes of the values -/

/-- A text of lower case letters and digits of the basic Latin alphabet. -/
def isLowerText (s : List Char) : Bool :=
  s.all fun c => alphabet.contains c && c == Text.asciiLower c

/-- A value has the shape that the built-in variable promises. -/
def isWellFormed (b : BuiltIn) (value : String) : Bool :=
  match b with
  | uuid => match Uuid.parse value with
    | .ok u => u.isRandom && u.text == value
    | .error _ => false
  | timestamp => match value.toInt? with
    | some n => toString n == value
    | none => false
  | isoTimestamp => match Instant.parse value with
    | .ok t => t.numericOffset == value
    | .error _ => false
  | randomInt => match value.toNat? with
    | some n => n ≤ 1000 && toString n == value
    | none => false
  | randomString => value.length == 16 && value.toList.all alphabet.contains
  | randomEmail =>
    isLowerText (value.toList.take 8) && String.ofList (value.toList.drop 8) == "@example.com"
  | date => match Instant.parse (value ++ "T00:00:00Z") with
    | .ok t => t.numericOffset == value ++ "T00:00:00+00:00"
    | .error _ => false

end BuiltIn

end Assay
