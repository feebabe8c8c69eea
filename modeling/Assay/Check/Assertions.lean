import Assay.Case.Basic
import Assay.Check.Fault
import Assay.Check.Pattern
import Assay.Http.Response
import Assay.Report.Outcome
import Assay.Text.Casing

/-
  Evaluating typed assertions.

  An assertion holds, fails with a message, or cannot be evaluated.  Of several assertions each one
  that fails gives a diagnostic, and the first one that cannot be evaluated ends the check.

  `failure` is the one function that knows the kinds of assertions: it gives the message of an
  assertion that fails, nothing if the assertion holds, and a fault if it cannot be evaluated.
  `evaluate` puts the place of the value in front (`placeOf`), and `checkAll` goes through a list.

  Not everything that is wrong with an assertion is a fault.  The body is read as a document only
  for the kinds that need one, a body that is none lets such an assertion fail, and a path or a
  pattern is looked at only when there is a value for it.  So the same malformed assertion can be a
  fault with one response and a mismatch with another one; `Assay.Proofs.Malformed` says exactly
  when it is a fault.  Numbers are ordered by their doubles (`compareNumbers`), whatever they are
  written as; what this means for large integers is the matter of `Assay.Proofs.Comparing`.  Texts
  without regard to case are compared by their small forms, see `Assay.Proofs.Lettercase`.
-/

namespace Assay.Check.Assertions

/-- The name of the checker. -/
def name : String := "assertions"

/-- How many bytes of a body are shown. -/
def previewSize : Nat := 100

/-- A fault of this checker. -/
def fault {α : Type} (f : CheckFault) : Except CheckError α := .error ⟨name, f⟩

/-- The message, if the condition does not hold. -/
def complaint (holds : Bool) (message : String) : Option String :=
  if holds then none else some message

/-- Tests a text against the pattern of an assertion. -/
def testPatternOf [PatternEngine] (pattern text : String) : Except CheckError Bool :=
  match testPattern pattern text with
  | .ok b => .ok b
  | .error e => fault (.pattern pattern e)

/-! ## Comparing values -/

/-- A document as a double, if it is a number. -/
def numberOf? : Json → Option Double
  | .number n => some n.toDouble
  | _ => none

/-- Compares two numbers as doubles; documents that are no numbers are not ordered. -/
def compareNumbers (actual expected : Json) (test : Double → Double → Bool) : Bool :=
  match numberOf? actual, numberOf? expected with
  | some a, some b => test a b
  | _, _ => false

/-- The value contains another one: a text its fragments, an array its items. -/
def containsValue : Json → Json → Bool
  | .string s, .string fragment => Text.contains s fragment
  | .array items, expected => items.any fun v => v.same expected
  | _, _ => false

/-- The value matches a pattern; a pattern that cannot be read matches nothing. -/
def matchesValue [PatternEngine] : Json → Json → Bool
  | .string s, .string pattern => match testPattern pattern s with
    | .ok b => b
    | .error _ => false
  | _, _ => false

/-- Compares two values. -/
def compareValues [PatternEngine] (actual : Json) (o : Operator) (expected : Json) : Bool :=
  match o with
  | .equals => actual.same expected
  | .notEquals => !actual.same expected
  | .greaterThan => compareNumbers actual expected fun a b => b.less a
  | .greaterThanOrEqual => compareNumbers actual expected fun a b => b.lessEq a
  | .lessThan => compareNumbers actual expected fun a b => a.less b
  | .lessThanOrEqual => compareNumbers actual expected fun a b => a.lessEq b
  | .contains => containsValue actual expected
  | .matchesPattern => matchesValue actual expected

/-- Compares two lengths; two of the operators are not for numbers. -/
def compareLengths (actual : Nat) (o : Operator) (expected : Nat) : Option Bool :=
  match o with
  | .equals => some (actual == expected)
  | .notEquals => some (actual != expected)
  | .greaterThan => some (decide (expected < actual))
  | .greaterThanOrEqual => some (decide (expected ≤ actual))
  | .lessThan => some (decide (actual < expected))
  | .lessThanOrEqual => some (decide (actual ≤ expected))
  | .contains => none
  | .matchesPattern => none

/-- The text starts and ends with a tag, and has as many opening as closing angle brackets. -/
def looksLikeXml (body : String) : Bool :=
  let s := Text.trimBoth body.toList
  s.head? == some '<' && s.getLast? == some '>' && s.count '<' == s.count '>'

/-! ## Evaluation -/

/-- The message of a failed assertion, if it fails, about the value under a path of the body. -/
def evaluatePath (r : Response) (path : String) (test : Json → Option String) :
    Except CheckError (Option String) :=
  match r.json? with
  | none => .ok (some "body is not valid JSON")
  | some document =>
    match document.query path with
    | .error e => fault (.path e)
    | .ok none => .ok (some "path not found")
    | .ok (some v) => .ok (test v)

/-- The milliseconds that a response took, as far as they fit a 64-bit word. -/
def tookMillis (r : Response) : Nat := min r.duration.millis 0xFFFFFFFFFFFFFFFF

/-- The message of a failed assertion, if it fails. -/
def failure [PatternEngine] (a : Assertion) (r : Response) : Except CheckError (Option String) :=
  match a with
  | .statusCode expected =>
    .ok (complaint (expected.accepts r.status) s!"expected status {expected.text}, got {r.status}")
  | .responseTime maxMillis =>
    .ok (complaint (decide (tookMillis r ≤ maxMillis.toNat))
      s!"response took {tookMillis r}ms, expected <= {maxMillis}ms")
  | .headerExists header value =>
    .ok (match r.header? header, value with
      | none, _ => some s!"header '{header}' not found"
      | some actual, some expected =>
        complaint (actual == expected) s!"header '{header}' is '{actual}', expected '{expected}'"
      | some _, none => none)
  | .headerMatches header pattern =>
    match r.header? header with
    | none => .ok (some s!"header '{header}' not found")
    | some actual => (testPatternOf pattern actual).map fun holds =>
        complaint holds s!"header '{header}' value '{actual}' does not match /{pattern}/"
  | .bodyContains text ignoreCase =>
    let holds := if ignoreCase then Text.contains (Text.lower r.body) (Text.lower text)
      else Text.contains r.body text
    .ok (complaint holds s!"body does not contain '{text}': {r.preview previewSize}")
  | .bodyMatches pattern =>
    (testPatternOf pattern r.body).map fun holds =>
      complaint holds s!"body does not match /{pattern}/: {r.preview previewSize}"
  | .jsonPath path expected =>
    evaluatePath r path fun actual =>
      match expected with
      | some e => complaint (actual.same e) s!"expected {e.compact}, got {actual.compact}"
      | none => none
  | .jsonPathMatches path o value =>
    evaluatePath r path fun actual =>
      complaint (compareValues actual o value)
        s!"{actual.compact} {o.symbol} {value.compact} does not hold"
  | .bodyEquals expected =>
    .ok (complaint (r.body == expected)
      s!"body does not equal expected value: {r.preview previewSize}")
  | .isJson =>
    .ok (match Json.parse r.body with
      | .ok _ => none
      | .error e => some s!"body is not valid JSON: {e.message}")
  | .isXml => .ok (complaint (looksLikeXml r.body) "body does not appear to be valid XML")
  | .contentType expected =>
    .ok (match r.contentType? with
      | none => some "no Content-Type header present"
      | some actual => complaint (Text.contains actual expected)
          s!"Content-Type '{actual}' does not contain '{expected}'")
  | .bodyLength o length =>
    match compareLengths r.body.utf8ByteSize o length.toNat with
    | none => fault (.lengthOperator o)
    | some holds =>
      .ok
        (complaint holds s!"body length {r.body.utf8ByteSize} does not satisfy {o.symbol} {length}")

/-- Where the value stands that an assertion is about. -/
def placeOf : Assertion → Option String
  | .jsonPath path _ => some path
  | .jsonPathMatches path _ _ => some path
  | _ => none

/-- Evaluates one assertion: nothing if it holds, a diagnostic if it fails. -/
def evaluate [PatternEngine] (a : Assertion) (r : Response) :
    Except CheckError (Option Diagnostic) :=
  (failure a r).map fun m => m.map fun message => ⟨name, placeOf a, message⟩

/-- Evaluates some assertions, in order; the first fault ends the check. -/
def checkAll [PatternEngine] (r : Response) : List Assertion → Except CheckError (List Diagnostic)
  | [] => .ok []
  | a :: rest => do
    let found ← evaluate a r
    let others ← checkAll r rest
    return found.toList ++ others

/-- Evaluates the assertions of a test. -/
def check [PatternEngine] (t : TestCase) (r : Response) : Except CheckError (List Diagnostic) :=
  checkAll r t.expect.assertions

end Assay.Check.Assertions
