import Assay.Case.Basic
import Assay.Check.Pattern
import Assay.Json.Path
import Assay.Pairing
import Assay.Report.Outcome

/-
  Comparing an expected document with an actual one.

  The expected document leads: every member and every item of it must be there in the actual
  document.  An expected string that is a marker stands for any string, number or truth value whose
  text matches its pattern.  The options say whether values count, whether the order of arrays
  counts, and whether the actual document may have members that nobody expects.

  Where the order of arrays does not count, each expected item needs an actual item of its own; the
  two are paired so that as few as possible stay without one.

  The result is a list of mismatches, each with its place and its cause.

  `Json.compare` gives the mismatches below one place: the members that are expected in their order
  and then those that nobody expects, the items one after the other, or at a leaf the one thing that
  is wrong there.  `Json.matchesDocument` is the same question without the answer where, for the
  items of an array whose order does not count; the two are tied together in
  `Assay.Proofs.Matching`, which also has the rules that they follow as a relation between
  documents, apart from any traversal.

  Both recurse on the expected document alone.  In particular the rows of an unordered array are
  computed item by item (`matchRows`) before any of them is paired with a column, so the pairing of
  `Assay.Pairing` is a matter of lists of truth values.  That the number of items that stay without
  a partner is as small as it can be is shown in `Assay.Proofs.Unpaired`; how the options weaken the
  comparison is in `Assay.Proofs.Relaxing`, and how matching relates documents to each other in
  `Assay.Proofs.Relating`.
-/

namespace Assay

/-- The type of a document, as it is named in a message. -/
def Json.typeName : Json → String
  | null => "null"
  | bool _ => "boolean"
  | number _ => "number"
  | string _ => "string"
  | array _ => "array"
  | object _ => "object"

/-! ## Mismatches -/

/-- How an actual document differs from what is expected. -/
inductive MismatchCause where
  | missing
  | unexpected
  | lengths (expected actual : Nat)
  | types (expected actual : String)
  | values (expected actual : Json)
  | noText (pattern type : String)
  | noMatch (pattern : String) (actual : Json)
  | badPattern (pattern : String) (error : Regex.Error)
  | unpaired (expected : Json)
  deriving Repr

/-- The wording of a mismatch. -/
def MismatchCause.message : MismatchCause → String
  | missing => "field is missing"
  | unexpected => "unexpected field"
  | lengths e a => s!"array length differs: expected {e}, got {a}"
  | types e a => s!"type mismatch: expected {e}, got {a}"
  | values e a => s!"expected {e.compact}, got {a.compact}"
  | noText p t => s!"expected a value matching /{p}/, got {t}"
  | noMatch p a => s!"value {a.compact} does not match /{p}/"
  | badPattern p e => s!"invalid regex /{p}/: {e.message}"
  | unpaired e => s!"no matching element for {e.compact}"

/-- A mismatch at a place. -/
structure Mismatch where
  place : List Step
  cause : MismatchCause
  deriving Repr

/-- The mismatch as a diagnostic; `root` stands for the whole document. -/
def Mismatch.diagnostic (checker root : String) (m : Mismatch) : Diagnostic :=
  .anchored checker (Step.join root m.place) m.cause.message

/-! ## Comparison -/

namespace Json

/-- The text of a value that a pattern can be tested on. -/
def testableText? : Json → Option String
  | string s => some s
  | number n => some (Json.number n).compact
  | bool b => some (Json.bool b).compact
  | _ => none

/-- Compares a value with the pattern of a marker. -/
def comparePattern [PatternEngine] (place : List Step) (pattern : String) (actual : Json) :
    List Mismatch :=
  match actual.testableText? with
  | none => [⟨place, .noText pattern actual.typeName⟩]
  | some text =>
    match testPattern pattern text with
    | .ok true => []
    | .ok false => [⟨place, .noMatch pattern actual⟩]
    | .error e => [⟨place, .badPattern pattern e⟩]

/-- Compares two documents of which at most one is an object and at most one is an array. -/
def compareLeaves (o : CompareOptions) (place : List Step) (expected actual : Json) :
    List Mismatch :=
  if expected.typeName ≠ actual.typeName then [⟨place, .types expected.typeName actual.typeName⟩]
  else if !o.ignoreValues && !expected.same actual then [⟨place, .values expected actual⟩]
  else []

/-- The members that nobody expects. -/
def unexpectedMembers (place : List Step) (expected actual : List (String × Json)) :
    List Mismatch :=
  (actual.filter fun m => (lookup m.1 expected).isNone).map fun m =>
    ⟨place ++ [.member m.1], .unexpected⟩

/-- The expected items that stay without an actual item of their own, given which of them match. -/
def unpairedItems (place : List Step) (expected : List Json) (rows : List (List Bool))
    (columns : Nat) :
    List Mismatch :=
  let candidates (i : Nat) : List Nat :=
    (List.range columns).filter fun j => (rows.getD i []).getD j false
  (Pairing.unserved candidates expected.length columns).filterMap fun i =>
    expected[i]?.map fun e => ⟨place ++ [.item i], .unpaired e⟩

mutual
/-- The mismatches between an expected and an actual document. -/
def compare [PatternEngine] (o : CompareOptions) (place : List Step) : Json → Json → List Mismatch
  | .string s, actual =>
    match patternOf? s with
    | some pattern => comparePattern place pattern actual
    | none => compareLeaves o place (.string s) actual
  | .object expected, .object actual =>
    compareMembers o place expected actual ++
      (if o.disallowExtraFields then unexpectedMembers place expected actual else [])
  | .array expected, .array actual =>
    if expected.length ≠ actual.length then [⟨place, .lengths expected.length actual.length⟩]
    else if o.ignoreArrayOrder then
      unpairedItems place expected (matchRows o expected actual) actual.length
    else compareItems o place 0 expected actual
  | expected, actual => compareLeaves o place expected actual
termination_by structural expected => expected
/-- The mismatches under the members of an object. -/
def compareMembers [PatternEngine] (o : CompareOptions) (place : List Step) :
    List (String × Json) → List (String × Json) → List Mismatch
  | [], _ => []
  | (key, value) :: rest, actual =>
    (match lookup key actual with
      | some v => compare o (place ++ [.member key]) value v
      | none => [⟨place ++ [.member key], .missing⟩]) ++ compareMembers o place rest actual
termination_by structural expected => expected
/-- The mismatches between arrays, item by item. -/
def compareItems [PatternEngine] (o : CompareOptions) (place : List Step) :
    Nat → List Json → List Json → List Mismatch
  | i, e :: es, a :: as => compare o (place ++ [.item i]) e a ++ compareItems o place (i + 1) es as
  | _, _, _ => []
termination_by structural _ expected => expected
/-- Which expected item matches which actual item. -/
def matchRows [PatternEngine] (o : CompareOptions) : List Json → List Json → List (List Bool)
  | [], _ => []
  | e :: es, actual => (actual.map fun a => (compare o [] e a).isEmpty) :: matchRows o es actual
termination_by structural expected => expected
end

/-- The documents match. -/
def matchesDocument [PatternEngine] (o : CompareOptions) (expected actual : Json) : Bool :=
  (compare o [] expected actual).isEmpty

/-- The mismatches between two documents as diagnostics of a checker. -/
def diagnoseAt [PatternEngine] (checker root : String) (o : CompareOptions)
    (expected actual : Json) : List Diagnostic :=
  (compare o [] expected actual).map (Mismatch.diagnostic checker root)

/-- The mismatches between two documents as diagnostics of a checker, with places from the root
`$`. -/
def diagnose [PatternEngine] (checker : String) (o : CompareOptions) (expected actual : Json) :
    List Diagnostic :=
  diagnoseAt checker "$" o expected actual

end Json

end Assay
