import Assay.Json.Decode

/-
  How a test ends.

  A test ends in one of four ways.  "Failed" (the system under test misbehaved) and "broken" (the
  test could not be brought to the point where anything is checked) are kept apart; a test that is
  skipped is neither.

  `Outcome` is what a report tells, and `OutcomeKind` what a summary counts.  A `Diagnostic` is one
  mismatch: the name of the checker that found it, the place it is about, if there is one, and a
  message.

  A failed outcome carries its diagnostics as they were found.  `Outcome.ofDiagnostics` makes an
  outcome of what checkers have found, so a test passes exactly if nothing was found.  Why a test
  was skipped or broken is kept as a text, since nothing looks at it any more.
-/

namespace Assay

/-! ## Diagnostics -/

/-- A mismatch that a checker reports. -/
structure Diagnostic where
  checker : String
  path : Option String
  message : String
  deriving DecidableEq, Repr, Inhabited

namespace Diagnostic

/-- A diagnostic without a place. -/
def plain (checker message : String) : Diagnostic := ⟨checker, none, message⟩

/-- A diagnostic at a place. -/
def anchored (checker path message : String) : Diagnostic := ⟨checker, some path, message⟩

/-- The diagnostic as it is shown. -/
def text (d : Diagnostic) : String :=
  match d.path with
  | some path => s!"[{d.checker}] {path}: {d.message}"
  | none => s!"[{d.checker}] {d.message}"

/-- How the record describes itself. -/
def shape : Json.RecordShape := ⟨"struct Diagnostic", 3⟩

/-- Decodes a diagnostic. -/
def decode : Json.Decoder Diagnostic := Json.asRecord shape fun fs =>
  Diagnostic.mk
    <$> fs.required shape 0 "checker" Json.asText
    <*> fs.withDefault shape 1 "path" (Json.asOption Json.asText) none
    <*> fs.required shape 2 "message" Json.asText

/-- The diagnostic as a document; the place is left out if there is none. -/
def encode (d : Diagnostic) : Json :=
  .object ([("checker", .string d.checker)] ++
    (match d.path with | some p => [("path", .string p)] | none => []) ++
    [("message", .string d.message)])

end Diagnostic

/-! ## Kinds -/

/-- The ways in which a test can end. -/
inductive OutcomeKind where
  | passed | failed | skipped | broken
  deriving DecidableEq, Repr, Inhabited

namespace OutcomeKind

/-- The name in documents. -/
def name : OutcomeKind → String
  | passed => "passed"
  | failed => "failed"
  | skipped => "skipped"
  | broken => "broken"

/-- The label on the console. -/
def label : OutcomeKind → String
  | passed => "PASS"
  | failed => "FAIL"
  | skipped => "SKIP"
  | broken => "BROKEN"

/-- The kinds with their names. -/
def names : List (String × OutcomeKind) := [
  ("passed", passed), ("failed", failed), ("skipped", skipped), ("broken", broken)]

/-- Decodes a kind from its name. -/
def decode : Json.Decoder OutcomeKind := Json.asName names

end OutcomeKind

/-! ## Outcomes -/

/-- How a single test ended. -/
inductive Outcome where
  | passed
  | failed (diagnostics : List Diagnostic)
  | skipped (reason : String)
  | broken (cause : String)
  deriving DecidableEq, Repr, Inhabited

namespace Outcome

/-- The kind of an outcome. -/
def kind : Outcome → OutcomeKind
  | passed => .passed
  | failed _ => .failed
  | skipped _ => .skipped
  | broken _ => .broken

/-- The outcome of a test that was checked: it passed if nothing was found. -/
def ofDiagnostics (ds : List Diagnostic) : Outcome := if ds.isEmpty then passed else failed ds

/-- What was found, if the test failed. -/
def diagnostics : Outcome → List Diagnostic
  | failed ds => ds
  | _ => []

/-- What is told about a test that did not pass. -/
def message? : Outcome → Option String
  | passed => none
  | failed ds => some ("\n".intercalate (ds.map Diagnostic.text))
  | skipped reason => some reason
  | broken cause => some cause

/-- How the record of a kind describes itself. -/
def shapeOf (variant : String) : Json.RecordShape := ⟨s!"struct variant Outcome::{variant}", 1⟩

/-- Reads the field of a kind. -/
def decodeFields (fs : Json.Fields) : OutcomeKind → Except DecodeError Outcome
  | .passed => .ok passed
  | .failed =>
    let s := shapeOf "Failed"
    Json.finishTagged fs s
      (failed <$> fs.required s 0 "diagnostics" (Json.asList Diagnostic.decode))
  | .skipped =>
    let s := shapeOf "Skipped"
    Json.finishTagged fs s (skipped <$> fs.required s 0 "reason" Json.asText)
  | .broken =>
    let s := shapeOf "Broken"
    Json.finishTagged fs s (broken <$> fs.required s 0 "cause" Json.asText)

/-- Decodes an outcome. -/
def decode : Json.Decoder Outcome := fun v => do
  let (kind, fs) ← Json.splitTag "Outcome" "kind" OutcomeKind.names v
  decodeFields fs kind

/-- The outcome as a document. -/
def encode (o : Outcome) : Json :=
  .object (("kind", .string o.kind.name) :: match o with
    | passed => []
    | failed ds => [("diagnostics", .array (ds.map Diagnostic.encode))]
    | skipped reason => [("reason", .string reason)]
    | broken cause => [("cause", .string cause)])

end Outcome

end Assay
