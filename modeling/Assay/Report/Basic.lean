import Assay.Files.Path
import Assay.Http.Request
import Assay.Http.Response
import Assay.Report.Outcome
import Assay.Time.Instant

/-
  Reports on single tests, and the summary of a run.

  A report is written as a document and read back from one.  Two things can go wrong with a report
  that is otherwise in order: its test may end after the last day of the calendar
  (`TestReport.finishedAt?`), and the path of its file may be no text, so that there is no document
  of it (`TestReport.flaw?`).

  `TestReport.encode` and `TestReport.decode` are the two directions.  What is read back differs
  from what was written in one thing: spans of time are cut to whole milliseconds, that of the test
  and that of its response.  This is stated as an equation in `Assay.Proofs.Reports`.

  A `RunSummary` counts reports by the kind of their outcome, one at a time (`RunSummary.record`).
  The counts are numbers without a bound, and the sum of the durations is kept by whoever counts:
  the run itself measures its own time, and a console adds up (`Console.count`).  That all views of
  a run agree on these counts is shown in `Assay.Proofs.Views`.
-/

namespace Assay

/-! ## What was sent -/

/-- Method and address of the request that a test sent. -/
structure RequestSummary where
  method : Method
  url : String
  deriving DecidableEq, Repr

namespace RequestSummary

/-- How the record describes itself. -/
def shape : Json.RecordShape := ⟨"struct RequestSummary", 2⟩

/-- Decodes a request summary. -/
def decode : Json.Decoder RequestSummary := Json.asRecord shape fun fs =>
  RequestSummary.mk
    <$> fs.required shape 0 "method" Method.decode
    <*> fs.required shape 1 "url" Json.asText

/-- The request summary as a document. -/
def encode (r : RequestSummary) : Json :=
  .object [("method", r.method.encode), ("url", .string r.url)]

end RequestSummary

/-! ## Reports -/

/-- Everything that an output learns about one test. -/
structure TestReport where
  name : String
  file : Option Files.SourcePath
  outcome : Outcome
  startedAt : Instant
  duration : Span
  request : Option RequestSummary
  response : Option Response
  deriving DecidableEq, Repr, Inhabited

namespace TestReport

/-- The kind of the outcome. -/
def kind (r : TestReport) : OutcomeKind := r.outcome.kind

/-- When the test ended, on a line of seconds without an end. -/
def finishedAt (r : TestReport) : Instant := r.startedAt.after r.duration

/-- When the test ended, unless that lies outside of the calendar. -/
def finishedAt? (r : TestReport) : Option Instant := r.startedAt.after? r.duration

/-- How the record describes itself. -/
def shape : Json.RecordShape := ⟨"struct TestReport", 7⟩

/-- Decodes an instant from its text. -/
def decodeInstant : Json.Decoder Instant
  | .string s => (Instant.parse s).mapError fun e => .custom e.message
  | v => v.unexpected "an RFC 3339 formatted date and time string"

/-- Decodes the path of a file.  What a document holds is a text. -/
def decodeFile : Json.Decoder Files.SourcePath := fun v => (Json.asPath v).map .text

/-- Decodes a report. -/
def decode : Json.Decoder TestReport := Json.asRecord shape fun fs =>
  TestReport.mk
    <$> fs.required shape 0 "name" Json.asText
    <*> fs.withDefault shape 1 "file" (Json.asOption decodeFile) none
    <*> fs.required shape 2 "outcome" Outcome.decode
    <*> fs.required shape 3 "started_at" decodeInstant
    <*> fs.required shape 4 "duration" Response.decodeMillis
    <*> fs.withDefault shape 5 "request" (Json.asOption RequestSummary.decode) none
    <*> fs.withDefault shape 6 "response" (Json.asOption Response.decode) none

/-- A document as a member; an absent one is left out. -/
def member (name : String) : Option Json → List (String × Json)
  | none => []
  | some v => [(name, v)]

/-- The path of the file, if it is a text. -/
def fileText? (r : TestReport) : Option String := r.file.bind Files.SourcePath.text?

/-- Why there is no document of a report. -/
def flaw? (r : TestReport) : Option String :=
  match r.file with
  | some (.bytes _ _) => some "path contains invalid UTF-8 characters"
  | _ => none

/-- The report as a document; a path that is no text is not in it, and makes it no document of this
report. -/
def encode (r : TestReport) : Json :=
  .object ([("name", .string r.name)] ++ Request.textMember "file" r.fileText? ++
    [("outcome", r.outcome.encode), ("started_at", .string r.startedAt.zulu),
      ("duration", Json.word r.duration.millisWord)] ++
    member "request" (r.request.map RequestSummary.encode) ++
    member "response" (r.response.map Response.encode))

end TestReport

/-! ## Summaries -/

/-- How many tests ended in which way. -/
structure RunSummary where
  total : Nat
  passed : Nat
  failed : Nat
  skipped : Nat
  broken : Nat
  duration : Span
  deriving DecidableEq, Repr

namespace RunSummary

/-- The summary before the first test. -/
def empty : RunSummary := ⟨0, 0, 0, 0, 0, ⟨0⟩⟩

instance : Inhabited RunSummary := ⟨empty⟩

/-- Counts one more test. -/
def record (s : RunSummary) : OutcomeKind → RunSummary
  | .passed => { s with total := s.total + 1, passed := s.passed + 1 }
  | .failed => { s with total := s.total + 1, failed := s.failed + 1 }
  | .skipped => { s with total := s.total + 1, skipped := s.skipped + 1 }
  | .broken => { s with total := s.total + 1, broken := s.broken + 1 }

/-- The number of tests that ended in a given way. -/
def count (s : RunSummary) : OutcomeKind → Nat
  | .passed => s.passed
  | .failed => s.failed
  | .skipped => s.skipped
  | .broken => s.broken

/-- Nothing failed and nothing was broken.  Skipped tests do not count against a run. -/
def isSuccess (s : RunSummary) : Bool := s.failed == 0 && s.broken == 0

/-- The counts of a summary as they are shown. -/
def countsText (s : RunSummary) : String :=
  s!"{s.total} total, {s.passed} passed, {s.failed} failed, {s.skipped} skipped, {s.broken} broken"

/-- The summary as it is shown. -/
def text (s : RunSummary) : String := s!"{s.countsText} in {s.duration.shown}"

/-- The summary as a document. -/
def encode (s : RunSummary) : Json :=
  let count (n : Nat) : Json := Json.word (UInt64.ofNat n)
  .object [("total", count s.total), ("passed", count s.passed), ("failed", count s.failed),
    ("skipped", count s.skipped), ("broken", count s.broken),
    ("duration", Json.word s.duration.millisWord)]

end RunSummary

end Assay
