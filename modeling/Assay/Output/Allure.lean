import Assay.Output.Sink
import Assay.Json.Writer
import Assay.Uuid

/-
  Reports in a directory of result files.

  Every report becomes a file of its own, named by a new identifier; at the end a container file
  lists them.  A result belongs to a suite: the name of its source file without extension, or else
  the name of the whole report.  The first file that could not be written is remembered and returned
  at the end, unless the container itself cannot be written.

  A result has the times of its test.  A test that ends after the last day of the calendar is a
  panic (`Allure.overflow`): an identifier has been drawn for the result then, and nothing else is
  done.

  The directory is a state (`Allure`) with its two functions `receive` and `finalize`, over any
  writer of files and any source of identifiers.  The times of the container are the start of the
  first accepted report and the end of the last one, in the order in which they were received, and
  not the earliest and the latest.

  What the files then contain, and that their times are read back in milliseconds, is shown in
  `Assay.Proofs.Results`; how they lie in the tree of files in `Assay.Proofs.Directories`.  Two
  results share their history if they have the same suite and the same name (`fullName`); when this
  happens is worked out in `Assay.Proofs.Histories`.
-/

namespace Assay

/-- A way to write whole files of the report directory, which changes a state and may fail. -/
abbrev FileWriter (ω : Type) := String → String → StateM ω (Except IoError Unit)

/-- A result directory: the name of the report, the results written so far, the start of the first
and the end of the last report, the first failure, whether it is closed, and how many identifiers it
has used. -/
structure Allure where
  suite : String
  children : List Uuid
  started : Option Instant
  stopped : Option Instant
  error : Option SinkError
  closed : Bool
  drawn : Nat
  deriving DecidableEq, Repr

namespace Allure

/-- The directory before the first report. -/
def start (suite : String) : Allure := ⟨suite, [], none, none, none, false, 0⟩

instance : Inhabited Allure := ⟨start ""⟩

/-- The suite of a result. -/
def suiteOf (suite : String) (r : TestReport) : String :=
  (r.file.bind fun path => Files.stem? path.shown).getD suite

/-- The name of a result with its suite. -/
def fullName (suite : String) (r : TestReport) : String := suiteOf suite r ++ "::" ++ r.name

/-- A point in time, in milliseconds. -/
def millis (t : Instant) : Json := (Json.Number.ofInt? t.epochMillis).elim .null .number

/-- A label of a result. -/
def label (name value : String) : Json := .object [("name", .string name), ("value", .string value)]

/-- A result as a document. -/
def resultOf (suite : String) (id : Uuid) (r : TestReport) : Json :=
  .object ([("uuid", .string id.text), ("historyId", .string (fullName suite r)),
    ("name", .string r.name), ("fullName", .string (fullName suite r)),
    ("status", .string r.kind.name)] ++
    (r.outcome.message?.toList.map fun m => ("statusDetails", .object [("message", .string m)])) ++
    [("stage", .string "finished"), ("start", millis r.startedAt), ("stop", millis r.finishedAt),
      ("labels", .array [label "suite" (suiteOf suite r), label "framework" "gauntlet"])])

/-- The container as a document. -/
def containerOf (suite : String) (id : Uuid) (children : List Uuid) (start stop : Instant) : Json :=
  .object [("uuid", .string id.text), ("name", .string suite),
    ("children", .array (children.map fun c => .string c.text)), ("start", millis start),
    ("stop", millis stop)]

/-- The name of the file of a result. -/
def resultFile (id : Uuid) : String := id.text ++ "-result.json"

/-- The name of the file of the container. -/
def containerFile (id : Uuid) : String := id.text ++ "-container.json"

/-- Keeps the first failure. -/
def remember (a : Allure) (e : SinkError) : Allure :=
  { a with error := a.error.orElse fun _ => some e }

/-- What is raised when a test ends after the last day of the calendar. -/
def overflow : Panic := ⟨some "`DateTime + TimeDelta` overflowed"⟩

/-- Receives a report; `fresh` gives the identifiers. -/
def receive {ω : Type} (write : FileWriter ω) (fresh : Nat → Uuid) (a : Allure) (r : TestReport) :
    StateM ω (Except Panic Unit × Allure) :=
  let id := fresh a.drawn
  match r.finishedAt? with
  | none => pure (.error overflow, { a with drawn := a.drawn + 1 })
  | some stop => do
    let a := { a with
      drawn := a.drawn + 1
      started := a.started.orElse fun _ => some r.startedAt
      stopped := some stop }
    match ← write (resultFile id) (resultOf a.suite id r).indented with
    | .ok () => return (.ok (), { a with children := a.children ++ [id] })
    | .error e => return (.ok (), a.remember (.io e))

/-- Closes the directory; `now` stands for the times of a report without results. -/
def finalize {ω : Type} (write : FileWriter ω) (fresh : Nat → Uuid) (now : Instant) (a : Allure) :
    StateM ω (Except SinkError Unit × Allure) :=
  if a.closed then pure (.ok (), a)
  else do
    let id := fresh a.drawn
    let container := containerOf a.suite id a.children (a.started.getD now) (a.stopped.getD now)
    let closed := { a with closed := true, drawn := a.drawn + 1, children := [] }
    match ← write (containerFile id) container.indented with
    | .error e => return (.error (.io e), closed)
    | .ok () =>
      match a.error with
      | some e => return (.error e, { closed with error := none })
      | none => return (.ok (), closed)

end Allure

end Assay
