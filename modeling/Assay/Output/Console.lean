import Assay.Output.Sink

/-
  Reports on a console.

  One line tells how a test ended; a failed test has its request and what was found on further
  lines.  At the end comes an empty line and the summary of what was received.  The lines go to a
  terminal, which may fail to take a line or to hand on what it has taken; a console remembers the
  first failure and returns it, once, instead of the summary.

  A report is counted before its lines are written, and its duration is added to those of the
  reports before it.  If they take longer together than any span (`Console.overflows`), this is a
  panic: the report stays counted by its kind, but its duration is left out and none of its lines is
  written.

  A console is a state (`Console`) and three functions on it, over any terminal: `receive`,
  `finalize` and the lines that they write (`lines`, `closing`).  When a line fails, those behind it
  are not tried, but the console goes on with the next report. The durations that can be added up,
  and what the summary then shows, are the matter of `Assay.Proofs.Consoles`; what is tried on a
  terminal that fails, and what is returned, of `Assay.Proofs.Attempts`.
-/

namespace Assay

/-- What is asked of a terminal: to take a text, or to hand on everything that it has taken. -/
inductive TerminalCall where
  | line (text : String)
  | flush
  deriving DecidableEq, Repr

/-- A terminal, which changes a state and may fail. -/
abbrev Terminal (ω : Type) := TerminalCall → StateM ω (Except IoError Unit)

/-- A console: the summary of what it received, and the first failure to write. -/
structure Console where
  summary : RunSummary
  error : Option IoError
  deriving DecidableEq, Repr

namespace Console

/-- The console before the first report. -/
def start : Console := ⟨.empty, none⟩

instance : Inhabited Console := ⟨start⟩

/-- The lines about a test. -/
def lines (r : TestReport) : List String :=
  let label := r.kind.label
  match r.outcome with
  | .passed => [s!"{label} {r.name} ({r.duration.shown})"]
  | .failed ds =>
    [s!"{label} {r.name} ({r.duration.shown})"] ++
      (r.request.toList.map fun q => s!"    {q.method.name} {q.url}") ++
      ds.map fun d => "    " ++ d.text
  | .skipped reason => [s!"{label} {r.name}: {reason}"]
  | .broken cause => [s!"{label} {r.name}: {cause}"]

/-- Writes lines until one of them fails, and has them handed on if none does. -/
def writeLines {ω : Type} (terminal : Terminal ω) : List String → StateM ω (Except IoError Unit)
  | [] => terminal .flush
  | l :: rest => do
    match ← terminal (.line (l ++ "\n")) with
    | .ok () => writeLines terminal rest
    | .error e => return .error e

/-- The duration of a report cannot be added to those before it. -/
def overflows (c : Console) (r : TestReport) : Bool := (c.summary.duration.add? r.duration).isNone

/-- Counts a report.  A duration that cannot be added is left out. -/
def count (c : Console) (r : TestReport) : Console :=
  let total := (c.summary.duration.add? r.duration).getD c.summary.duration
  { c with summary := { c.summary.record r.kind with duration := total } }

/-- Keeps the first failure to write. -/
def remember (c : Console) : Except IoError Unit → Console
  | .ok () => c
  | .error e => { c with error := c.error.orElse fun _ => some e }

/-- What is raised when durations cannot be added up. -/
def overflow : Panic := ⟨some "overflow when adding durations"⟩

/-- Receives a report. -/
def receive {ω : Type} (terminal : Terminal ω) (c : Console) (r : TestReport) :
    StateM ω (Except Panic Unit × Console) :=
  if c.overflows r then pure (.error overflow, c.count r)
  else do
    let written ← writeLines terminal (lines r)
    return (.ok (), (c.count r).remember written)

/-- The lines at the end. -/
def closing (c : Console) : List String := ["", c.summary.text]

/-- Ends a console.  A failure that is remembered comes before the summary. -/
def finalize {ω : Type} (terminal : Terminal ω) (c : Console) :
    StateM ω (Except SinkError Unit × Console) :=
  match c.error with
  | some e => pure (.error (.io e), { c with error := none })
  | none => do
    let written ← writeLines terminal c.closing
    return (written.mapError .io, c)

end Console

end Assay
