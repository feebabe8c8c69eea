import Assay.Run.Bridge
import Assay.Run.Executor

/-
  Running a list of tests.

  Every test is handed to the bridge, its report goes to all outputs, and only then comes the next
  test.  A test that fails never ends the run.  At the end the outputs are finalized and the run
  gives its result: the first broken or erring test, else the first failed one, else the first
  output that could not be finalized, else the summary.

  A run is a fold of `runTest` over its tests, on a record of all that goes on (`Progress`).  Beside
  the states of the executor, the bridge and the outputs it has a timeline of what has happened in
  which order, and two places for what will be returned: the first error, and the name of the first
  test that failed. `noteHandled`, `noteReport` and `withOutputs` are the three parts of one step.

  Tests are named by their places in the list, since names may be repeated.  A bridge that is
  content without having executed a test is overruled (`verdictOf`); one that has executed it is
  believed.  The log and the final state are described in `Assay.Proofs.Runner`, the result in
  `Assay.Proofs.Verdict`, what focus does in `Assay.Proofs.Focus`, and tests that never get to a
  request in `Assay.Proofs.Gating`.
-/

namespace Assay

/-- The clock readings of a run: when each test started and how long it took, and how long all
took. -/
structure Timing where
  test : Nat → Instant × Span
  total : Span

/-- What happens in a run: a test, which is named by its place in the list, has been handled by the
bridge, or a sink is called. -/
inductive RunEvent where
  | handled (test : Nat)
  | sink (call : SinkCall)
  deriving DecidableEq, Repr

/-- The state of a run between two tests; the timeline is what has happened so far, in order. -/
structure Progress (σ β ω : Type) where
  executor : ExecutorState σ
  bridge : β
  outputs : Outputs ω
  summary : RunSummary
  firstError : Option TestError
  firstFailure : Option String
  timeline : List RunEvent

/-- A run that has ended: its result, and the states that are left. -/
structure Finished (σ β ω : Type) where
  result : Except RunError RunSummary
  executor : ExecutorState σ
  bridge : β
  outputs : Outputs ω
  timeline : List RunEvent

namespace Runner

variable {σ β ω : Type}

/-- The report of a test whose last execution is given, or of one that was never executed. -/
def reportOf (t : TestCase) (last : Option Execution) (timing : Instant × Span) : TestReport where
  name := t.name
  file := t.file.map .text
  outcome := match last with
    | some e => e.outcome
    | none => .broken RunFault.notExecuted.message
  startedAt := timing.1
  duration := timing.2
  request := (last.bind Execution.exchange?).map Exchange.request
  response := (last.bind Execution.exchange?).map Exchange.response

/-- What a test that was handled means for the run: a bridge that is content without having executed
the test is overruled. -/
def verdictOf (t : TestCase) (last : Option Execution) (result : Except TestError Unit) :
    Except TestError Unit :=
  match last, result with
  | none, .ok () => .error (.broken t.name .notExecuted)
  | _, r => r

/-- Notes that a test has been handled: what has become of the executor and the bridge, and the
first error. -/
def noteHandled (i : Nat) (t : TestCase) (handled : Handling.Recorded β (ExecutorState σ))
    (p : Progress σ β ω) : Progress σ β ω :=
  { p with
    executor := handled.executor
    bridge := handled.bridge
    firstError := match p.firstError, verdictOf t handled.last handled.result with
      | none, .error e => some e
      | first, _ => first
    timeline := p.timeline ++ [.handled i] }

/-- Counts a report, and notes the first failure. -/
def noteReport (t : TestCase) (report : TestReport) (p : Progress σ β ω) : Progress σ β ω :=
  { p with
    summary := p.summary.record report.kind
    firstFailure := match p.firstFailure with
      | none => if report.kind = .failed then some t.name else none
      | first => first }

/-- Goes on with outputs that have made more calls. -/
def withOutputs (outputs : Outputs ω) (p : Progress σ β ω) : Progress σ β ω :=
  { p with
    outputs := outputs
    timeline := p.timeline ++ (outputs.calls.drop p.outputs.calls.length).map .sink }

/-- Runs one test, which has the given place. -/
def runTest (cfg : Settings) (sv : Services σ) (bridge : Bridge β) (focusMode : Bool)
    (timing : Timing) (i : Nat) (t : TestCase) (p : Progress σ β ω) : Progress σ β ω :=
  let handled := (bridge t p.bridge).run (Executor.execute cfg sv focusMode t) none p.executor
  let report := reportOf t handled.last (timing.test i)
  let p := noteReport t report (noteHandled i t handled p)
  withOutputs (p.outputs.dispatch report) p

/-- Runs some tests, the first of which has the given place. -/
def runAll (cfg : Settings) (sv : Services σ) (bridge : Bridge β) (focusMode : Bool)
    (timing : Timing) :
    Nat → List TestCase → Progress σ β ω → Progress σ β ω
  | _, [], p => p
  | i, t :: rest, p =>
    runAll cfg sv bridge focusMode timing (i + 1) rest
      (runTest cfg sv bridge focusMode timing i t p)

/-- The result of a run. -/
def resultOf (p : Progress σ β ω) (total : Span) (failure : Option FinalizeError) :
    Except RunError RunSummary :=
  let summary := { p.summary with duration := total }
  match p.firstError, p.firstFailure, failure with
  | some e, _, _ => .error (.test e)
  | none, some first, _ => .error (.assertionsFailed first summary)
  | none, none, some f => .error (.finalize f)
  | none, none, none => .ok summary

/-- Finalizes the outputs, and gives them up. -/
def close (p : Progress σ β ω) : Option FinalizeError × Progress σ β ω :=
  let (failure, outputs) := p.outputs.finalize
  (failure, withOutputs outputs.drop p)

/-- The state before the first test. -/
def begin (executor : ExecutorState σ) (host : β) (outputs : Outputs ω) : Progress σ β ω :=
  ⟨executor, host, outputs, .empty, none, none, []⟩

/-- A run that has come to an end in a state. -/
def finish (result : Except RunError RunSummary) (p : Progress σ β ω) : Finished σ β ω :=
  ⟨result, p.executor, p.bridge, p.outputs, p.timeline⟩

/-- Runs the tests that a loader gives.  If it gives none, the outputs are finalized all the
same. -/
def run (cfg : Settings) (sv : Services σ) (bridge : Bridge β) (timing : Timing)
    (loaded : Except LoadError (List TestCase)) (executor : ExecutorState σ) (host : β)
    (outputs : Outputs ω) : Finished σ β ω :=
  match loaded with
  | .error e => finish (.error (.load e)) (close (begin executor host outputs)).2
  | .ok tests =>
    let focusMode := tests.any TestCase.isFocused
    let p := runAll cfg sv bridge focusMode timing 0 tests (begin executor host outputs)
    let (failure, closed) := close p
    finish (resultOf p timing.total failure) closed

end Runner

end Assay
