import Assay.Proofs.Outputs
import Assay.Run.Runner

/-
  What every sink sees of a run.

  A bridge may execute a test as often as it likes; `Handling.executions` is the list of all
  executions that it performed, and the report of a test is about the last one (`run_last`).  The
  reports of a run (`Runner.reports`) do not depend on the sinks at all, and the log of a run is a
  function of these reports and of the number of sinks (`Runner.events`): what sinks do, be it that
  they fail or panic, changes neither.

  1. Dialogues.  A dialogue with a bridge records what the bridge returns and the last execution
     that it performed.  If it performed none, then what is recorded is none.

  2. The reports of a run.  There is one for each test, in order, with the name and the file of the
     test and the outcome of its last execution (`reports_spec`, by induction on the tests).

  3. The log of a run.  Handling one test adds the test and then the calls for its report
     (`runTest_timeline`), and `runAll_spec` is the induction: what some tests do to the calls, the
     timeline and the world.  The log is not all; that these calls are made, in this order, is said
     by what they do to the world, which is that of the sinks applied to the reports and then
     finalized (`close_world`).

  4. What a run keeps.  The first error, the first failure and the summary are each a function of
     the tests, their handlings and the reports (`runAll_firstError`, `runAll_firstFailure`,
     `runAll_summary`), and the executor depends neither on the clock nor on the sinks
     (`runAll_executor`, `run_executor`).

  `log_of_run` is the main result, for any loader, bridge, collaborators and sinks.
-/

namespace Assay

/-! ## Dialogues -/

namespace Handling

variable {β ε : Type} (execute : StateM ε Execution)

/-- All executions of a dialogue, in order. -/
def executions : Handling β → ε → List Execution
  | done _ _, _ => []
  | .execute next, s => (execute s).1 :: executions (next (execute s).1) (execute s).2

/-- What is recorded is the last execution, or the one before the dialogue if there is none. -/
theorem run_last (h : Handling β) : ∀ (last : Option Execution) (s : ε),
    (h.run execute last s).last = ((h.executions execute s).getLast?).or last := by
  induction h with
  | done result state =>
    intro last s
    rfl
  | execute next ih =>
    intro last s
    show ((next (execute s).1).run execute (some (execute s).1) (execute s).2).last = _
    rw [ih, executions, List.getLast?_cons, Option.some_or]
    cases (executions execute (next (execute s).1) (execute s).2).getLast? with
    | none => rfl
    | some e => rfl

end Handling

/-- How a test is reported whose executions are given: by the last one, or as one that was not
executed. -/
def lastOutcome (executions : List Execution) : Outcome :=
  match executions.getLast? with
  | some e => e.outcome
  | none => .broken RunFault.notExecuted.message

namespace Runner

variable {σ β ω : Type} (cfg : Settings) (sv : Services σ) (bridge : Bridge β) (focusMode : Bool)
  (timing : Timing)

/-! ## The reports of a run -/

/-- Hands a test to the bridge. -/
def handle (t : TestCase) (b : β) (s : ExecutorState σ) : Handling.Recorded β (ExecutorState σ) :=
  (bridge t b).run (Executor.execute cfg sv focusMode t) none s

/-- The reports of some tests, the first of which has the given place. -/
def reports : Nat → List TestCase → β → ExecutorState σ → List TestReport
  | _, [], _, _ => []
  | i, t :: rest, b, s =>
    let handled := handle cfg sv bridge focusMode t b s
    reportOf t handled.last (timing.test i) :: reports (i + 1) rest handled.bridge handled.executor

/-- For each of some tests the executions that the bridge performs for it. -/
def histories : List TestCase → β → ExecutorState σ → List (List Execution)
  | [], _, _ => []
  | t :: rest, b, s =>
    let handled := handle cfg sv bridge focusMode t b s
    (bridge t b).executions (Executor.execute cfg sv focusMode t) s ::
      histories rest handled.bridge handled.executor

/-- There is one report for each test, in order, with the name and the file of the test and the
outcome of its last execution.  Induction on the tests. -/
theorem reports_spec : ∀ (tests : List TestCase) (i : Nat) (b : β) (s : ExecutorState σ),
    (reports cfg sv bridge focusMode timing i tests b s).map TestReport.name =
      tests.map TestCase.name ∧
    (reports cfg sv bridge focusMode timing i tests b s).map TestReport.file =
      tests.map (fun t => t.file.map .text) ∧
    (reports cfg sv bridge focusMode timing i tests b s).map TestReport.outcome =
      (histories cfg sv bridge focusMode tests b s).map lastOutcome := by
  intro tests
  induction tests with
  | nil =>
    intro i b s
    exact ⟨rfl, rfl, rfl⟩
  | cons t rest ih =>
    intro i b s
    obtain ⟨hname, hfile, houtcome⟩ := ih (i + 1) (handle cfg sv bridge focusMode t b s).bridge
      (handle cfg sv bridge focusMode t b s).executor
    refine ⟨congrArg (t.name :: ·) hname, congrArg (t.file.map Files.SourcePath.text :: ·) hfile,
      ?_⟩
    rw [reports, histories, List.map_cons, List.map_cons, houtcome]
    refine congrArg (· :: _) ?_
    show (match (handle cfg sv bridge focusMode t b s).last with
      | some e => e.outcome
      | none => .broken RunFault.notExecuted.message) = _
    rw [handle, Handling.run_last, Option.or_none]
    rfl

/-! ## The log of a run -/

/-- What happens to a test: it is handled, and then its report is received by every sink. -/
def testEvents (sinks : Nat) (entry : TestReport × Nat) : List RunEvent :=
  .handled entry.2 :: (Outputs.receives sinks entry.1).map .sink

/-- What happens in a run with the given reports. -/
def events (sinks : Nat) (reports : List TestReport) : List RunEvent :=
  reports.zipIdx.flatMap (testEvents sinks) ++ (Outputs.finalizes sinks).map .sink

/-- The timeline grows by the calls that the outputs have made. -/
theorem withOutputs_timeline {outputs : Outputs ω} {p : Progress σ β ω} {more : List SinkCall}
    (h : outputs.calls = p.outputs.calls ++ more) :
    (withOutputs outputs p).timeline = p.timeline ++ more.map .sink := by
  rw [withOutputs, h, List.drop_left]

/-- One test adds its handling and the calls for its report. -/
theorem runTest_timeline (i : Nat) (t : TestCase) (p : Progress σ β ω) :
    (runTest cfg sv bridge focusMode timing i t p).timeline = p.timeline ++
      testEvents p.outputs.sinks.length
        (reportOf t (handle cfg sv bridge focusMode t p.bridge p.executor).last (timing.test i),
          i) := by
  rw [runTest, withOutputs_timeline (Outputs.dispatch_calls _ _)]
  exact List.append_assoc _ _ _

/-- What some tests do to the outputs and to the timeline.  Induction on the tests; the place of the
first one grows. -/
theorem runAll_spec : ∀ (tests : List TestCase) (i : Nat) (p : Progress σ β ω),
    let q := runAll cfg sv bridge focusMode timing i tests p
    let rs := reports cfg sv bridge focusMode timing i tests p.bridge p.executor
    q.outputs.sinks = p.outputs.sinks ∧ q.outputs.finalized = p.outputs.finalized ∧
    q.outputs.world = Outputs.received p.outputs.sinks rs p.outputs.world ∧
    q.outputs.calls = p.outputs.calls ++ rs.flatMap (Outputs.receives p.outputs.sinks.length) ∧
    q.timeline = p.timeline ++ (rs.zipIdx i).flatMap (testEvents p.outputs.sinks.length) := by
  intro tests
  induction tests with
  | nil =>
    intro i p
    exact ⟨rfl, rfl, rfl, (List.append_nil _).symm, (List.append_nil _).symm⟩
  | cons t rest ih =>
    intro i p
    obtain ⟨hsinks, hfinal, hworld, hcalls, htime⟩ :=
      ih (i + 1) (runTest cfg sv bridge focusMode timing i t p)
    have houtputs : (runTest cfg sv bridge focusMode timing i t p).outputs = p.outputs.dispatch
        (reportOf t (handle cfg sv bridge focusMode t p.bridge p.executor).last
          (timing.test i)) := rfl
    rw [houtputs, Outputs.dispatch_sinks] at hsinks hworld hcalls htime
    rw [houtputs, Outputs.dispatch_finalized] at hfinal
    refine ⟨hsinks, hfinal, ?_, ?_, ?_⟩
    · rw [Outputs.dispatch_world] at hworld
      exact hworld
    · rw [Outputs.dispatch_calls] at hcalls
      rw [reports, List.flatMap_cons, ← List.append_assoc]
      exact hcalls
    · rw [runTest_timeline] at htime
      rw [reports, List.zipIdx_cons, List.flatMap_cons, ← List.append_assoc]
      exact htime

/-! ## What a run keeps -/

/-- The handling of some tests. -/
def handlings : List TestCase → β → ExecutorState σ → List (Handling.Recorded β (ExecutorState σ))
  | [], _, _ => []
  | t :: rest, b, s =>
    let handled := handle cfg sv bridge focusMode t b s
    handled :: handlings rest handled.bridge handled.executor

/-- The error that a test that was handled means for the run. -/
def errorOf (t : TestCase) (handled : Handling.Recorded β (ExecutorState σ)) : Option TestError :=
  match verdictOf t handled.last handled.result with
  | .error e => some e
  | .ok () => none

/-- The name of the first failed test among some reports. -/
def firstFailed (rs : List TestReport) : Option String :=
  (rs.find? fun r => r.kind = OutcomeKind.failed).map TestReport.name

/-- An error that came before stays the first one. -/
theorem noteHandled_firstError (i : Nat) (t : TestCase)
    (handled : Handling.Recorded β (ExecutorState σ)) (p : Progress σ β ω) :
    (noteHandled i t handled p).firstError = p.firstError.or (errorOf t handled) := by
  rw [noteHandled, errorOf]
  dsimp only
  cases p.firstError with
  | some e => rfl
  | none => cases verdictOf t handled.last handled.result <;> rfl

/-- A failure that came before stays the first one. -/
theorem noteReport_firstFailure (t : TestCase) (report : TestReport) (p : Progress σ β ω) :
    (noteReport t report p).firstFailure =
      p.firstFailure.or (if report.kind = OutcomeKind.failed then some t.name else none) := by
  rw [noteReport]
  dsimp only
  cases p.firstFailure <;> rfl

/-- A run keeps the first error.  Induction on the tests. -/
theorem runAll_firstError : ∀ (tests : List TestCase) (i : Nat) (p : Progress σ β ω),
    (runAll cfg sv bridge focusMode timing i tests p).firstError = p.firstError.or
      ((tests.zip (handlings cfg sv bridge focusMode tests p.bridge p.executor)).findSome?
        fun h => errorOf h.1 h.2) := by
  intro tests
  induction tests with
  | nil =>
    intro i p
    exact (Option.or_none).symm
  | cons t rest ih =>
    intro i p
    have hstep : (runTest cfg sv bridge focusMode timing i t p).firstError =
        p.firstError.or (errorOf t (handle cfg sv bridge focusMode t p.bridge p.executor)) :=
      noteHandled_firstError i _ _ _
    rw [runAll, ih, hstep, Option.or_assoc, handlings, List.zip_cons_cons, List.findSome?_cons]
    refine congrArg _ ?_
    cases errorOf t (handle cfg sv bridge focusMode t p.bridge p.executor) with
    | some e => rfl
    | none => rfl

/-- A run keeps the first failure.  Induction on the tests, as for errors. -/
theorem runAll_firstFailure : ∀ (tests : List TestCase) (i : Nat) (p : Progress σ β ω),
    (runAll cfg sv bridge focusMode timing i tests p).firstFailure = p.firstFailure.or
      (firstFailed (reports cfg sv bridge focusMode timing i tests p.bridge p.executor)) := by
  intro tests
  induction tests with
  | nil =>
    intro i p
    exact (Option.or_none).symm
  | cons t rest ih =>
    intro i p
    let report :=
      reportOf t (handle cfg sv bridge focusMode t p.bridge p.executor).last (timing.test i)
    have hstep : (runTest cfg sv bridge focusMode timing i t p).firstFailure =
        p.firstFailure.or (if report.kind = OutcomeKind.failed then some t.name else none) :=
      noteReport_firstFailure _ _ _
    rw [runAll, ih, hstep, Option.or_assoc, reports, firstFailed, firstFailed, List.find?_cons]
    refine congrArg _ ?_
    by_cases h : report.kind = OutcomeKind.failed
    · rw [if_pos h, decide_eq_true h]
      rfl
    · rw [if_neg h, decide_eq_false h]
      rfl

/-- A run counts every report. -/
theorem runAll_summary : ∀ (tests : List TestCase) (i : Nat) (p : Progress σ β ω),
    (runAll cfg sv bridge focusMode timing i tests p).summary =
      (reports cfg sv bridge focusMode timing i tests p.bridge p.executor).foldl
        (fun s r => s.record r.kind) p.summary := by
  intro tests
  induction tests with
  | nil =>
    intro i p
    rfl
  | cons t rest ih =>
    intro i p
    rw [runAll, ih]
    rfl

/-- The executor after some tests. -/
def executorAfter : List TestCase → β → ExecutorState σ → ExecutorState σ
  | [], _, s => s
  | t :: rest, b, s =>
    let handled := handle cfg sv bridge focusMode t b s
    executorAfter rest handled.bridge handled.executor

/-- The executor of a run depends neither on the clock nor on the sinks. -/
theorem runAll_executor : ∀ (tests : List TestCase) (i : Nat) (p : Progress σ β ω),
    (runAll cfg sv bridge focusMode timing i tests p).executor =
      executorAfter cfg sv bridge focusMode tests p.bridge p.executor := by
  intro tests
  induction tests with
  | nil =>
    intro i p
    rfl
  | cons t rest ih =>
    intro i p
    rw [runAll, ih]
    rfl

/-- The executor that a run leaves is the one after its tests; closing the outputs does not touch
it. -/
theorem run_executor (tests : List TestCase) (executor : ExecutorState σ) (host : β)
    (outputs : Outputs ω) :
    (run cfg sv bridge timing (.ok tests) executor host outputs).executor =
      executorAfter cfg sv bridge (tests.any TestCase.isFocused) tests host executor :=
  runAll_executor cfg sv bridge _ timing tests 0 (begin executor host outputs)

/-- Closing a run whose outputs have not been finalized finalizes each sink once; giving the outputs
up adds nothing. -/
theorem close_spec {p : Progress σ β ω} (h : p.outputs.finalized = false) :
    (close p).1 = Outputs.firstFailing p.outputs.sinks p.outputs.world ∧
    (close p).2.outputs.calls = p.outputs.calls ++ Outputs.finalizes p.outputs.sinks.length ∧
    (close p).2.timeline = p.timeline ++ (Outputs.finalizes p.outputs.sinks.length).map .sink := by
  have hdrop : p.outputs.finalize.2.drop = p.outputs.finalize.2 :=
    Outputs.drop_of_finalized (Outputs.finalize_finalized p.outputs)
  have hcalls := Outputs.finalize_calls h
  refine ⟨Outputs.finalize_failure h, ?_, ?_⟩
  · show p.outputs.finalize.2.drop.calls = _
    rw [hdrop, hcalls]
  · show (withOutputs p.outputs.finalize.2.drop p).timeline = _
    rw [hdrop, withOutputs_timeline hcalls]

/-- Closing a run whose outputs have not been finalized leaves the world that the sinks make of
it. -/
theorem close_world {p : Progress σ β ω} (h : p.outputs.finalized = false) :
    (close p).2.outputs.world = Outputs.finalizedBy p.outputs.sinks p.outputs.world := by
  have hdrop : p.outputs.finalize.2.drop = p.outputs.finalize.2 :=
    Outputs.drop_of_finalized (Outputs.finalize_finalized p.outputs)
  show p.outputs.finalize.2.drop.world = _
  rw [hdrop, Outputs.finalize_world h]

/-- The log of a run, whatever the bridge and the sinks do.  If there are tests, then every report
goes to every sink, and afterwards every sink is finalized; the reports are those of the tests, in
order, each with the outcome of the last execution; and all calls for a test are made between its
handling and that of the next one.  If there are none, the sinks are finalized.  The calls of the
log are really made: the world that is left is what the sinks make of it one after the other. -/
theorem log_of_run (loaded : Except LoadError (List TestCase)) (executor : ExecutorState σ)
    (host : β) (sinks : List (Sink ω)) (world : ω) :
    let f := run cfg sv bridge timing loaded executor host (Outputs.ofSinks sinks world)
    match loaded with
    | .error _ =>
      f.outputs.calls = Outputs.finalizes sinks.length ∧
      f.timeline = (Outputs.finalizes sinks.length).map .sink ∧
      f.outputs.world = Outputs.finalizedBy sinks world
    | .ok tests =>
      ∃ rs : List TestReport,
        rs.map TestReport.name = tests.map TestCase.name ∧
        rs.map TestReport.file = tests.map (fun t => t.file.map .text) ∧
        rs.map TestReport.outcome =
          (histories cfg sv bridge (tests.any TestCase.isFocused) tests host executor).map
            lastOutcome ∧
        f.outputs.calls =
          rs.flatMap (Outputs.receives sinks.length) ++ Outputs.finalizes sinks.length ∧
        f.timeline = events sinks.length rs ∧
        f.outputs.world = Outputs.finalizedBy sinks (Outputs.received sinks rs world) := by
  cases loaded with
  | error e =>
    have hopen : (begin executor host (Outputs.ofSinks sinks world)).outputs.finalized =
      false := rfl
    obtain ⟨-, hcalls, htime⟩ := close_spec hopen
    exact ⟨hcalls, htime, close_world hopen⟩
  | ok tests =>
    let focusMode := tests.any TestCase.isFocused
    have hspec := runAll_spec cfg sv bridge focusMode timing tests 0
      (begin executor host (Outputs.ofSinks sinks world))
    obtain ⟨hsinks, hfinal, hworld, hcalls, htime⟩ := hspec
    obtain ⟨-, hcalls', htime'⟩ := close_spec hfinal
    have hworld' := close_world hfinal
    obtain ⟨hname, hfile, houtcome⟩ :=
      reports_spec cfg sv bridge focusMode timing tests 0 host executor
    rw [hcalls, hsinks] at hcalls'
    rw [htime, hsinks] at htime'
    rw [hworld, hsinks] at hworld'
    exact ⟨_, hname, hfile, houtcome, hcalls', htime', hworld'⟩

end Runner

end Assay
