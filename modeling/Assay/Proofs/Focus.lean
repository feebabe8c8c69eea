import Assay.Proofs.Gating
import Assay.Proofs.Verdict
import Mathlib.Data.List.Forall2

/-
  Focused runs.

  As soon as one test of a list is focused, the tests without a status of their own are skipped like
  those that are marked as skipped.  A test that is declared broken is not: it is reported as
  broken, and it ends the run with an error.  So the result of such a run is the verdict on the
  focused tests and on the broken ones (`TestCase.counts`), as if there were no others, and the run
  is a success exactly if no test is declared broken and each focused test is reported as passed.

  All this is about the built-in host, which executes every test once.  With it the result of a run
  is a function of the executions alone, and the proof removes the tests without a say from both
  sides.

  1. Single tests.  A test without a say is skipped by the gate, and the executor is as it was
     (`execute_of_not_counts`, `execute_of_gate`).  `kind_of_execute` says under which kind a test
     is reported, as far as its status decides it.

  2. All tests.  The host reports each test by what came of executing it (`reports_executed`), and
     what holds of the kinds of all executions holds of those of all reports (`forall_kind_iff`).
     The first error and the first failure are those of the tests that have a say
     (`firsts_of_counting`), by induction on the tests: one without a say changes neither of them
     and leaves the executor for the next one as it is.

  3. The result.  `verdict_ok_iff` reads a success off the kinds of the executions and the end of
     the sinks, and `all_passed_iff` says what these kinds are in a focused run.

  Two runs follow: in the first one the focused test decides alone, in the second one a broken test
  stands beside it.
-/

namespace Assay

/-- The test has a say in a focused run: it is focused, or it is declared broken. -/
def TestCase.counts (t : TestCase) : Bool := t.status == .focus || t.status == .broken

namespace Runner

variable {σ ω : Type} (cfg : Settings) (sv : Services σ) (timing : Timing)

/-! ## Single tests -/

/-- A test that the gate ends is done with, and the executor is as it was. -/
theorem execute_of_gate {focusMode : Bool} {t : TestCase} {ended : Execution}
    (h : Executor.gate focusMode t = some ended) (s : ExecutorState σ) :
    Executor.execute cfg sv focusMode t s = (ended, s) := by
  rw [Executor.execute, h]
  rfl

/-- In a focused run a test without a say is skipped. -/
theorem execute_of_not_counts {t : TestCase} (h : t.counts = false) (s : ExecutorState σ) :
    ∃ reason, Executor.execute cfg sv true t s = (.skipped reason, s) := by
  have hskips : Executor.Skips true t := by
    cases hstatus : t.status with
    | none => exact .inr ⟨hstatus, rfl⟩
    | skipped => exact .inl hstatus
    | focus => simp [TestCase.counts, hstatus] at h
    | broken => simp [TestCase.counts, hstatus] at h
  obtain ⟨reason, hgate⟩ := Executor.gate_of_skips hskips
  exact ⟨reason, execute_of_gate cfg sv hgate s⟩

/-- The kind under which a test of a focused run is reported, as far as its status decides it. -/
theorem kind_of_execute (t : TestCase) (s : ExecutorState σ) :
    let kind := (Executor.execute cfg sv true t s).1.outcome.kind
    (kind = .skipped ↔ t.status ≠ .focus ∧ t.status ≠ .broken) ∧
    (t.status = .broken → kind = .broken) := by
  refine ⟨?_, fun h => by rw [execute_of_gate cfg sv (Executor.gate_of_marked h)]; rfl⟩
  have hskipped : (Executor.execute cfg sv true t s).1.outcome.kind = .skipped ↔
      ∃ reason, (Executor.execute cfg sv true t s).1 = .skipped reason := by
    cases (Executor.execute cfg sv true t s).1 <;> simp [Execution.outcome, Outcome.kind]
  rw [hskipped, Executor.skipped_iff, Executor.Skips]
  cases t.status <;> simp

/-! ## All tests -/

/-- The built-in host reports each test by what came of executing it, in whatever state of the
executor that was.  Induction on the tests. -/
theorem reports_executed (focusMode : Bool) : ∀ (tests : List TestCase) (i : Nat) (l : Ledger)
    (s : ExecutorState σ),
    List.Forall₂ (fun t r => ∃ s', r.kind = (Executor.execute cfg sv focusMode t s').1.outcome.kind)
      tests (reports cfg sv Ledger.bridge focusMode timing i tests l s) := by
  intro tests
  induction tests with
  | nil => exact fun _ _ _ => .nil
  | cons t rest ih => exact fun i l s => .cons ⟨s, rfl⟩ (ih _ _ _)

/-- What holds of the kinds of all executions holds of those of all reports, which are the same. -/
theorem forall_kind_iff (focusMode : Bool) (tests : List TestCase) (s : ExecutorState σ)
    (l : Ledger) (P : OutcomeKind → Prop) :
    (∀ e ∈ executions cfg sv focusMode tests s, P e.outcome.kind) ↔
      ∀ r ∈ reports cfg sv Ledger.bridge focusMode timing 0 tests l s, P r.kind := by
  have hkinds : (reports cfg sv Ledger.bridge focusMode timing 0 tests l s).map TestReport.kind =
      (executions cfg sv focusMode tests s).map fun e => e.outcome.kind := by
    have houtcomes := outcomes_ledger cfg sv focusMode timing tests 0 l s
    have h := congrArg (List.map Outcome.kind) houtcomes
    rw [List.map_map, List.map_map] at h
    exact h
  have he : (∀ kind ∈ (executions cfg sv focusMode tests s).map fun e => e.outcome.kind, P kind) ↔
      ∀ e ∈ executions cfg sv focusMode tests s, P e.outcome.kind := List.forall_mem_map
  rw [← he, ← hkinds, List.forall_mem_map]

/-- Nothing is reported as broken or failed exactly if no test is declared broken and each focused
test is reported as passed. -/
theorem all_passed_iff {tests : List TestCase} {rs : List TestReport}
    (h : List.Forall₂ (fun t r => ∃ s' : ExecutorState σ,
      r.kind = (Executor.execute cfg sv true t s').1.outcome.kind) tests rs) :
    (∀ r ∈ rs, r.kind ≠ .broken ∧ r.kind ≠ .failed) ↔ (∀ t ∈ tests, t.status ≠ .broken) ∧
      List.Forall₂ (fun t r => t.status = .focus → r.kind = .passed) tests rs := by
  induction h with
  | nil => simp
  | @cons t r tests rs hr _ ih =>
    obtain ⟨s, hkind⟩ := hr
    obtain ⟨hskipped, hbroken⟩ := kind_of_execute cfg sv t s
    rw [← hkind] at hskipped hbroken
    have hhead : (r.kind ≠ .broken ∧ r.kind ≠ .failed) ↔
        t.status ≠ .broken ∧ (t.status = .focus → r.kind = .passed) := by
      clear hkind ih
      revert hskipped hbroken
      cases r.kind <;> cases t.status <;> simp
    rw [List.forall_mem_cons, List.forall_mem_cons, List.forall₂_cons, ih, hhead, and_and_and_comm]

/-- The first error and the first failure of a focused run are those of the tests that have a say.
Induction on the tests: a test without a say neither changes the executor nor is an error or a
failure. -/
theorem firsts_of_counting : ∀ (tests : List TestCase) (s : ExecutorState σ),
    firstError tests (executions cfg sv true tests s) =
      firstError (tests.filter TestCase.counts)
        (executions cfg sv true (tests.filter TestCase.counts) s) ∧
    firstFailure tests (executions cfg sv true tests s) =
      firstFailure (tests.filter TestCase.counts)
        (executions cfg sv true (tests.filter TestCase.counts) s) := by
  intro tests
  induction tests with
  | nil => exact fun _ => ⟨rfl, rfl⟩
  | cons t rest ih =>
    intro s
    cases hcounts : t.counts with
    | false =>
      obtain ⟨reason, hskipped⟩ := execute_of_not_counts cfg sv hcounts s
      rw [List.filter_cons_of_neg (by rw [hcounts]; exact Bool.false_ne_true), executions, hskipped]
      exact ih s
    | true =>
      obtain ⟨herror, hfailure⟩ := ih (Executor.execute cfg sv true t s).2
      rw [List.filter_cons_of_pos hcounts, executions, executions, firstError, firstError,
        firstFailure, firstFailure, List.zip_cons_cons, List.zip_cons_cons, List.findSome?_cons,
        List.findSome?_cons, List.find?_cons, List.find?_cons]
      refine ⟨?_, ?_⟩
      · cases (Executor.execute cfg sv true t s).1.error? t.name with
        | some e => rfl
        | none => exact herror
      · cases (Executor.execute cfg sv true t s).1.isFailed with
        | true => rfl
        | false => exact hfailure

/-- A verdict is a success exactly if no execution counts as broken or failed and the sinks could be
finalized. -/
theorem verdict_ok_iff {tests : List TestCase} {es : List Execution}
    (hlen : es.length = tests.length) (summary : RunSummary) (failing : Option FinalizeError) :
    (∃ s, verdict tests es summary failing = .ok s) ↔
      (∀ e ∈ es, e.outcome.kind ≠ .broken ∧ e.outcome.kind ≠ .failed) ∧ failing = none := by
  have herror : firstError tests es = none ↔ ∀ e ∈ es, e.outcome.kind ≠ .broken := by
    rw [firstError, List.findSome?_eq_none_iff]
    constructor
    · intro h e he
      obtain ⟨t, ht⟩ := exists_mem_zip hlen e he
      exact (Execution.error?_eq_none_iff t.name e).mp (h (t, e) ht)
    · intro h x hx
      exact (Execution.error?_eq_none_iff x.1.name x.2).mpr (h x.2 (List.of_mem_zip hx).2)
  have hfailure : firstFailure tests es = none ↔ ∀ e ∈ es, e.outcome.kind ≠ .failed := by
    rw [firstFailure, Option.map_eq_none_iff, List.find?_eq_none]
    constructor
    · intro h e he
      obtain ⟨t, ht⟩ := exists_mem_zip hlen e he
      rw [ne_eq, ← Execution.isFailed_iff]
      exact h (t, e) ht
    · intro h x hx
      rw [Execution.isFailed_iff]
      exact h x.2 (List.of_mem_zip hx).2
  rw [forall₂_and, ← herror, ← hfailure]
  unfold verdict
  cases firstError tests es with
  | some e => simp
  | none =>
    cases firstFailure tests es with
    | some name => simp
    | none => cases failing <;> simp

/-- Focused runs.  A test that is not focused is reported as skipped exactly if it is not declared
broken.  The result of the run is the verdict on the focused and the broken tests.  The run is a
success exactly if there are no broken tests, all focused ones pass and the sinks can be
finalized. -/
theorem focused_tests_and_broken_ones_decide (tests : List TestCase)
    (hfocus : ∃ t ∈ tests, t.status = .focus) (executor : ExecutorState σ) (host : Ledger)
    (sinks : List (Sink ω)) (world : ω) :
    let f := run cfg sv Ledger.bridge timing (.ok tests) executor host (.ofSinks sinks world)
    let rs := reports cfg sv Ledger.bridge true timing 0 tests host executor
    let counting := tests.filter TestCase.counts
    let summary :=
      { (afterTests cfg sv timing tests executor host (.ofSinks sinks world)).summary with
      duration := timing.total }
    let failing := Outputs.firstFailing sinks (Outputs.received sinks rs world)
    (∀ k < sinks.length, Outputs.heard k f.outputs.calls = rs) ∧
    List.Forall₂ (fun t r => t.status ≠ .focus → (r.kind = .skipped ↔ t.status ≠ .broken))
      tests rs ∧
    f.result = verdict counting (executions cfg sv true counting executor) summary failing ∧
    ((∃ s, f.result = .ok s) ↔ (∀ t ∈ tests, t.status ≠ .broken) ∧
      List.Forall₂ (fun t r => t.status = .focus → r.kind = .passed) tests rs ∧
      failing = none) := by
  intro f rs counting summary failing
  have hmode : tests.any TestCase.isFocused = true := (any_isFocused_iff tests).mpr hfocus
  have hresult : f.result = verdict tests (executions cfg sv true tests executor) summary
    failing := by
    have h := run_result cfg sv timing tests executor host sinks world
    rw [hmode] at h
    exact h
  have hexecuted := reports_executed cfg sv timing true tests 0 host executor
  refine ⟨fun k hk => ?_, ?_, ?_, ?_⟩
  · have h : Outputs.heard k f.outputs.calls =
        reports cfg sv Ledger.bridge (tests.any TestCase.isFocused) timing 0 tests host executor :=
      heard_run cfg sv hk timing tests executor host world
    rw [hmode] at h
    exact h
  · refine hexecuted.imp fun t r hr hstatus => ?_
    obtain ⟨s, hkind⟩ := hr
    rw [hkind, (kind_of_execute cfg sv t s).1]
    exact ⟨fun h => h.2, fun h => ⟨hstatus, h⟩⟩
  · obtain ⟨herror, hfailure⟩ := firsts_of_counting cfg sv tests executor
    rw [hresult]
    unfold verdict
    rw [herror, hfailure]
  · rw [hresult, verdict_ok_iff (length_executions cfg sv true tests executor), ← and_assoc,
      ← all_passed_iff cfg sv hexecuted]
    exact and_congr_left fun _ => forall_kind_iff cfg sv timing true tests executor host
      fun kind => kind ≠ .broken ∧ kind ≠ .failed

/-- A focused test between a test without a status and one that is to be skipped. -/
def focusedTests : List TestCase := [
  .ofRequest default "plain" (.get "/plain"),
  { TestCase.ofRequest default "focused" (.get "/focused") with status := .focus },
  { TestCase.ofRequest default "later" (.get "/later") with status := .skipped }]

/-- The focused test passes, the others are skipped, and the run is a success. -/
theorem focused_test_decides :
    (∃ t ∈ focusedTests, t.status = .focus) ∧
    (Outputs.heard 0 (quietRun focusedTests).outputs.calls).map TestReport.kind =
      [.skipped, .passed, .skipped] ∧
    ∃ s, (quietRun focusedTests).result = .ok s := by
  have hfocus : ∃ t ∈ focusedTests, t.status = .focus :=
    ⟨focusedTests[1], by simp [focusedTests], rfl⟩
  obtain ⟨-, -, -, hok⟩ := focused_tests_and_broken_ones_decide Executor.bareSettings
    (Executor.answering default) stillClock focusedTests hfocus (.initial 0) .empty [quietSink] ()
  refine ⟨hfocus, by decide +kernel, hok.mpr ⟨by decide, ?_, rfl⟩⟩
  decide +kernel

/-- The name of the test whose error is the result of a run, if there is one. -/
def erringTest {β : Type} (f : Finished σ β ω) : Option String :=
  match f.result with
  | .error (.test e) => some e.test
  | _ => none

/-- A broken test is not skipped for the sake of a focused one: it is reported as broken, and
although the focused test passes the run ends with the error of the broken one. -/
theorem broken_test_beside_focused_one :
    (∃ t ∈ mixedTests, t.status = .focus) ∧ mixedTests[2].status ≠ .focus ∧
    (Outputs.heard 0 (quietRun mixedTests).outputs.calls).map TestReport.kind =
      [.skipped, .passed, .broken] ∧
    erringTest (quietRun mixedTests) = some "broken" :=
  ⟨⟨mixedTests[1], by simp [mixedTests], rfl⟩, by decide, by decide +kernel, by decide +kernel⟩

end Runner

end Assay
