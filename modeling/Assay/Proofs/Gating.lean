import Assay.Proofs.Executor
import Assay.Proofs.Lifetime
import Assay.Proofs.Runner
import Assay.Run.Ledger

/-
  Gated tests.

  A test is gated if it is marked as skipped or broken, or if another test of the list is focused
  and it is not (`Runner.Gated`).  A gated test ends before anything is called, so it leaves the
  executor as it finds it.  Two runs, one with and one without some gated tests, therefore go in
  step: between two tests that both of them have, their executors are equal, down to the log of all
  calls.

  What differs is the state of the host, and this is why the bridge has to be steady
  (`Bridge.Steady`): what it does with a test must not depend on what came before.  It may tell
  something else and keep another state, but it executes the test equally often (`Alike`).  The
  built-in host is steady (`Ledger.steady_bridge`).

  1. Bridges.  Dialogues that are alike leave the same executor and the same last execution
     (`Alike.run`), and a dialogue about a test that changes nothing changes nothing
     (`run_executor_of_idle`).

  2. Lists.  `keep` deletes the entries at some places.  It goes by places and not by the tests
     themselves, since the same test may stand in a list several times.  Whether some test is
     focused does not depend on the gated ones (`any_keepFrom`).

  3. Single tests.  A test that the gate ends leaves the executor as it is however often it is
     executed (`handle_of_gate`), and a steady bridge handles any test in the same way whatever its
     own state (`handle_of_steady`).

  4. Runs.  `keepFrom_spec` is the induction on the tests: a deleted test is passed over with the
     same executor, a kept one is handled alike on both sides.  The reports that both runs have are
     the same except for the clock (`TestReport.timeless`), and every sink receives them
     (`heard_run`).
-/

namespace Assay

/-! ## Steady bridges -/

namespace Handling

variable {β ε : Type}

/-- Two dialogues execute the test equally often, whatever they learn from it; what they tell in the
end and the state that they leave may differ. -/
inductive Alike : Handling β → Handling β → Prop where
  | done {result result' : Except TestError Unit} {state state' : β} :
    Alike (.done result state) (.done result' state')
  | execute {next next' : Execution → Handling β} (rest : ∀ e, Alike (next e) (next' e)) :
    Alike (.execute next) (.execute next')

/-- Dialogues that are alike leave the same executor and the same last execution. -/
theorem Alike.run {h h' : Handling β} (halike : Alike h h') (execute : StateM ε Execution) :
    ∀ (last : Option Execution) (s : ε),
      (h.run execute last s).last = (h'.run execute last s).last ∧
      (h.run execute last s).executor = (h'.run execute last s).executor := by
  induction halike with
  | done => exact fun _ _ => ⟨rfl, rfl⟩
  | execute rest ih => exact fun _ s => ih (execute s).1 _ _

/-- If executing the test changes nothing, then no dialogue about it changes anything. -/
theorem run_executor_of_idle {execute : StateM ε Execution} (hidle : ∀ s, (execute s).2 = s)
    (h : Handling β) :
    ∀ (last : Option Execution) (s : ε), (h.run execute last s).executor = s := by
  induction h with
  | done result state => exact fun _ _ => rfl
  | execute next ih =>
    intro last s
    refine (ih (execute s).1 _ _).trans ?_
    exact hidle s

end Handling

namespace Bridge

variable {β : Type}

/-- What the bridge does with a test does not depend on what came before. -/
def Steady (bridge : Bridge β) : Prop := ∀ t b b', (bridge t b).Alike (bridge t b')

/-- A bridge that executes nothing is steady. -/
theorem steady_idle : (idle : Bridge β).Steady := fun _ _ _ => .done

/-- A bridge that executes every test twice is steady. -/
theorem steady_twice : (twice : Bridge β).Steady :=
  fun _ _ _ => .execute fun _ => .execute fun _ => .done

end Bridge

/-- The built-in host is steady: it executes every test once. -/
theorem Ledger.steady_bridge : Ledger.bridge.Steady := fun _ _ _ => .execute fun _ => .done

/-! ## Deleting entries of a list -/

section Keep

variable {α : Type} (removed : Nat → Bool)

/-- What is left of a list when the entries at some places are deleted; the first entry has the
given place. -/
def keepFrom : Nat → List α → List α
  | _, [] => []
  | i, a :: rest => if removed i then keepFrom (i + 1) rest else a :: keepFrom (i + 1) rest

/-- What is left of a list when the entries at some places are deleted. -/
def keep (as : List α) : List α := keepFrom removed 0 as

/-- All entries that are deleted have a property; the first entry has the given place. -/
def Deletes (P : α → Prop) (i : Nat) (as : List α) : Prop :=
  ∀ k a, as[k]? = some a → removed (i + k) = true → P a

variable {removed} {P : α → Prop} {i : Nat} {a : α} {rest : List α}

/-- An entry that is removed is left out. -/
theorem keepFrom_cons_of_removed (h : removed i = true) :
    keepFrom removed i (a :: rest) = keepFrom removed (i + 1) rest := by
  rw [keepFrom, if_pos h]

/-- An entry that is kept stays in front of the others. -/
theorem keepFrom_cons_of_kept (h : removed i = false) :
    keepFrom removed i (a :: rest) = a :: keepFrom removed (i + 1) rest := by
  rw [keepFrom, h, if_neg Bool.false_ne_true]

theorem Deletes.head (h : Deletes removed P i (a :: rest)) (hi : removed i = true) : P a :=
  h 0 a rfl hi

/-- What is deleted from a list is deleted from its end as well. -/
theorem Deletes.tail (h : Deletes removed P i (a :: rest)) : Deletes removed P (i + 1) rest := by
  intro k b hb hk
  refine h (k + 1) b hb ?_
  rw [← Nat.add_assoc, Nat.add_right_comm]
  exact hk

theorem Deletes.mono {Q : α → Prop} {as : List α} (hPQ : ∀ a, P a → Q a)
    (h : Deletes removed P i as) :
    Deletes removed Q i as := fun k a ha hk => hPQ a (h k a ha hk)

/-- Whether some entry passes a test does not depend on the entries that do not pass it. -/
theorem any_keepFrom {p : α → Bool} : ∀ (as : List α) (i : Nat),
    Deletes removed (fun a => p a = false) i as → (keepFrom removed i as).any p = as.any p := by
  intro as
  induction as with
  | nil => exact fun _ _ => rfl
  | cons a rest ih =>
    intro i h
    rw [List.any_cons]
    cases hi : removed i with
    | true => rw [keepFrom_cons_of_removed hi, ih (i + 1) h.tail, h.head hi, Bool.false_or]
    | false => rw [keepFrom_cons_of_kept hi, List.any_cons, ih (i + 1) h.tail]

end Keep

/-- A report without its clock readings. -/
def TestReport.timeless (r : TestReport) : TestReport :=
  { r with startedAt := default, duration := default }

namespace Runner

variable {σ β ω : Type} (cfg : Settings) (sv : Services σ) {bridge : Bridge β} {focusMode : Bool}

/-! ## Gated tests -/

/-- The test is not executed: it is marked as skipped or broken, or it has no status of its own and
some test of the list is focused. -/
def Gated (tests : List TestCase) (t : TestCase) : Prop :=
  t.status = .skipped ∨ t.status = .broken ∨ ((∃ u ∈ tests, u.status = .focus) ∧ t.status = .none)

/-- A run is focused exactly if some test has this status. -/
theorem any_isFocused_iff (tests : List TestCase) :
    tests.any TestCase.isFocused = true ↔ ∃ u ∈ tests, u.status = .focus := by
  simp [TestCase.isFocused]

/-- A gated test is not focused. -/
theorem isFocused_of_gated {tests : List TestCase} {t : TestCase} (h : Gated tests t) :
    t.isFocused = false := by
  rcases h with h | h | ⟨-, h⟩ <;> simp [TestCase.isFocused, h]

/-- The gate ends a gated test. -/
theorem gate_of_gated {tests : List TestCase} {t : TestCase} (h : Gated tests t) :
    ∃ ended, Executor.gate (tests.any TestCase.isFocused) t = some ended := by
  have hskip (hskips : Executor.Skips (tests.any TestCase.isFocused) t) :
      ∃ ended, Executor.gate (tests.any TestCase.isFocused) t = some ended := by
    obtain ⟨reason, hgate⟩ := Executor.gate_of_skips hskips
    exact ⟨_, hgate⟩
  rcases h with h | h | ⟨hfocus, h⟩
  · exact hskip (.inl h)
  · exact ⟨_, Executor.gate_of_marked h⟩
  · exact hskip (.inr ⟨h, (any_isFocused_iff tests).mpr hfocus⟩)

/-- A test that the gate ends leaves the executor as it is, however often it is executed. -/
theorem handle_of_gate {t : TestCase} {ended : Execution}
    (h : Executor.gate focusMode t = some ended) (b : β) (s : ExecutorState σ) :
    (handle cfg sv bridge focusMode t b s).executor = s := by
  refine Handling.run_executor_of_idle (fun s => ?_) _ _ _
  rw [Executor.execute, h]
  rfl

/-- A steady bridge handles a test in the same way whatever its state is. -/
theorem handle_of_steady (hsteady : bridge.Steady) (t : TestCase) (b b' : β) (s : ExecutorState σ) :
    (handle cfg sv bridge focusMode t b' s).last = (handle cfg sv bridge focusMode t b s).last ∧
    (handle cfg sv bridge focusMode t b' s).executor =
      (handle cfg sv bridge focusMode t b s).executor :=
  (hsteady t b' b).run _ _ _

/-! ## Runs without gated tests -/

/-- Deleting tests that the gate ends changes neither the executor nor the other reports.  Induction
on the tests: a deleted test is passed over with the same executor, and any other one is handled in
the same state of the executor, if not of the bridge. -/
theorem keepFrom_spec (hsteady : bridge.Steady) (removed : Nat → Bool) (timing timing' : Timing) :
    ∀ (tests : List TestCase) (i j : Nat) (b b' : β) (s : ExecutorState σ),
      Deletes removed (fun t => ∃ ended, Executor.gate focusMode t = some ended) i tests →
      executorAfter cfg sv bridge focusMode (keepFrom removed i tests) b' s =
        executorAfter cfg sv bridge focusMode tests b s ∧
      (reports cfg sv bridge focusMode timing' j (keepFrom removed i tests) b' s).map
          TestReport.timeless =
        keepFrom removed i
          ((reports cfg sv bridge focusMode timing i tests b s).map TestReport.timeless) := by
  intro tests
  induction tests with
  | nil => exact fun _ _ _ _ _ _ => ⟨rfl, rfl⟩
  | cons t rest ih =>
    intro i j b b' s hgate
    rw [executorAfter, reports, List.map_cons]
    cases hi : removed i with
    | true =>
      -- Only one of the runs has this test, and the executor is the same before and after it.
      obtain ⟨ended, hended⟩ := hgate.head hi
      rw [keepFrom_cons_of_removed hi, keepFrom_cons_of_removed hi, handle_of_gate cfg sv hended]
      exact ih (i + 1) j _ b' s hgate.tail
    | false =>
      -- Both runs have this test; their bridges may be in different states.
      have hsame : (handle cfg sv bridge focusMode t b' s).last =
            (handle cfg sv bridge focusMode t b s).last ∧
          (handle cfg sv bridge focusMode t b' s).executor =
            (handle cfg sv bridge focusMode t b s).executor :=
            handle_of_steady cfg sv hsteady t b b' s
      obtain ⟨hafter, hreports⟩ := ih (i + 1) (j + 1) (handle cfg sv bridge focusMode t b s).bridge
        (handle cfg sv bridge focusMode t b' s).bridge
          (handle cfg sv bridge focusMode t b s).executor
        hgate.tail
      rw [keepFrom_cons_of_kept hi, keepFrom_cons_of_kept hi, executorAfter, reports, List.map_cons,
        hsame.1, hsame.2]
      exact ⟨hafter, congrArg (_ :: ·) hreports⟩

/-- Every sink of a run receives the reports of the run. -/
theorem heard_run {sinks : List (Sink ω)} {k : Nat} (hk : k < sinks.length) (timing : Timing)
    (tests : List TestCase) (executor : ExecutorState σ) (host : β) (world : ω) :
    Outputs.heard k
        (run cfg sv bridge timing (.ok tests) executor host (.ofSinks sinks world)).outputs.calls =
      reports cfg sv bridge (tests.any TestCase.isFocused) timing 0 tests host executor := by
  obtain ⟨-, hfinal, -, hcalls, -⟩ :=
    runAll_spec cfg sv bridge (tests.any TestCase.isFocused) timing
    tests 0 (begin executor host (.ofSinks sinks world))
  obtain ⟨-, hclosed, -⟩ := close_spec hfinal
  refine (congrArg (Outputs.heard k) hclosed).trans ?_
  rw [hcalls, Outputs.heard_append, Outputs.heard_append, Outputs.heard_finalizes, List.append_nil]
  refine (Outputs.heard_flatMap_receives k sinks.length _).trans ?_
  rw [if_pos hk]
  rfl

/-- Gated tests are inert.  Consider a run of some tests, and another one without some of the gated
ones, on a bridge that does with a test what it does whatever came before.  The two runs leave the
same executor: the same calls have been made of the collaborators, in the same order and with the
same arguments, the collaborators are in the same state, the same values are captured and as many
sets of generated values are used.  Each sink receives the same reports about the tests that both
runs have, in the same order, except for the clock. -/
theorem gated_tests_are_inert (hsteady : bridge.Steady) (timing timing' : Timing)
    (tests : List TestCase) (removed : Nat → Bool)
    (hgated : ∀ i t, tests[i]? = some t → removed i = true → Gated tests t)
    (executor : ExecutorState σ) (host : β) (sinks : List (Sink ω)) (world : ω) :
    let whole := run cfg sv bridge timing (.ok tests) executor host (.ofSinks sinks world)
    let thinned :=
      run cfg sv bridge timing' (.ok (keep removed tests)) executor host (.ofSinks sinks world)
    thinned.executor = whole.executor ∧
    ∀ k < sinks.length,
      (Outputs.heard k whole.outputs.calls).map TestReport.name = tests.map TestCase.name ∧
      (Outputs.heard k thinned.outputs.calls).map TestReport.timeless =
        keep removed ((Outputs.heard k whole.outputs.calls).map TestReport.timeless) := by
  have hdeletes : Deletes removed (Gated tests) 0 tests := by
    intro i t ht hi
    rw [Nat.zero_add] at hi
    exact hgated i t ht hi
  have hfocus : (keep removed tests).any TestCase.isFocused = tests.any TestCase.isFocused :=
    any_keepFrom tests 0 (hdeletes.mono fun _ => isFocused_of_gated)
  obtain ⟨hexecutor, hreports⟩ :=
    keepFrom_spec cfg sv hsteady removed timing timing' tests 0 0 host host
    executor (hdeletes.mono fun _ => gate_of_gated)
  refine ⟨?_, fun k hk => ⟨?_, ?_⟩⟩
  · rw [run_executor, run_executor, hfocus]
    exact hexecutor
  · rw [heard_run cfg sv hk]
    exact (reports_spec cfg sv bridge _ timing tests 0 host executor).1
  · rw [heard_run cfg sv hk, heard_run cfg sv hk, hfocus]
    exact hreports

/-- A focused test between a test without a status and a broken one. -/
def mixedTests : List TestCase := [
  .ofRequest default "plain" (.get "/plain"),
  { TestCase.ofRequest default "focused" (.get "/focused") with status := .focus },
  { TestCase.ofRequest default "broken" (.get "/broken") with status := .broken }]

/-- A sink that does nothing. -/
def quietSink : Sink Unit := ⟨"quiet", fun _ => pure (.ok ()), pure (.ok (.ok ()))⟩

/-- A clock that stands still. -/
def stillClock : Timing := ⟨fun _ => default, default⟩

/-- The run of some tests on the built-in host. -/
def quietRun (tests : List TestCase) : Finished Nat Ledger Unit :=
  run Executor.bareSettings (Executor.answering default) Ledger.bridge stillClock (.ok tests)
    (.initial 0)
    .empty (.ofSinks [quietSink] ())

/-- Beside a focused test, the others may as well be missing: one request is sent. -/
theorem focused_test_alone :
    keep (· != 1) mixedTests = [mixedTests[1]] ∧
    (quietRun [mixedTests[1]]).executor = (quietRun mixedTests).executor ∧
    (quietRun mixedTests).executor.world = 1 ∧
    (Outputs.heard 0 (quietRun [mixedTests[1]]).outputs.calls).map TestReport.timeless =
      keep (· != 1)
        ((Outputs.heard 0 (quietRun mixedTests).outputs.calls).map TestReport.timeless) := by
  have hgated : ∀ i t, mixedTests[i]? = some t → (i != 1) = true → Gated mixedTests t := by
    intro i t ht hi
    match i with
    | 0 =>
      cases ht
      exact .inr (.inr ⟨⟨mixedTests[1], by simp [mixedTests], rfl⟩, rfl⟩)
    | 1 => cases hi
    | 2 =>
      cases ht
      exact .inr (.inl rfl)
    | i + 3 => cases ht
  obtain ⟨hexecutor, hreports⟩ := gated_tests_are_inert Executor.bareSettings
    (Executor.answering default) Ledger.steady_bridge stillClock stillClock mixedTests
    (· != 1) hgated (.initial 0) .empty [quietSink] ()
  exact ⟨rfl, hexecutor, by decide +kernel, (hreports 0 Nat.one_pos).2⟩

end Runner

end Assay
