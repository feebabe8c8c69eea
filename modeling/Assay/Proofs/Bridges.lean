import Assay.Proofs.Views

/-
  What the success of a run is worth, whatever the bridge does.

  A run learns of a failed test from its report, but of a broken one from the bridge: it is the
  bridge that has to return an error when the last execution of a test is broken or errs.  A bridge
  that never executes a test is overruled, as `errorOf_eq_none_iff` shows: a test means no error for
  the run exactly if the bridge has executed it and is content (`Handling.Recorded.Content`).  A
  bridge that is content with a broken execution is not overruled, and then the run succeeds with a
  summary that counts broken tests.

  The theorem of this module says exactly how far a success can be trusted.  A run succeeds if and
  only if the bridge has executed every test and is content with it, no test is reported as failed,
  and all sinks can be finalized (`run_ok_iff`).  The summary of a successful run counts what every
  sink has received.  So the tests that a content bridge hides are the only thing that can stand
  between a successful run and a successful summary, and on a bridge that returns an error for each
  of them nothing does.

  The proof goes by what has been recorded of each test while it was handled.

  1. Single tests: `errorOf` is the decision of the run about one recorded handling.
  2. All tests: the reports have the kinds of the handlings, in order (`kinds_of_reports`, by
     induction on the tests), and there is no error exactly if the bridge is content with all of
     them (`no_error_iff`).
  3. The result: `resultOf_ok_iff` reads the three sources of an error off the end of a run.

  No property of the bridge is assumed.  The run at the end has a bridge that executes each test
  twice and is content with anything.
-/

namespace Assay

namespace Handling.Recorded

variable {β ε : Type}

/-- The bridge has executed the test and is content. -/
structure Content (h : Recorded β ε) : Prop where
  executed : h.last.isSome = true
  ok : h.result = .ok ()

/-- The kind under which the test is reported. -/
def kind (h : Recorded β ε) : OutcomeKind :=
  match h.last with
  | some e => e.outcome.kind
  | none => .broken

end Handling.Recorded

namespace Runner

variable {σ β ω : Type} (cfg : Settings) (sv : Services σ) (bridge : Bridge β) (focusMode : Bool)
  (timing : Timing)

/-! ## Single tests -/

/-- A test means no error for the run exactly if the bridge has executed it and is content. -/
theorem errorOf_eq_none_iff (t : TestCase) (h : Handling.Recorded β (ExecutorState σ)) :
    errorOf t h = none ↔ h.Content := by
  obtain ⟨result, state, last, executor⟩ := h
  constructor
  · intro hnone
    cases last with
    | none => cases result <;> cases hnone
    | some e =>
      cases result with
      | error err => cases hnone
      | ok u => exact ⟨rfl, rfl⟩
  · rintro ⟨hexecuted, hok⟩
    cases last with
    | none => cases hexecuted
    | some e =>
      cases hok
      rfl

/-! ## All tests -/

/-- There is one handling for each test. -/
theorem length_handlings (tests : List TestCase) : ∀ (b : β) (s : ExecutorState σ),
    (handlings cfg sv bridge focusMode tests b s).length = tests.length := by
  induction tests with
  | nil => exact fun _ _ => rfl
  | cons t rest ih => exact fun _ _ => congrArg (· + 1) (ih _ _)

/-- The reports have the kinds of what was handled, in order.  Induction on the tests. -/
theorem kinds_of_reports (tests : List TestCase) : ∀ (i : Nat) (b : β) (s : ExecutorState σ),
    (reports cfg sv bridge focusMode timing i tests b s).map TestReport.kind =
      (handlings cfg sv bridge focusMode tests b s).map Handling.Recorded.kind := by
  induction tests with
  | nil => exact fun _ _ _ => rfl
  | cons t rest ih =>
    intro i b s
    have hhead : (reportOf t (handle cfg sv bridge focusMode t b s).last (timing.test i)).kind =
        (handle cfg sv bridge focusMode t b s).kind := by
      unfold Handling.Recorded.kind reportOf
      cases (handle cfg sv bridge focusMode t b s).last <;> rfl
    rw [reports, handlings, List.map_cons, List.map_cons, hhead, ih]

/-- No test means an error exactly if the bridge has executed all of them and is content with
them. -/
theorem no_error_iff {tests : List TestCase} {hs : List (Handling.Recorded β (ExecutorState σ))}
    (hlen : hs.length = tests.length) :
    ((tests.zip hs).findSome? fun h => errorOf h.1 h.2) = none ↔ ∀ h ∈ hs, h.Content := by
  have hsnd : (tests.zip hs).map Prod.snd = hs := List.map_snd_zip (Nat.le_of_eq hlen)
  simp only [List.findSome?_eq_none_iff, errorOf_eq_none_iff]
  conv => rhs; rw [← hsnd]
  rw [List.forall_mem_map]

/-! ## The result -/

/-- A run succeeds exactly if nothing has been noted against it. -/
theorem resultOf_ok_iff (p : Progress σ β ω) (total : Span) (failure : Option FinalizeError) :
    (∃ s, resultOf p total failure = .ok s) ↔
      p.firstError = none ∧ p.firstFailure = none ∧ failure = none := by
  unfold resultOf
  cases p.firstError with
  | some e => simp
  | none =>
    cases p.firstFailure with
    | some name => simp
    | none => cases failure <;> simp

/-- A run on any bridge succeeds exactly if the bridge has executed every test and is content with
it, no test is reported as failed, and all sinks can be finalized. -/
theorem run_ok_iff (tests : List TestCase) (executor : ExecutorState σ) (host : β)
    (sinks : List (Sink ω)) (world : ω) :
    let hs := handlings cfg sv bridge (tests.any TestCase.isFocused) tests host executor
    let rs := reports cfg sv bridge (tests.any TestCase.isFocused) timing 0 tests host executor
    (∃ s, (run cfg sv bridge timing (.ok tests) executor host (.ofSinks sinks world)).result =
      .ok s) ↔
      (∀ h ∈ hs, h.Content) ∧ (∀ r ∈ rs, r.kind ≠ .failed) ∧
        Outputs.firstFailing sinks (Outputs.received sinks rs world) = none := by
  intro hs rs
  let focusMode := tests.any TestCase.isFocused
  let start : Progress σ β ω := begin executor host (.ofSinks sinks world)
  let p := runAll cfg sv bridge focusMode timing 0 tests start
  obtain ⟨hsinks, hfinal, hworld, -, -⟩ := runAll_spec cfg sv bridge focusMode timing tests 0 start
  have herror : p.firstError = none ↔ ∀ h ∈ hs, h.Content := by
    have hfirst : p.firstError = (tests.zip hs).findSome? fun h => errorOf h.1 h.2 :=
      runAll_firstError cfg sv bridge focusMode timing tests 0 start
    rw [hfirst, no_error_iff (length_handlings cfg sv bridge focusMode tests host executor)]
  have hfailure : p.firstFailure = none ↔ ∀ r ∈ rs, r.kind ≠ .failed := by
    have hfirst : p.firstFailure = firstFailed rs :=
      runAll_firstFailure cfg sv bridge focusMode timing tests 0 start
    rw [hfirst]
    simp [firstFailed]
  have hclosed : (close p).1 = Outputs.firstFailing sinks (Outputs.received sinks rs world) := by
    rw [(close_spec hfinal).1, hsinks, hworld]
    rfl
  show (∃ s, resultOf p timing.total (close p).1 = .ok s) ↔ _
  rw [resultOf_ok_iff, herror, hfailure, hclosed]

/-- How far the success of a run can be trusted, whatever the bridge does.  A run that has tests
succeeds exactly if the bridge has executed every one of them and is content with it, no test is
reported as failed, and all sinks can be finalized.  Its summary counts the reports that every sink
has received, and nothing is counted as failed.  What it counts as broken are the tests whose last
execution the bridge was content with although it broke.  So the summary of a successful run is a
success exactly if there are no such tests, as on every bridge that returns an error for them. -/
theorem success_up_to_hidden_breaks (loaded : Except LoadError (List TestCase))
    (executor : ExecutorState σ) (host : β) (sinks : List (Sink ω)) (world : ω) :
    let f := run cfg sv bridge timing loaded executor host (.ofSinks sinks world)
    match loaded with
    | .error e => f.result = .error (.load e)
    | .ok tests =>
      let focusMode := tests.any TestCase.isFocused
      let hs := handlings cfg sv bridge focusMode tests host executor
      let rs := reports cfg sv bridge focusMode timing 0 tests host executor
      (∀ k < sinks.length, Outputs.heard k f.outputs.calls = rs) ∧
      ((∃ s, f.result = .ok s) ↔ (∀ h ∈ hs, h.Content) ∧ (∀ r ∈ rs, r.kind ≠ .failed) ∧
        Outputs.firstFailing sinks (Outputs.received sinks rs world) = none) ∧
      ∀ s, f.result = .ok s →
        s.total = rs.length ∧ (∀ kind, s.count kind = rs.countP fun r => r.kind = kind) ∧
        s.failed = 0 ∧
        s.broken = (hs.countP fun h => h.kind = .broken) ∧
        (s.isSuccess = true ↔ ∀ h ∈ hs, h.kind ≠ .broken) ∧
        ((∀ h ∈ hs, h.kind = .broken → h.result ≠ .ok ()) → s.isSuccess = true) := by
  intro f
  cases loaded with
  | error e => rfl
  | ok tests =>
    let focusMode := tests.any TestCase.isFocused
    let hs := handlings cfg sv bridge focusMode tests host executor
    let rs := reports cfg sv bridge focusMode timing 0 tests host executor
    refine ⟨fun k hk => heard_run cfg sv hk timing tests executor host world,
      run_ok_iff cfg sv bridge timing tests executor host sinks world, fun s hs' => ?_⟩
    obtain ⟨hcontent, hnone, -⟩ :=
      (run_ok_iff cfg sv bridge timing tests executor host sinks world).mp ⟨s, hs'⟩
    have hshown :
      (run cfg sv bridge timing (.ok tests) executor host (.ofSinks sinks world)).summary? =
        some s := by
      unfold Finished.summary?
      rw [hs']
    have hsummary : s = { RunSummary.ofReports rs with duration := timing.total } :=
      run_summary cfg sv timing hshown
    obtain ⟨htotal, hcount⟩ := RunSummary.ofReports_spec rs
    have hkinds : rs.map TestReport.kind = hs.map Handling.Recorded.kind :=
      kinds_of_reports cfg sv bridge focusMode timing tests 0 host executor
    have hcounts : ∀ kind, s.count kind = rs.countP fun r => r.kind = kind := by
      intro kind
      rw [hsummary]
      exact hcount kind
    have hfailed : s.failed = 0 := by
      refine (hcounts .failed).trans (List.countP_eq_zero.mpr fun r hr hkind => ?_)
      exact hnone r hr (of_decide_eq_true hkind)
    have hbroken : s.broken = hs.countP fun h => h.kind = .broken := by
      have hmap := congrArg (List.countP fun kind : OutcomeKind => kind = .broken) hkinds
      rw [List.countP_map, List.countP_map] at hmap
      exact (hcounts .broken).trans hmap
    have hsuccess : s.isSuccess = true ↔ ∀ h ∈ hs, h.kind ≠ .broken := by
      have hzero : s.broken = 0 ↔ ∀ h ∈ hs, h.kind ≠ .broken := by
        rw [hbroken, List.countP_eq_zero]
        simp
      rw [RunSummary.isSuccess_iff, ← hzero]
      exact and_iff_right hfailed
    -- The bridge is content with every test, so where it returns an error for what broke, nothing
    -- broke.
    refine ⟨by rw [hsummary]; exact htotal, hcounts, hfailed, hbroken, hsuccess, fun htold => ?_⟩
    rw [hsuccess]
    exact fun h hh hkind => htold h hh hkind (hcontent h hh).ok

/-- A test that is declared broken, on a bridge that is content with everything: the test is
reported as broken and counted as such, and yet the run succeeds. -/
theorem content_bridge_hides_broken_test :
    let broken := { TestCase.ofRequest default "broken" (.get "/broken") with status := .broken }
    let f := run Executor.bareSettings (Executor.answering default) Bridge.twice stillClock
      (.ok [broken])
      (.initial 0) () (.ofSinks [quietSink] ())
    (Outputs.heard 0 f.outputs.calls).map TestReport.kind = [.broken] ∧
    ∃ s, f.result = .ok s ∧ s.broken = 1 ∧ s.isSuccess = false :=
  ⟨by decide +kernel, _, rfl, rfl, rfl⟩

end Runner

end Assay
