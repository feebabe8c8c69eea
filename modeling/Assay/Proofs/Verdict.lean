import Assay.Cli.Program
import Assay.Proofs.Runner
import Assay.Run.Ledger

/-
  The result of a run with the built-in host, and the exit code of the program.

  The host executes every test once, so a run is decided by the list of executions
  (`Runner.executions`): the first broken or erring test counts, else the first failed one, else the
  first sink that could not be finalized, and if there is nothing of all that the run is a success.
  `Runner.verdict` is this decision, with nothing in it but executions, the summary and the end of
  the sinks; `verdict_of_run` says that a run gives it and that the exit code of the program follows
  from it.

  1. Counting.  Recording some reports counts each of them once, under its kind (`foldl_record`).

  2. Executions.  What the host tells about an execution and what the report says about it agree
     (`judge_eq`, `error?_eq_none_iff`, `isFailed_iff`).  So the first error and the first failure
     that a run keeps are those of the executions (`firstError_ledger`, `firstFailed_ledger`).

  3. The result.  `run_result` puts together what a run has kept (`resultOf_eq`), for any sinks.  If
     there is neither an error nor a failure then the counts say so, too (`countP_failed`,
     `countP_broken`), and a success has a summary that is one.

  4. The exit code.  A run that has been assembled is a run with the built-in host, of the tests at
     a location, and with the sinks that could be opened (`Harness.run_eq_ok`).  The exit code is 0
     for a success, 1 for failed tests, and 2 for everything else, a run that could not be assembled
     included (`codeOf_cases`, `carryOut_code_spec`).
-/

namespace Assay

/-! ## Counting -/

namespace RunSummary

@[simp] theorem total_record (s : RunSummary) (k : OutcomeKind) :
    (s.record k).total = s.total + 1 := by
  cases k <;> rfl

@[simp] theorem count_record (s : RunSummary) (k kind : OutcomeKind) :
    (s.record k).count kind = s.count kind + if k = kind then 1 else 0 := by
  cases k <;> cases kind <;> rfl

/-- Recording some reports counts each of them once, under its kind. -/
theorem foldl_record (rs : List TestReport) : ∀ s : RunSummary,
    (rs.foldl (fun s r => s.record r.kind) s).total = s.total + rs.length ∧
    ∀ kind, (rs.foldl (fun s r => s.record r.kind) s).count kind =
      s.count kind + rs.countP fun r => r.kind = kind := by
  induction rs with
  | nil =>
    intro s
    exact ⟨rfl, fun _ => rfl⟩
  | cons r rest ih =>
    intro s
    obtain ⟨htotal, hcount⟩ := ih (s.record r.kind)
    refine ⟨?_, fun kind => ?_⟩
    · rw [List.foldl_cons, htotal, total_record, List.length_cons]
      omega
    · rw [List.foldl_cons, hcount, count_record, List.countP_cons]
      simp only [decide_eq_true_eq]
      omega

theorem isSuccess_iff (s : RunSummary) :
    s.isSuccess = true ↔ s.count .failed = 0 ∧ s.count .broken = 0 := by
  rw [isSuccess, Bool.and_eq_true, beq_iff_eq, beq_iff_eq]
  rfl

end RunSummary

/-! ## Executions -/

namespace Execution

/-- What a broken or erring execution of a test means for the run. -/
def error? (test : String) : Execution → Option TestError
  | broken cause => some (.broken test cause)
  | fatal e => some (.fatal test e)
  | _ => none

/-- The execution failed. -/
def isFailed : Execution → Bool
  | failed _ => true
  | _ => false

/-- Failed executions are those that are reported as failed. -/
theorem isFailed_iff (e : Execution) : e.isFailed = true ↔ e.outcome.kind = .failed := by
  cases e <;> simp [isFailed, outcome, Outcome.kind]

/-- Broken and erring executions are those that are reported as broken. -/
theorem error?_eq_none_iff (test : String) (e : Execution) :
    e.error? test = none ↔ e.outcome.kind ≠ .broken := by
  cases e <;> simp [error?, outcome, Outcome.kind]

/-- What the built-in host tells about an execution. -/
theorem judge_eq (test : String) (e : Execution) :
    (Ledger.judge test e).2 = match e.error? test with
      | some err => .error err
      | none => .ok () := by
  cases e <;> rfl

end Execution

namespace Runner

variable {σ ω : Type} (cfg : Settings) (sv : Services σ) (focusMode : Bool) (timing : Timing)

/-- The executions of some tests, each test executed once, in order. -/
def executions : List TestCase → ExecutorState σ → List Execution
  | [], _ => []
  | t :: rest, s =>
    (Executor.execute cfg sv focusMode t s).1 :: executions rest
      (Executor.execute cfg sv focusMode t s).2

/-- The first broken or erring test. -/
def firstError (tests : List TestCase) (es : List Execution) : Option TestError :=
  (tests.zip es).findSome? fun x => x.2.error? x.1.name

/-- The name of the first failed test. -/
def firstFailure (tests : List TestCase) (es : List Execution) : Option String :=
  ((tests.zip es).find? fun x => x.2.isFailed).map fun x => x.1.name

theorem length_executions (tests : List TestCase) : ∀ s : ExecutorState σ,
    (executions cfg sv focusMode tests s).length = tests.length := by
  induction tests with
  | nil => exact fun _ => rfl
  | cons t rest ih => exact fun s => congrArg (· + 1) (ih _)

/-- The built-in host executes every test once. -/
theorem histories_ledger (tests : List TestCase) : ∀ (l : Ledger) (s : ExecutorState σ),
    histories cfg sv Ledger.bridge focusMode tests l s =
      (executions cfg sv focusMode tests s).map fun e => [e] := by
  induction tests with
  | nil => exact fun _ _ => rfl
  | cons t rest ih => exact fun l s => congrArg ([_] :: ·) (ih _ _)

/-- The outcomes that are reported are those of the executions. -/
theorem outcomes_ledger (tests : List TestCase) (i : Nat) (l : Ledger) (s : ExecutorState σ) :
    (reports cfg sv Ledger.bridge focusMode timing i tests l s).map TestReport.outcome =
      (executions cfg sv focusMode tests s).map Execution.outcome := by
  rw [(reports_spec cfg sv Ledger.bridge focusMode timing tests i l s).2.2, histories_ledger,
    List.map_map]
  rfl

/-- The host tells about the first error. -/
theorem firstError_ledger (tests : List TestCase) : ∀ (l : Ledger) (s : ExecutorState σ),
    ((tests.zip (handlings cfg sv Ledger.bridge focusMode tests l s)).findSome?
      fun h => errorOf h.1 h.2) = firstError tests (executions cfg sv focusMode tests s) := by
  induction tests with
  | nil => exact fun _ _ => rfl
  | cons t rest ih =>
    intro l s
    have hhead : errorOf t (handle cfg sv Ledger.bridge focusMode t l s) =
        (Executor.execute cfg sv focusMode t s).1.error? t.name := by
      have hverdict : verdictOf t (handle cfg sv Ledger.bridge focusMode t l s).last
          (handle cfg sv Ledger.bridge focusMode t l s).result =
          (Ledger.judge t.name (Executor.execute cfg sv focusMode t s).1).2 := rfl
      rw [errorOf, hverdict, Execution.judge_eq]
      cases (Executor.execute cfg sv focusMode t s).1.error? t.name <;> rfl
    have htail := ih (handle cfg sv Ledger.bridge focusMode t l s).bridge
      (Executor.execute cfg sv focusMode t s).2
    rw [handlings, firstError, executions, List.zip_cons_cons, List.zip_cons_cons,
      List.findSome?_cons, List.findSome?_cons, hhead]
    cases (Executor.execute cfg sv focusMode t s).1.error? t.name with
    | some e => rfl
    | none => exact htail

/-- The first failed report is that of the first failed test. -/
theorem firstFailed_ledger (tests : List TestCase) : ∀ (i : Nat) (l : Ledger) (s : ExecutorState σ),
    firstFailed (reports cfg sv Ledger.bridge focusMode timing i tests l s) =
      firstFailure tests (executions cfg sv focusMode tests s) := by
  induction tests with
  | nil => exact fun _ _ _ => rfl
  | cons t rest ih =>
    intro i l s
    have htail := ih (i + 1) (handle cfg sv Ledger.bridge focusMode t l s).bridge
      (Executor.execute cfg sv focusMode t s).2
    rw [reports, firstFailed, firstFailure, executions, List.zip_cons_cons, List.find?_cons,
      List.find?_cons]
    have hkind : decide ((reportOf t (handle cfg sv Ledger.bridge focusMode t l s).last
        (timing.test i)).kind = OutcomeKind.failed) =
        (Executor.execute cfg sv focusMode t s).1.isFailed := by
      rw [Bool.eq_iff_iff, decide_eq_true_eq, Execution.isFailed_iff]
      rfl
    rw [hkind]
    cases (Executor.execute cfg sv focusMode t s).1.isFailed with
    | true => rfl
    | false => exact htail

/-! ## The result -/

/-- The result of a run whose tests, executions and summary are given, and which ends with a sink
that could not be finalized or with none. -/
def verdict (tests : List TestCase) (es : List Execution) (summary : RunSummary)
    (failing : Option FinalizeError) : Except RunError RunSummary :=
  match firstError tests es with
  | some e => .error (.test e)
  | none =>
    match firstFailure tests es with
    | some name => .error (.assertionsFailed name summary)
    | none =>
      match failing with
      | some f => .error (.finalize f)
      | none => .ok summary

/-- A verdict is a success only if there is neither an error nor a failure. -/
theorem verdict_eq_ok {tests : List TestCase} {es : List Execution} {summary s : RunSummary}
    {failing : Option FinalizeError} (h : verdict tests es summary failing = .ok s) :
    s = summary ∧ firstError tests es = none ∧ firstFailure tests es = none := by
  unfold verdict at h
  cases herror : firstError tests es with
  | some e =>
    rw [herror] at h
    cases h
  | none =>
    cases hfailure : firstFailure tests es with
    | some name =>
      rw [herror, hfailure] at h
      cases h
    | none =>
      rw [herror, hfailure] at h
      cases failing with
      | some f => cases h
      | none =>
        cases h
        exact ⟨rfl, rfl, rfl⟩

/-- Every execution belongs to a test. -/
theorem exists_mem_zip {tests : List TestCase} : ∀ {es : List Execution}, es.length = tests.length →
    ∀ e ∈ es, ∃ t, (t, e) ∈ tests.zip es := by
  intro es hlen e he
  rw [← List.map_snd_zip (Nat.le_of_eq hlen), List.mem_map] at he
  obtain ⟨⟨t, e⟩, hmem, rfl⟩ := he
  exact ⟨t, hmem⟩

/-- Without a first failure no execution counts as failed. -/
theorem countP_failed {tests : List TestCase} {es : List Execution}
    (hlen : es.length = tests.length) (h : firstFailure tests es = none) :
    (es.countP fun e => e.outcome.kind = OutcomeKind.failed) = 0 := by
  rw [List.countP_eq_zero]
  intro e he hkind
  obtain ⟨t, hmem⟩ := exists_mem_zip hlen e he
  rw [firstFailure, Option.map_eq_none_iff, List.find?_eq_none] at h
  exact h (t, e) hmem ((Execution.isFailed_iff e).mpr (of_decide_eq_true hkind))

/-- Without a first error no execution counts as broken. -/
theorem countP_broken {tests : List TestCase} {es : List Execution}
    (hlen : es.length = tests.length) (h : firstError tests es = none) :
    (es.countP fun e => e.outcome.kind = OutcomeKind.broken) = 0 := by
  rw [List.countP_eq_zero]
  intro e he hkind
  obtain ⟨t, hmem⟩ := exists_mem_zip hlen e he
  rw [firstError, List.findSome?_eq_none_iff] at h
  exact (Execution.error?_eq_none_iff t.name e).mp (h (t, e) hmem) (of_decide_eq_true hkind)

/-- What a run has kept decides its result. -/
theorem resultOf_eq {β : Type} {p : Progress σ β ω} {tests : List TestCase} {es : List Execution}
    (herror : p.firstError = firstError tests es)
    (hfailure : p.firstFailure = firstFailure tests es) (total : Span)
    (failing : Option FinalizeError) :
    resultOf p total failing = verdict tests es { p.summary with duration := total } failing := by
  unfold resultOf verdict
  rw [herror, hfailure]
  cases firstError tests es with
  | some e => rfl
  | none =>
    cases firstFailure tests es with
    | some name => rfl
    | none => cases failing <;> rfl

/-- The state of a run after all its tests. -/
def afterTests (tests : List TestCase) (executor : ExecutorState σ) (host : Ledger)
    (o : Outputs ω) :
    Progress σ Ledger ω :=
  runAll cfg sv Ledger.bridge (tests.any TestCase.isFocused) timing 0 tests (begin executor host o)

/-- The summary counts every test once, under the kind of its outcome. -/
theorem afterTests_summary (tests : List TestCase) (executor : ExecutorState σ) (host : Ledger)
    (o : Outputs ω) :
    (afterTests cfg sv timing tests executor host o).summary.total = tests.length ∧
    ∀ kind, (afterTests cfg sv timing tests executor host o).summary.count kind =
      (executions cfg sv (tests.any TestCase.isFocused) tests executor).countP
        fun e => e.outcome.kind = kind := by
  have houtcomes :=
    outcomes_ledger cfg sv (tests.any TestCase.isFocused) timing tests 0 host executor
  rw [afterTests, runAll_summary]
  obtain ⟨htotal, hcount⟩ := RunSummary.foldl_record
    (reports cfg sv Ledger.bridge (tests.any TestCase.isFocused) timing 0 tests host
      executor) .empty
  refine ⟨?_, fun kind => ?_⟩
  · have hlen := congrArg List.length houtcomes
    rw [List.length_map, List.length_map, length_executions] at hlen
    exact htotal.trans ((Nat.zero_add _).trans hlen)
  · -- Both sides count the outcomes of one kind in the same list.
    have hmap := congrArg (List.countP fun o : Outcome => o.kind = kind) houtcomes
    rw [List.countP_map, List.countP_map] at hmap
    have hzero : RunSummary.empty.count kind = 0 := by cases kind <;> rfl
    exact (hcount kind).trans (by rw [hzero, Nat.zero_add]; exact hmap)

/-- A run that has tests gives the verdict on their executions. -/
theorem run_result (tests : List TestCase) (executor : ExecutorState σ) (host : Ledger)
    (sinks : List (Sink ω)) (world : ω) :
    (run cfg sv Ledger.bridge timing (.ok tests) executor host
      (Outputs.ofSinks sinks world)).result =
      verdict tests (executions cfg sv (tests.any TestCase.isFocused) tests executor)
        { (afterTests cfg sv timing tests executor host (Outputs.ofSinks sinks world)).summary with
          duration := timing.total }
        (Outputs.firstFailing sinks (Outputs.received sinks
          (reports cfg sv Ledger.bridge (tests.any TestCase.isFocused) timing 0 tests host executor)
          world)) := by
  obtain ⟨hsinks, hfinal, hworld, -, -⟩ :=
    runAll_spec cfg sv Ledger.bridge (tests.any TestCase.isFocused) timing tests 0
      (begin executor host (Outputs.ofSinks sinks world))
  have hfailing := (close_spec hfinal).1
  have herror :=
    runAll_firstError cfg sv Ledger.bridge (tests.any TestCase.isFocused) timing tests 0
    (begin executor host (Outputs.ofSinks sinks world))
  have hfailure :=
    runAll_firstFailure cfg sv Ledger.bridge (tests.any TestCase.isFocused) timing tests 0
    (begin executor host (Outputs.ofSinks sinks world))
  rw [firstError_ledger] at herror
  rw [firstFailed_ledger] at hfailure
  rw [hsinks, hworld] at hfailing
  exact (resultOf_eq herror hfailure timing.total _).trans (congrArg _ hfailing)

end Runner

/-! ## The exit code -/

/-- A run that has been assembled is a run, with the built-in host, of the tests at a location, and
with the sinks that could be opened. -/
theorem Harness.run_eq_ok {σ : Type} {p : Params σ} {cfg : Config} {around : Surroundings}
    {given : List (Sink Desk)} {d : Desk} {world : σ} {f : Finished σ Ledger Desk}
    (h : Harness.run p cfg around given d world = .ok f) :
    ∃ sinks desk, openSinks cfg given d = .ok (sinks, desk) ∧
      f = Runner.run ⟨p.host, p.bindings, cfg.debug, around.generated⟩ (servicesOf p) Ledger.bridge
        around.timing (Load.load around.fresh desk.tree p.tests cfg.fileFilter)
          (.initial world) .empty
        (Outputs.ofSinks sinks desk) := by
  rw [Harness.run] at h
  cases hproxy : Client.checkProxy cfg.proxy with
  | error e =>
    rw [hproxy] at h
    cases h
  | ok _ =>
    rw [hproxy] at h
    cases hsinks : openSinks cfg given d with
    | error e =>
      rw [hsinks] at h
      cases h
    | ok opened =>
      rw [hsinks] at h
      cases h
      exact ⟨opened.1, opened.2, rfl, rfl⟩

namespace Cli

/-- The run that the program carries out, unless it cannot be assembled. -/
def runOf (s : Start) (a : Arguments) : Option (Finished Unit Ledger Desk) :=
  match Harness.Config.ofLookup s.environment with
  | .error _ => none
  | .ok cfg =>
    match openLines a (.ofTree s.tree s.freshResults (s.around.timing.test 0).1) with
    | .error _ => none
    | .ok (sinks, d) =>
      (Harness.run (paramsOf a s.transport) (a.apply cfg) s.around sinks d ()).toOption

/-- The exit code is that of the run, if there is one. -/
theorem carryOut_code (s : Start) (a : Arguments) :
    (carryOut s a).code = match runOf s a with
      | some f => codeOf f.result
      | none => brokenCode := by
  rw [carryOut, runOf]
  cases Harness.Config.ofLookup s.environment with
  | error e => rfl
  | ok cfg =>
    dsimp only
    cases openLines a (.ofTree s.tree s.freshResults (s.around.timing.test 0).1) with
    | error e => rfl
    | ok opened =>
      dsimp only
      cases Harness.run (paramsOf a s.transport) (a.apply cfg) s.around opened.1 opened.2 () <;> rfl

/-- The run of the program is a run with the built-in host. -/
theorem runOf_eq_some {s : Start} {a : Arguments} {f : Finished Unit Ledger Desk}
    (h : runOf s a = some f) : ∃ cfg sv loaded sinks d,
      f = Runner.run cfg sv Ledger.bridge s.around.timing loaded (.initial ()) .empty
        (Outputs.ofSinks sinks d) := by
  rw [runOf] at h
  cases hcfg : Harness.Config.ofLookup s.environment with
  | error e =>
    rw [hcfg] at h
    cases h
  | ok cfg =>
    rw [hcfg] at h
    dsimp only at h
    cases hlines : openLines a (.ofTree s.tree s.freshResults (s.around.timing.test 0).1) with
    | error e =>
      rw [hlines] at h
      cases h
    | ok opened =>
      rw [hlines] at h
      dsimp only at h
      cases hrun :
          Harness.run (paramsOf a s.transport) (a.apply cfg) s.around opened.1 opened.2 () with
      | error e =>
        rw [hrun] at h
        cases h
      | ok f =>
        rw [hrun] at h
        cases h
        obtain ⟨sinks, d, -, hf⟩ := Harness.run_eq_ok hrun
        exact ⟨_, _, _, sinks, d, hf⟩

/-- A run exits with 0 if it is a success, with 1 if tests failed, and else with 2. -/
theorem codeOf_cases (r : Except RunError RunSummary) :
    (codeOf r = 0 ∧ ∃ summary, r = .ok summary) ∨
    (codeOf r = 1 ∧ ∃ first summary, r = .error (.assertionsFailed first summary)) ∨
    (codeOf r = 2 ∧ (∀ summary, r ≠ .ok summary) ∧
      ∀ first summary, r ≠ .error (.assertionsFailed first summary)) := by
  match r with
  | .ok summary => exact .inl ⟨rfl, summary, rfl⟩
  | .error (.assertionsFailed first summary) => exact .inr (.inl ⟨rfl, first, summary, rfl⟩)
  | .error (.load _) => exact .inr (.inr ⟨rfl, nofun, nofun⟩)
  | .error (.test _) => exact .inr (.inr ⟨rfl, nofun, nofun⟩)
  | .error (.finalize _) => exact .inr (.inr ⟨rfl, nofun, nofun⟩)

/-- The exit code tells how the run of the program ended. -/
theorem carryOut_code_spec (s : Start) (a : Arguments) :
    ((carryOut s a).code = 0 ↔ ∃ f summary, runOf s a = some f ∧ f.result = .ok summary) ∧
    ((carryOut s a).code = 1 ↔
      ∃ f first summary, runOf s a = some f ∧ f.result = .error (.assertionsFailed first summary)) ∧
    ((carryOut s a).code = 0 ∨ (carryOut s a).code = 1 ∨ (carryOut s a).code = 2) := by
  rw [carryOut_code]
  cases hrun : runOf s a with
  | none => simp [brokenCode]
  | some f =>
    simp only [Option.some.injEq]
    rcases codeOf_cases f.result
      with ⟨hc, summary, hr⟩ | ⟨hc, first, summary, hr⟩ | ⟨hc, hok, hfailed⟩
    · rw [hc]
      simp [hr]
    · rw [hc]
      simp [hr]
    · rw [hc]
      simp [hok, hfailed]

end Cli

/-- How a run with the built-in host ends, and what the program makes of it.  If no tests are loaded
the run says so.  Otherwise it gives the verdict on the executions of the tests, with a summary that
counts each test once under its outcome, so that a run that succeeds has neither failed nor broken
tests.  The run of the program is such a run; the program exits with 0 if it succeeded, with 1 if
tests failed, and with 2 in all other cases. -/
theorem verdict_of_run {σ ω : Type} (cfg : Settings) (sv : Services σ) (timing : Timing)
    (loaded : Except LoadError (List TestCase)) (executor : ExecutorState σ) (host : Ledger)
    (sinks : List (Sink ω)) (world : ω) :
    let result := (Runner.run cfg sv Ledger.bridge timing loaded executor host
      (Outputs.ofSinks sinks world)).result
    (match loaded with
      | .error e => result = .error (.load e)
      | .ok tests =>
        let focusMode := tests.any TestCase.isFocused
        let es := Runner.executions cfg sv focusMode tests executor
        let summary := { (Runner.afterTests cfg sv timing tests executor host
          (Outputs.ofSinks sinks world)).summary with duration := timing.total }
        let last := Outputs.received sinks
          (Runner.reports cfg sv Ledger.bridge focusMode timing 0 tests host executor) world
        result = Runner.verdict tests es summary (Outputs.firstFailing sinks last) ∧
        summary.total = tests.length ∧
        (∀ kind, summary.count kind = es.countP fun e => e.outcome.kind = kind) ∧
        ∀ s, result = .ok s → s = summary ∧ s.isSuccess = true) ∧
    ∀ (s : Cli.Start) (a : Cli.Arguments),
      (∀ f ∈ Cli.runOf s a, ∃ cfg sv loaded sinks d,
        f = Runner.run cfg sv Ledger.bridge s.around.timing loaded (.initial ()) .empty
          (Outputs.ofSinks sinks d)) ∧
      ((Cli.carryOut s a).code = 0 ↔
        ∃ f summary, Cli.runOf s a = some f ∧ f.result = .ok summary) ∧
      ((Cli.carryOut s a).code = 1 ↔
        ∃ f first summary,
          Cli.runOf s a = some f ∧ f.result = .error (.assertionsFailed first summary)) ∧
      ((Cli.carryOut s a).code = 0 ∨ (Cli.carryOut s a).code = 1 ∨
        (Cli.carryOut s a).code = 2) := by
  refine ⟨?_, fun s a => ⟨fun f hf => Cli.runOf_eq_some hf, Cli.carryOut_code_spec s a⟩⟩
  cases loaded with
  | error e => rfl
  | ok tests =>
    obtain ⟨htotal, hcount⟩ :=
      Runner.afterTests_summary cfg sv timing tests executor host (Outputs.ofSinks sinks world)
    have hresult := Runner.run_result cfg sv timing tests executor host sinks world
    refine ⟨hresult, htotal, hcount, fun s hs => ?_⟩
    obtain ⟨rfl, herror, hfailure⟩ := Runner.verdict_eq_ok (hresult.symm.trans hs)
    have hlen := Runner.length_executions cfg sv (tests.any TestCase.isFocused) tests executor
    refine ⟨rfl, (RunSummary.isSuccess_iff _).mpr ⟨?_, ?_⟩⟩
    · exact (hcount .failed).trans (Runner.countP_failed hlen hfailure)
    · exact (hcount .broken).trans (Runner.countP_broken hlen herror)

end Assay
