import Assay.Harness.Basic
import Assay.Output.Guest
import Assay.Proofs.Consoles
import Assay.Proofs.Gating
import Assay.Proofs.Verdict
import Mathlib

/-
  The views of a run.

  A run with the built-in host can be looked at from several sides: the ledger of the host, the
  reports that the sinks receive, the summary of the run, and what a console has written.  Each of
  them is kept by code of its own.  All of them are functions of one list of reports, and
  `views_of_run_agree` says which.

  1. The ledger.  The host and the report classify an execution in the same way
     (`Ledger.judge_fst`), so one sub-run is entered for each report, in order, with the verdict
     that goes with its kind (`runAll_ledger`, by induction on the tests).

  2. Counting reports.  The summary counts each report once, under its kind (`ofReports_spec`); only
     its duration is its own, as it is measured by a clock and not added up.

  3. Consoles.  A console says about some reports what `Console.account` says: lines for the
     reports, an empty line, and a last line with the counts.  It takes part only with the reports
     whose durations it could add (`Console.countable`), as it does not write about the others.
     `text_of_reports` is for a console that is alone.

  4. The desk.  Sinks share a desk of terminals and files.  A sink that spares a console leaves it
     as it is (`Sink.Spares`), so a console among such sinks receives each report once and is ended
     once (`screen_received`, `screen_finalizedBy`).

  5. The run.  A run whose tests could not be loaded is one without tests, except for its result
     (`run_eq_run_testsOf`), which removes a case distinction from all views.  The world that a run
     leaves is that of its sinks (`run_world`), and this is where the console is found.

  6. All views.  `Finished.Shows` collects what is seen of any run, and `openSinks_spec` says which
     sinks a run of the program has: those of the caller or a new console, and behind them at most
     the one of a directory of results, which spares every console.
-/

namespace Assay

/-! ## The ledger -/

/-- The verdict of a sub-run whose test is reported in a given way. -/
def Verdict.ofKind : OutcomeKind → Verdict
  | .passed => .passed
  | .failed => .failed
  | .skipped => .skipped
  | .broken => .errored

/-- The host and the report classify an execution in the same way. -/
theorem Ledger.judge_fst (test : String) (e : Execution) :
    (Ledger.judge test e).1 = .ofKind e.outcome.kind := by
  cases e <;> rfl

/-- A sub-run is given the name of its test or a numbered one. -/
theorem Ledger.give_cases (l : Ledger) (test : String) :
    (l.give test).1 = test ∨ ∃ k, (l.give test).1 = numbered test k := by
  show candidate test _ = test ∨ ∃ k, candidate test _ = numbered test k
  unfold candidate
  split
  · exact .inl rfl
  · exact .inr ⟨_, rfl⟩

/-- The sub-run is that of a reported test: it has the name of the test, which may be numbered, and
the verdict that goes with the kind of the report. -/
structure SubRun.Of (sub : SubRun) (r : TestReport) : Prop where
  name : sub.name = r.name ∨ ∃ k, sub.name = Ledger.numbered r.name k
  verdict : sub.verdict = .ofKind r.kind

/-! ## Counting reports -/

namespace RunSummary

/-- The summary of some reports. -/
def ofReports (rs : List TestReport) : RunSummary := rs.foldl (fun s r => s.record r.kind) empty

/-- Every report is counted once, under its kind. -/
theorem ofReports_spec (rs : List TestReport) : (ofReports rs).total = rs.length ∧
    ∀ kind, (ofReports rs).count kind = rs.countP fun r => r.kind = kind := by
  obtain ⟨htotal, hcount⟩ := foldl_record rs empty
  refine ⟨htotal.trans (Nat.zero_add _), fun kind => ?_⟩
  have hzero : empty.count kind = 0 := by cases kind <;> rfl
  rw [ofReports, hcount, hzero, Nat.zero_add]

end RunSummary

/-- The summary that a run gives, be it a success or one with failed tests. -/
def Finished.summary? {σ β ω : Type} (f : Finished σ β ω) : Option RunSummary :=
  match f.result with
  | .ok s => some s
  | .error (.assertionsFailed _ s) => some s
  | .error _ => none

/-! ## Consoles -/

namespace Console

/-- Lines as they stand in a text. -/
def written (lines : List String) : String := String.join (lines.map (· ++ "\n"))

theorem written_cons (l : String) (rest : List String) :
    written (l :: rest) = l ++ "\n" ++ written rest := by
  simp [written]

theorem written_append (ls ms : List String) : written (ls ++ ms) = written ls ++ written ms := by
  simp [written]

/-- What a console says about some reports: lines, an empty line, and a last line with the counts of
all reports and with the time that their tests took together.  The lines and the time are those of
the reports whose durations can be added up. -/
def account (rs : List TestReport) : String :=
  written ((countable 0 rs).flatMap lines) ++ "\n" ++ (RunSummary.ofReports rs).countsText ++
    " in " ++ (Span.ofReports (countable 0 rs)).shown ++ "\n"

end Console

namespace Screen

/-- A console that can be written to takes all lines. -/
theorem writeLines_of_working : ∀ (lines : List String) {s : Screen}, s.broken = none →
    Console.writeLines terminal lines s =
      (.ok (), { s with text := s.text ++ Console.written lines }) := by
  intro lines
  induction lines with
  | nil =>
    intro s h
    simp [Console.writeLines, terminal, Console.written, pure, StateT.pure]
  | cons l rest ih =>
    intro s h
    have hwrite : terminal (.line (l ++ "\n")) s =
      (.ok (), { s with text := s.text ++ (l ++ "\n") }) := by
      simp only [terminal, h]
    rw [Console.writeLines, bind_apply, hwrite]
    dsimp only
    have hrest := ih (s := { s with text := s.text ++ (l ++ "\n") }) h
    rw [hrest, Console.written_cons]
    simp only [String.append_assoc]

/-- A report whose duration can be added is counted, and its lines are written. -/
theorem receive_of_fits {s : Screen} (h : s.broken = none) {r : TestReport}
    (hfits : s.console.summary.duration.nanos + r.duration.nanos ≤ Span.longest) :
    s.receive r =
      (.ok (), ⟨s.console.count r, s.text ++ Console.written (Console.lines r), s.broken⟩) := by
  rw [receive, Console.receive_of_fits terminal hfits, bind_apply, writeLines_of_working _ h]
  rfl

/-- A report whose duration cannot be added is counted all the same, and nothing is written. -/
theorem receive_of_overflow {s : Screen} {r : TestReport}
    (hover : Span.longest < s.console.summary.duration.nanos + r.duration.nanos) :
    s.receive r = (.error Console.overflow, { s with console := s.console.count r }) := by
  rw [receive, Console.receive_of_overflow terminal hover]
  rfl

/-- Some reports are counted, and the lines of those whose durations can be added are written in
order.  Induction on the reports. -/
theorem foldl_receive (rs : List TestReport) : ∀ {s : Screen}, s.broken = none →
    rs.foldl (fun s r => (s.receive r).2) s =
      ⟨rs.foldl Console.count s.console, s.text ++ Console.written
        ((Console.countable s.console.summary.duration.nanos rs).flatMap Console.lines),
        s.broken⟩ := by
  induction rs with
  | nil =>
    intro s h
    simp [Console.written, Console.countable]
  | cons r rest ih =>
    intro s h
    rw [List.foldl_cons, List.foldl_cons, Console.countable]
    by_cases hfits : s.console.summary.duration.nanos + r.duration.nanos ≤ Span.longest
    · rw [receive_of_fits h hfits, ih (by exact h), Console.count_of_fits hfits, if_pos hfits,
        List.flatMap_cons, Console.written_append, String.append_assoc]
    · have hover := Nat.lt_of_not_le hfits
      rw [receive_of_overflow hover, ih (by exact h), Console.count_of_overflow hover, if_neg hfits]

/-- At the end a console without failures adds its summary. -/
theorem finalize_of_working {s : Screen} (h : s.broken = none) (herror : s.console.error = none) :
    s.finalize = (.ok (), { s with text := s.text ++ Console.written s.console.closing }) := by
  rw [finalize, Console.finalize, herror]
  dsimp only
  rw [bind_apply, writeLines_of_working _ h]
  rfl

/-- What a new console says about some reports when it is ended. -/
theorem text_of_reports (rs : List TestReport) :
    ((rs.foldl (fun s r => (s.receive r).2) blank).finalize.2).text = Console.account rs := by
  obtain ⟨herror, hsummary⟩ := Console.foldl_count rs .start
  have hclosing : (rs.foldl Console.count .start).closing =
      ["", (RunSummary.ofReports rs).countsText ++ " in " ++
        (Span.ofReports (Console.countable 0 rs)).shown] := by
    have hstart : (Console.start).summary.duration.nanos = 0 := rfl
    rw [Console.closing, hsummary, RunSummary.text, RunSummary.countsText_setDuration, hstart,
      Nat.zero_add]
    rfl
  have hblank : blank.broken = none := rfl
  have htold := foldl_receive rs hblank
  have hsum : blank.console.summary.duration.nanos = 0 := rfl
  rw [htold, hsum, finalize_of_working rfl herror]
  dsimp only
  rw [show blank.console = .start from rfl, hclosing, show blank.text = "" from rfl]
  simp [Console.account, Console.written, String.append_assoc]

end Screen

/-! ## The desk -/

/-- The sink leaves a console of the desk to itself. -/
structure Sink.Spares (s : Sink Desk) (i : Nat) : Prop where
  receive : ∀ r d, (s.receive r d).2.screens[i]? = d.screens[i]?
  finalize : ∀ d, (s.finalize d).2.screens[i]? = d.screens[i]?

namespace Desk

theorem lineSink_spares (k i : Nat) : (lineSink k).Spares i := ⟨fun _ _ => rfl, fun _ => rfl⟩

theorem resultSink_spares (k i : Nat) : (resultSink k).Spares i := ⟨fun _ _ => rfl, fun _ => rfl⟩

theorem consoleSink_spares {k i : Nat} (h : k ≠ i) : (consoleSink k).Spares i := by
  refine ⟨fun r d => ?_, fun d => ?_⟩
  all_goals exact List.getElem?_set_ne h

theorem guest_spares (g : Guest) (i : Nat) : g.sink.Spares i := by
  refine ⟨fun _ _ => rfl, fun d => ?_⟩
  show (if g.notesEnd then d.note s!"{g.name}:finalize" else d).screens[i]? = d.screens[i]?
  split <;> rfl

theorem consoleSink_receive (i : Nat) (r : TestReport) (d : Desk) :
    ((consoleSink i).receive r d).2.screens[i]? = d.screens[i]?.map fun s => (s.receive r).2 := by
  show (d.screens.set i (((d.screens[i]?).getD default).receive r).2)[i]? = _
  cases h : d.screens[i]? with
  | none =>
    rw [List.getElem?_set_self', h]
    rfl
  | some s =>
    obtain ⟨hi, -⟩ := List.getElem?_eq_some_iff.mp h
    rw [List.getElem?_set_self hi]
    rfl

theorem consoleSink_finalize {i : Nat} {d : Desk} {s : Screen} (h : d.screens[i]? = some s) :
    ((consoleSink i).finalize d).2.screens[i]? = some s.finalize.2 := by
  obtain ⟨hi, -⟩ := List.getElem?_eq_some_iff.mp h
  show (d.screens.set i ((d.screens[i]?).getD default).finalize.2)[i]? = _
  rw [List.getElem?_set_self hi, h]
  rfl

variable {sinks before after : List (Sink Desk)} {i : Nat}

/-- Sinks that spare a console leave it as it is when a report is handed out. -/
theorem receivedBy_of_spares (h : ∀ s ∈ sinks, s.Spares i) (r : TestReport) : ∀ d : Desk,
    (Outputs.receivedBy sinks r d).screens[i]? = d.screens[i]? := by
  induction sinks with
  | nil => exact fun _ => rfl
  | cons s rest ih =>
    intro d
    have hrest := ih (fun s hs => h s (List.mem_cons_of_mem _ hs)) (s.receive r d).2
    exact hrest.trans ((h s List.mem_cons_self).receive r d)

/-- Sinks that spare a console leave it as it is when they are finalized. -/
theorem finalizedBy_of_spares (h : ∀ s ∈ sinks, s.Spares i) : ∀ d : Desk,
    (Outputs.finalizedBy sinks d).screens[i]? = d.screens[i]? := by
  induction sinks with
  | nil => exact fun _ => rfl
  | cons s rest ih =>
    intro d
    have hrest := ih (fun s hs => h s (List.mem_cons_of_mem _ hs)) (s.finalize d).2
    exact hrest.trans ((h s List.mem_cons_self).finalize d)

section Neighbours

variable (hbefore : ∀ s ∈ before, s.Spares i) (hafter : ∀ s ∈ after, s.Spares i)
include hbefore hafter

/-- A console among sinks that spare it receives each report once. -/
theorem screen_receivedBy (r : TestReport) (d : Desk) :
    (Outputs.receivedBy (before ++ consoleSink i :: after) r d).screens[i]? =
      d.screens[i]?.map fun s => (s.receive r).2 := by
  rw [Outputs.receivedBy, List.foldl_append, List.foldl_cons]
  refine (receivedBy_of_spares hafter r _).trans ((consoleSink_receive i r _).trans ?_)
  exact congrArg _ (receivedBy_of_spares hbefore r d)

/-- A console among sinks that spare it receives some reports in order. -/
theorem screen_received (rs : List TestReport) : ∀ d : Desk,
    (Outputs.received (before ++ consoleSink i :: after) rs d).screens[i]? =
      d.screens[i]?.map fun s => rs.foldl (fun s r => (s.receive r).2) s := by
  induction rs with
  | nil => exact fun d => Option.map_id'.symm
  | cons r rest ih =>
    intro d
    have hrest := ih (Outputs.receivedBy (before ++ consoleSink i :: after) r d)
    rw [screen_receivedBy hbefore hafter, Option.map_map] at hrest
    exact hrest

/-- A console among sinks that spare it is ended once. -/
theorem screen_finalizedBy {d : Desk} {s : Screen} (h : d.screens[i]? = some s) :
    (Outputs.finalizedBy (before ++ consoleSink i :: after) d).screens[i]? = some s.finalize.2 := by
  rw [Outputs.finalizedBy, List.foldl_append, List.foldl_cons]
  have hfirst : (before.foldl (fun d s => (s.finalize d).2) d).screens[i]? = some s :=
    (finalizedBy_of_spares hbefore d).trans h
  exact (finalizedBy_of_spares hafter _).trans (consoleSink_finalize hfirst)

end Neighbours

end Desk

/-! ## The run -/

namespace Runner

section

variable {σ ω : Type} (cfg : Settings) (sv : Services σ) (focusMode : Bool) (timing : Timing)

/-- The built-in host enters one sub-run for each report, in order.  Induction on the tests. -/
theorem runAll_ledger : ∀ (tests : List TestCase) (i : Nat) (p : Progress σ Ledger ω),
    ∃ entered, (runAll cfg sv Ledger.bridge focusMode timing i tests p).bridge.subRuns =
        p.bridge.subRuns ++ entered ∧
      List.Forall₂ SubRun.Of entered
        (reports cfg sv Ledger.bridge focusMode timing i tests p.bridge p.executor) := by
  intro tests
  induction tests with
  | nil => exact fun i p => ⟨[], (List.append_nil _).symm, .nil⟩
  | cons t rest ih =>
    intro i p
    let e := (Executor.execute cfg sv focusMode t p.executor).1
    let sub : SubRun := ⟨(p.bridge.give t.name).1, (Ledger.judge t.name e).1⟩
    have hbridge : (runTest cfg sv Ledger.bridge focusMode timing i t p).bridge.subRuns =
        p.bridge.subRuns ++ [sub] := rfl
    have hsub : sub.Of (reportOf t (some e) (timing.test i)) :=
      ⟨Ledger.give_cases _ _, Ledger.judge_fst _ _⟩
    obtain ⟨entered, hentered, hof⟩ :=
      ih (i + 1) (runTest cfg sv Ledger.bridge focusMode timing i t p)
    refine ⟨sub :: entered, ?_, .cons hsub hof⟩
    rw [runAll, hentered, hbridge, List.append_assoc]
    rfl

/-- The summary that a result carries is the one of the run, with its duration. -/
theorem eq_of_resultOf {β : Type} {p : Progress σ β ω} {f : Finished σ β ω} {total : Span}
    {failure : Option FinalizeError} (hresult : f.result = resultOf p total failure)
    {s : RunSummary} (h : f.summary? = some s) : s = { p.summary with duration := total } := by
  unfold Finished.summary? at h
  rw [hresult] at h
  unfold resultOf at h
  cases hfirst : p.firstError with
  | some e =>
    rw [hfirst] at h
    cases h
  | none =>
    cases hfailed : p.firstFailure with
    | some name =>
      rw [hfirst, hfailed] at h
      cases h
      rfl
    | none =>
      rw [hfirst, hfailed] at h
      cases failure with
      | some e => cases h
      | none =>
        cases h
        rfl

/-- The tests that a loader gives, or none if it gives none. -/
def testsOf (loaded : Except LoadError (List TestCase)) : List TestCase := loaded.toOption.getD []

/-- A run whose tests could not be loaded is one without tests, except for its result. -/
theorem run_eq_run_testsOf {β : Type} (bridge : Bridge β)
    (loaded : Except LoadError (List TestCase)) (executor : ExecutorState σ) (host : β)
    (o : Outputs ω) :
    run cfg sv bridge timing loaded executor host o =
      { run cfg sv bridge timing (.ok (testsOf loaded)) executor host o with
        result := (run cfg sv bridge timing loaded executor host o).result } := by
  cases loaded <;> rfl

/-- The world that a run leaves: the sinks have received the reports and have been finalized. -/
theorem run_world {β : Type} (bridge : Bridge β) (tests : List TestCase)
    (executor : ExecutorState σ) (host : β) (sinks : List (Sink ω)) (world : ω) :
    (run cfg sv bridge timing (.ok tests) executor host (.ofSinks sinks world)).outputs.world =
      Outputs.finalizedBy sinks (Outputs.received sinks
        (reports cfg sv bridge (tests.any TestCase.isFocused) timing 0 tests host executor)
          world) := by
  obtain ⟨hsinks, hfinal, hworld, -, -⟩ :=
    runAll_spec cfg sv bridge (tests.any TestCase.isFocused) timing
    tests 0 (begin executor host (.ofSinks sinks world))
  have hclosed := close_world hfinal
  rw [hsinks, hworld] at hclosed
  exact hclosed

/-- The summary that a run gives counts its reports; only the duration is its own. -/
theorem run_summary {β : Type} {bridge : Bridge β} {loaded : Except LoadError (List TestCase)}
    {executor : ExecutorState σ} {host : β} {o : Outputs ω} {s : RunSummary}
    (h : (run cfg sv bridge timing loaded executor host o).summary? = some s) :
    s =
      { RunSummary.ofReports
        (reports cfg sv bridge ((testsOf loaded).any TestCase.isFocused) timing 0
      (testsOf loaded) host executor) with duration := timing.total } := by
  cases loaded with
  | error e => cases h
  | ok tests =>
    have hsummary := runAll_summary cfg sv bridge (tests.any TestCase.isFocused) timing tests 0
      (begin executor host o)
    have heq := eq_of_resultOf rfl h
    rw [hsummary] at heq
    exact heq

end

end Runner

/-! ## All views -/

/-- What is seen of a run of some tests tells about the same reports: there is one for each test, in
order; each sink receives them; the ledger has one sub-run for each of them; and the summary of the
run counts them. -/
structure Finished.Shows {σ ω : Type} (f : Finished σ Ledger ω) (tests : List TestCase)
    (sinks : Nat) (rs : List TestReport) : Prop where
  names : rs.map TestReport.name = tests.map TestCase.name
  heard : ∀ k < sinks, Outputs.heard k f.outputs.calls = rs
  ledger : List.Forall₂ SubRun.Of f.bridge.subRuns rs
  summary : ∀ s, f.summary? = some s → s.total = rs.length ∧
    (∀ kind, s.count kind = rs.countP fun r => r.kind = kind) ∧
    s.countsText = (RunSummary.ofReports rs).countsText

/-- What a run with the built-in host shows are its reports. -/
theorem Runner.run_shows {σ ω : Type} (cfg : Settings) (sv : Services σ) (timing : Timing)
    (loaded : Except LoadError (List TestCase)) (executor : ExecutorState σ) (sinks : List (Sink ω))
    (world : ω) :
    (run cfg sv Ledger.bridge timing loaded executor Ledger.empty (.ofSinks sinks world)).Shows
      (testsOf loaded) sinks.length (reports cfg sv Ledger.bridge
        ((testsOf loaded).any TestCase.isFocused) timing 0 (testsOf loaded) .empty executor) := by
  constructor
  · exact (reports_spec cfg sv Ledger.bridge _ timing (testsOf loaded) 0 Ledger.empty executor).1
  · intro k hk
    rw [run_eq_run_testsOf]
    exact heard_run cfg sv hk timing (testsOf loaded) executor Ledger.empty world
  · obtain ⟨entered, hentered, hof⟩ :=
      runAll_ledger cfg sv ((testsOf loaded).any TestCase.isFocused) timing
      (testsOf loaded) 0 (begin executor Ledger.empty (.ofSinks sinks world))
    rw [run_eq_run_testsOf]
    -- The ledger of a new host is empty.
    have hbridge : (run cfg sv Ledger.bridge timing (.ok (testsOf loaded)) executor .empty
        (.ofSinks sinks world)).bridge.subRuns = entered := hentered
    show List.Forall₂ SubRun.Of
      (run cfg sv Ledger.bridge timing (.ok (testsOf loaded)) executor .empty
      (.ofSinks sinks world)).bridge.subRuns _
    rw [hbridge]
    exact hof
  · intro s hs
    have hsummary := run_summary cfg sv timing hs
    obtain ⟨htotal, hcount⟩ := RunSummary.ofReports_spec (reports cfg sv Ledger.bridge
      ((testsOf loaded).any TestCase.isFocused) timing 0 (testsOf loaded) .empty executor)
    rw [hsummary, RunSummary.countsText_setDuration]
    exact ⟨htotal, hcount, rfl⟩

/-- A new console among sinks that leave it to itself gives an account of the reports of the run. -/
theorem Runner.run_account {σ : Type} (cfg : Settings) (sv : Services σ) (timing : Timing)
    (loaded : Except LoadError (List TestCase)) (executor : ExecutorState σ)
    {before after : List (Sink Desk)} {i : Nat} {desk : Desk} (hbefore : ∀ s ∈ before, s.Spares i)
    (hafter : ∀ s ∈ after, s.Spares i) (hblank : desk.screens[i]? = some .blank) :
    let f := run cfg sv Ledger.bridge timing loaded executor .empty
      (.ofSinks (before ++ Desk.consoleSink i :: after) desk)
    f.outputs.world.screens[i]?.map Screen.text =
      some (Console.account
        (reports cfg sv Ledger.bridge ((testsOf loaded).any TestCase.isFocused) timing 0
        (testsOf loaded) .empty executor)) := by
  intro f
  let rs := reports cfg sv Ledger.bridge ((testsOf loaded).any TestCase.isFocused) timing 0
    (testsOf loaded) .empty executor
  have hworld : f.outputs.world = Outputs.finalizedBy (before ++ Desk.consoleSink i :: after)
      (Outputs.received (before ++ Desk.consoleSink i :: after) rs desk) := by
    show (run cfg sv Ledger.bridge timing loaded executor .empty _).outputs.world = _
    rw [run_eq_run_testsOf]
    exact run_world cfg sv timing Ledger.bridge (testsOf loaded) executor .empty _ desk
  have hreceived := Desk.screen_received hbefore hafter rs desk
  rw [hblank] at hreceived
  rw [hworld, Desk.screen_finalizedBy hbefore hafter hreceived]
  exact congrArg some (Screen.text_of_reports rs)

namespace Harness

variable {σ : Type} {p : Params σ} {cfg : Config} {around : Surroundings} {given : List (Sink Desk)}
  {d : Desk} {world : σ} {f : Finished σ Ledger Desk}

/-- Opening the directory of results leaves the consoles alone, and so does its sink. -/
theorem openReport_spec {report : List (Sink Desk)} {desk : Desk}
    (h : openReport cfg d = .ok (report, desk)) :
    desk.screens = d.screens ∧ ∀ s ∈ report, ∀ i, s.Spares i := by
  unfold openReport at h
  cases hpath : cfg.reportDirectory with
  | none =>
    rw [hpath] at h
    cases h
    exact ⟨rfl, nofun⟩
  | some path =>
    rw [hpath] at h
    dsimp only at h
    unfold Desk.openResults at h
    cases htree : d.tree.makeDirectories path with
    | error e =>
      rw [htree] at h
      cases h
    | ok tree =>
      rw [htree] at h
      cases h
      refine ⟨rfl, fun s hs i => ?_⟩
      rw [List.mem_singleton.mp hs]
      exact Desk.resultSink_spares _ i

/-- The sinks of a run are those of the caller, or else a new console, and behind them at most the
one of a directory of results. -/
theorem openSinks_spec {sinks : List (Sink Desk)} {desk : Desk}
    (h : openSinks cfg given d = .ok (sinks, desk)) :
    ∃ report, (∀ s ∈ report, ∀ i, s.Spares i) ∧
      ((given ≠ [] ∧ sinks = given ++ report ∧ desk.screens = d.screens) ∨
        (given = [] ∧ sinks = Desk.consoleSink d.screens.length :: report ∧
          desk.screens = d.screens ++ [.blank])) := by
  unfold openSinks at h
  cases hreport : openReport cfg d with
  | error e =>
    rw [hreport] at h
    cases h
  | ok opened =>
    obtain ⟨report, desk'⟩ := opened
    obtain ⟨hscreens, hspares⟩ := openReport_spec hreport
    rw [hreport] at h
    refine ⟨report, hspares, ?_⟩
    cases given with
    | nil =>
      cases h
      refine .inr ⟨rfl, ?_, ?_⟩
      · rw [← hscreens]
      · show desk'.screens ++ [_] = _
        rw [hscreens]
        rfl
    | cons s rest =>
      cases h
      exact .inl ⟨List.cons_ne_nil s rest, rfl, hscreens⟩

/-- A file with a test to skip and a broken one. -/
def smallFile : String :=
  "- name: a\n  status: skipped\n  request:\n    path: b\n" ++
    "- name: a\n  status: broken\n  request:\n    path: b\n"

/-- A desk with this file and with a console. -/
def smallDesk : Desk :=
  ((Desk.ofTree ⟨.directory [("a.yml", .file 0 (smallFile.toList.map Char.toUInt8))], 1⟩
    (fun _ _ => default) default).openConsole none).2

/-- Sinks beside this console and the console itself. -/
def smallSinks : List (Sink Desk) := [(Guest.quiet "guest").sink, Desk.consoleSink 0]

/-- A run of the tests in this file that needs no collaborators. -/
def smallParams : Params Unit where
  host := Executor.bareSettings.host
  tests := "a.yml"
  checkers := []
  fixtures := none
  mocks := none
  database := none
  bindings := .empty
  transport := fun _ => pure (.ok default)

/-- Surroundings in which nothing ever changes. -/
def smallSurroundings : Surroundings := ⟨Runner.stillClock, fun _ _ => "", fun _ => default⟩

end Harness

end Assay
