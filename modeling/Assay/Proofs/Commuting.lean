import Assay.Proofs.Captures
import Assay.Proofs.Dictionary
import Assay.Proofs.Gating
import Assay.Proofs.Templates

/-
  Independent tests commute.

  Tests are coupled by the captured variables and by the sets of generated values that have been
  used, and by what the collaborators remember.  If the collaborators answer each call without
  looking at what came before (`Services.Forgetful`), then an execution depends on the executor only
  through what its templates read (`Reads`), and it changes the executor in the same way wherever it
  starts (`Executor.Moves`): it puts entries under names that the test captures, and uses up some
  sets of generated values.

  So two neighbours that do not refer to each other's variables can be exchanged:
  `independent_tests_commute` says that their reports are exchanged with them and that nothing else
  shows, neither in the other reports nor in the variables that are left.

  The argument compares two runs from states that may differ, and goes up one layer at a time.

  1. Collaborators.  Without memory they answer alike in any state: checkers one after the other
     (`Checker.ask_fst_congr`), providers (`Provision.Fault.congr`).

  2. One execution.  If the templates read the same in two states, then each stage of the test goes
     the same way in both (the lemmas that end with `congr`), and the execution ends with the same
     outcome (`execute_fst_congr`).  What it changes is the same as well: `execute_in_step`, where
     `InStep` says that two states are left by the same move and that only names are touched that
     the test captures.

  3. One test.  A bridge may execute a test several times, and later executions may read what
     earlier ones have captured.  They read the same in both runs, since they have been moved in
     step (`Reads.move`); the induction on the dialogue of the bridge carries this along
     (`run_in_step`, `handle_in_step`).

  4. Two tests.  A test reads the same after another one that captures nothing it refers to
     (`reads_of_moves`).  So each of two independent tests is reported in one order as in the other
     one, and as different names are captured the entries can be put in in either order
     (`handle_swap`).

  5. The run.  Up to the two tests nothing differs, and behind them the executors are `Level`: the
     same variables, and as many sets of generated values used.  From there on reports are the same
     (`reports_of_level`), which gives `reports_swapAt` by induction on the place of the exchange.
-/

namespace Assay

/-! ## Collaborators without memory -/

variable {σ : Type}

/-- What the collaborators are left with when a test has had its mocks prepared, its request sent
and its response checked. -/
def Services.exchanged (sv : Services σ) (server : MockServer σ) (t : TestCase)
    (request : PreparedRequest) (response : Response) (w : σ) : σ :=
  (Checker.ask t response sv.checkers (sv.send request (server.prepare t.mocks w).2).2).2

/-- The answers of the collaborators depend on the calls they get.  The answer about the mocks
depends on what was prepared for the test, and at most on its own request and response. -/
structure Services.Forgetful (sv : Services σ) : Prop where
  fixtures : ∀ load ∈ sv.fixtures, ∀ names w w', (load names w).1 = (load names w').1
  prepare : ∀ server ∈ sv.mocks, ∀ defs w w', (server.prepare defs w).1 = (server.prepare defs w').1
  send : ∀ request w w', (sv.send request w).1 = (sv.send request w').1
  check : ∀ c ∈ sv.checkers, ∀ t response w w', (c.check t response w).1 = (c.check t response w').1
  verify : ∀ server ∈ sv.mocks, ∀ t request response w w',
    (server.verify (sv.exchanged server t request response w)).1 =
      (server.verify (sv.exchanged server t request response w')).1

/-- Checkers without memory answer in the same way in any state.  Induction on the checkers. -/
theorem Checker.ask_fst_congr {t : TestCase} {response : Response} : ∀ {cs : List (Checker σ)},
    (∀ c ∈ cs, ∀ w w', (c.check t response w).1 = (c.check t response w').1) →
    ∀ w w', (ask t response cs w).1 = (ask t response cs w').1 := by
  intro cs
  induction cs with
  | nil => exact fun _ _ _ => rfl
  | cons c rest ih =>
    intro h w w'
    have hfirst := h c List.mem_cons_self w w'
    have hrest := ih fun c hc => h c (List.mem_cons_of_mem _ hc)
    rw [ask, ask]
    generalize c.check t response w = answer at hfirst
    generalize c.check t response w' = answer' at hfirst
    obtain ⟨a, v⟩ := answer
    obtain ⟨a', v'⟩ := answer'
    obtain rfl : a = a' := hfirst
    cases a with
    | error e => rfl
    | ok found => exact congrArg (.ok found :: ·) (hrest v v')

/-- A provider without memory has the same faults in any state. -/
theorem Provision.Fault.congr {ε : Type} {p : Provision σ ε}
    (h : ∀ act ∈ p.provider, ∀ w w', (act w).1 = (act w').1) {w : σ} {cause : RunFault}
    (hfault : p.Fault w cause) (w' : σ) : p.Fault w' cause := by
  cases hfault with
  | missing needed provider => exact .missing needed provider
  | refused needed provider answer =>
    exact .refused needed provider ((h _ provider w' w).trans answer)

namespace Executor

variable {cfg : Settings} {sv : Services σ} {focusMode : Bool} {t : TestCase}
    {s s' : ExecutorState σ}

/-! ## What an execution reads -/

variable (t s s') in
/-- The templates of the test read the same in two states: under each name the same is captured, and
unless it is the name of no built-in variable, as many sets of generated values have been used. -/
def Reads : Prop := ∀ r ∈ t.references,
  s.captured.get? r.name = s'.captured.get? r.name ∧
  ((BuiltIn.ofName? r.name).isSome = true → s.drawn = s'.drawn)

/-- Then the templates are filled in with the same values. -/
theorem Reads.resolved (h : Reads t s s') : resolved cfg t s = resolved cfg t s' := by
  have hvalue : ∀ r ∈ t.references,
      (⟨t.bindings, s.captured, cfg.bindings, cfg.generated s.drawn⟩ : Scopes).value? r.name =
      (⟨t.bindings, s'.captured, cfg.bindings, cfg.generated s'.drawn⟩ : Scopes).value? r.name := by
    intro r hr
    obtain ⟨hcaptured, hdrawn⟩ := h r hr
    rw [Scopes.value?, Scopes.value?, Scopes.lookup, Scopes.lookup, Scopes.userValue,
      Scopes.userValue, hcaptured]
    cases hbuiltIn : BuiltIn.ofName? r.name with
    | none => rfl
    | some b =>
      rw [hbuiltIn] at hdrawn
      rw [hdrawn rfl]
  have hcase := congrArg Prod.fst (Scopes.resolveCase_congr hvalue)
  exact hcase

section Transfer

variable (hsv : sv.Forgetful) (hres : resolved cfg t s = resolved cfg t s')
include hsv

theorem fixtures_forget : ∀ act ∈ (fixturesOf sv t).provider, ∀ w w', (act w).1 = (act w').1 := by
  intro act hact w w'
  obtain ⟨load, hload, rfl⟩ := Option.map_eq_some_iff.mp hact
  exact hsv.fixtures load hload t.fixtures w w'

theorem mocks_forget (u : TestCase) :
    ∀ act ∈ (mocksOf sv u).provider, ∀ w w', (act w).1 = (act w').1 := by
  intro act hact w w'
  obtain ⟨server, hserver, rfl⟩ := Option.map_eq_some_iff.mp hact
  exact hsv.prepare server hserver u.mocks w w'

/-- A test that has its fixtures in one state has them in the other. -/
theorem Supplied.congr (h : Supplied sv focusMode t s) : Supplied sv focusMode t s' :=
  ⟨h.1, fun cause hfault => h.2 cause (hfault.congr (fixtures_forget hsv) _)⟩

include hres

/-- A test that is prepared in one state is prepared in the other. -/
theorem Prepared.congr (h : Prepared cfg sv focusMode t s) : Prepared cfg sv focusMode t s' := by
  refine ⟨h.1.congr hsv, fun cause hfault => h.2 cause ?_⟩
  rw [hres]
  exact hfault.congr (mocks_forget hsv _) _

/-- The same request is built. -/
theorem Built.congr {request : PreparedRequest} (h : Built cfg sv focusMode t s request) :
    Built cfg sv focusMode t s' request :=
  ⟨h.1.congr hsv hres, hres ▸ h.2⟩

omit hres in
/-- The request gets the same reply. -/
theorem reply_congr (request : PreparedRequest) :
    reply cfg sv t s request = reply cfg sv t s' request :=
  hsv.send request _ _

/-- The checkers find the same. -/
theorem asked_congr (request : PreparedRequest) (response : Response) :
    (asked cfg sv t s request response).1 = (asked cfg sv t s' request response).1 := by
  rw [asked, asked, hres]
  exact Checker.ask_fst_congr (fun c hc => hsv.check c hc _ response) _ _

/-- A test that gets its response in one state gets it in the other. -/
theorem Answered.congr {request : PreparedRequest} {response : Response}
    (h : Answered cfg sv focusMode t s request response) :
    Answered cfg sv focusMode t s' request response :=
  ⟨h.1.congr hsv hres, (reply_congr hsv request).symm.trans h.2⟩

/-- A test that is checked in one state is checked in the other, with the same findings. -/
theorem Checked.congr {request : PreparedRequest} {response : Response}
    {found : List (List Diagnostic)} (h : Checked cfg sv focusMode t s request response found) :
    Checked cfg sv focusMode t s' request response found :=
  ⟨h.1.congr hsv hres, (asked_congr hsv hres request response).symm.trans h.2⟩

/-- A checker that errs in one state errs in the other. -/
theorem Erred.congr {request : PreparedRequest} {response : Response} {e : CheckError}
    (h : Erred cfg sv focusMode t s request response e) :
    Erred cfg sv focusMode t s' request response e := by
  obtain ⟨hanswered, found, hfound⟩ := h
  exact ⟨hanswered.congr hsv hres, found, (asked_congr hsv hres request response).symm.trans hfound⟩

/-- The mocks report the same, since they were prepared for this test. -/
theorem reported_congr (request : PreparedRequest) (response : Response) :
    reported cfg sv t s request response = reported cfg sv t s' request response := by
  rw [reported, reported]
  cases hserver : sv.mocks with
  | none => rfl
  | some server =>
    dsimp only
    cases hempty : t.mocks.isEmpty with
    | true => rw [if_pos rfl, if_pos rfl]
    | false =>
      have hasked : ∀ s : ExecutorState σ, (asked cfg sv t s request response).2 =
          sv.exchanged server (resolved cfg t s) request response (atMocks sv t s) := by
        intro s
        have hneeded : (mocksOf sv (resolved cfg t s)).needed = true := by
          show (!(resolved cfg t s).mocks.isEmpty) = true
          rw [isEmpty_mocks_resolved, hempty]
          rfl
        have hsend : atSend cfg sv t s =
          (server.prepare (resolved cfg t s).mocks (atMocks sv t s)).2 := by
          have hprovider : (mocksOf sv (resolved cfg t s)).provider =
              some (server.prepare (resolved cfg t s).mocks) := by
            rw [mocksOf, hserver]
            rfl
          rw [atSend, Provision.left, hprovider, hneeded]
          rfl
        rw [asked, hsend, Services.exchanged]
      rw [hasked s, hasked s', hres]
      exact hsv.verify server hserver _ request response _ _

/-- The same is reported of the test. -/
theorem diagnosticsOf_congr (request : PreparedRequest) (response : Response)
    (found : List (List Diagnostic)) :
    diagnosticsOf cfg sv t s request response found =
      diagnosticsOf cfg sv t s' request response found := by
  rw [diagnosticsOf, diagnosticsOf, reported_congr hsv hres, hres]

/-- A test whose templates read the same takes the same course: the execution ends in the same
way. -/
theorem execute_fst_congr :
    (execute cfg sv focusMode t s).1 = (execute cfg sv focusMode t s').1 := by
  obtain ⟨e, calls, hcourse⟩ := exists_course cfg sv focusMode t s
  have hsame : ∃ calls', Course cfg sv focusMode t s' e calls' := by
    cases hcourse with
    | skipped status ended => exact ⟨_, .skipped status ended⟩
    | marked status => exact ⟨_, .marked status⟩
    | unsupplied admitted fault =>
      exact ⟨_, .unsupplied admitted (fault.congr (fixtures_forget hsv) _)⟩
    | unprepared supplied fault =>
      have hfault := fault.congr (mocks_forget hsv _) (atMocks sv t s')
      rw [hres] at hfault
      exact ⟨_, .unprepared (supplied.congr hsv) hfault⟩
    | unbuilt prepared fault =>
      rw [urlOf, hres] at fault
      rw [urlOf, hres]
      exact ⟨_, .unbuilt (prepared.congr hsv hres) fault⟩
    | unanswered built fault transport =>
      exact ⟨_, .unanswered (built.congr hsv hres) ((reply_congr hsv _).symm.trans fault) transport⟩
    | refused built fault transport =>
      exact ⟨_, .refused (built.congr hsv hres) ((reply_congr hsv _).symm.trans fault) transport⟩
    | erred erred => exact ⟨_, .erred (erred.congr hsv hres)⟩
    | @passed request response found checked clean =>
      have hdiagnostics := diagnosticsOf_congr hsv hres request response found
      rw [exchangeOf, hdiagnostics]
      exact ⟨_, .passed (checked.congr hsv hres) (hdiagnostics.symm.trans clean)⟩
    | @failed request response found checked faulty =>
      have hdiagnostics := diagnosticsOf_congr hsv hres request response found
      rw [exchangeOf, hdiagnostics]
      exact ⟨_, .failed (checked.congr hsv hres) (hdiagnostics ▸ faulty)⟩
  obtain ⟨calls', hcourse'⟩ := hsame
  exact (execute_of_course hcourse).1.trans (execute_of_course hcourse').1.symm

end Transfer

/-! ## What an execution changes -/

/-- The variables that can be captured from a document, with their values. -/
def foundIn (document : Json) (entries : List (String × String)) : List (String × String) :=
  entries.filterMap fun e =>
    match captureOne document e.1 e.2 with
    | .ok value => some (e.1, value)
    | .error _ => none

/-- Capturing puts in what is found.  Induction on the variables. -/
theorem captureAll_snd (document : Json) :
    ∀ (entries : List (String × String)) (captured : Dict String),
    (captureAll document entries captured).2 = captured.update (foundIn document entries) := by
  intro entries
  induction entries with
  | nil => exact fun _ => rfl
  | cons e rest ih =>
    intro captured
    rw [captureAll, foundIn, List.filterMap_cons]
    cases captureOne document e.1 e.2 with
    | ok value => exact ih _
    | error d => exact ih captured

/-- The entries that a test puts into the variables when it captures from a response. -/
def capturedIn (t : TestCase) (r : Response) : List (String × String) :=
  match r.json? with
  | some document => foundIn document t.capture.entries
  | none => []

/-- The variables after a capture are those from before with entries put in. -/
theorem capturedFrom_eq (t : TestCase) (r : Response) (captured : Dict String) :
    capturedFrom t r captured = captured.update (capturedIn t r) := by
  rw [capturedFrom, capturedIn]
  cases r.json? with
  | none => rfl
  | some document => exact captureAll_snd document _ captured

/-- Only names that the test captures are touched. -/
theorem key_of_mem_capturedIn {t : TestCase} {r : Response} {e : String × String}
    (he : e ∈ capturedIn t r) : e.1 ∈ t.capture.keys := by
  rw [capturedIn] at he
  cases hbody : r.json? with
  | none =>
    rw [hbody] at he
    cases he
  | some document =>
    rw [hbody] at he
    obtain ⟨e', he', hvalue⟩ := List.mem_filterMap.mp he
    cases hone : captureOne document e'.1 e'.2 with
    | error d =>
      rw [hone] at hvalue
      cases hvalue
    | ok value =>
      rw [hone] at hvalue
      cases hvalue
      exact List.mem_map.mpr ⟨e', he', rfl⟩

/-! ### Generated values -/

theorem drawn_run {ε : Type} (p : Provision σ ε) (s : ExecutorState σ) :
    (p.run s).2.drawn = s.drawn := by
  obtain ⟨answer, hrun, -⟩ := p.run_spec s
  rw [hrun]
  rfl

theorem drawn_verifyMocks (sv : Services σ) (t : TestCase) (s : ExecutorState σ) :
    (verifyMocks sv t s).2.drawn = s.drawn := by
  rw [verifyMocks]
  cases sv.mocks with
  | none => rfl
  | some server => cases t.mocks.isEmpty <;> rfl

theorem drawn_capture (t : TestCase) (r : Response) (s : ExecutorState σ) :
    (capture t r s).2.drawn = s.drawn := by
  rw [capture]
  cases t.capture.isEmpty with
  | true => rfl
  | false => cases r.json? <;> rfl

/-- Checking a response uses up no generated values. -/
theorem drawn_assess (sv : Services σ) (t : TestCase) (r : Response) (s : ExecutorState σ) :
    (assess sv t r s).2.drawn = s.drawn := by
  rw [assess, bind_apply, Checker.checkAll_logged]
  cases Checker.merge (Checker.ask t r sv.checkers s.world).1 with
  | error e => rfl
  | ok found =>
    dsimp only
    rw [bind_apply]
    split
    · rw [bind_apply]
      exact (drawn_capture t r _).trans (drawn_verifyMocks sv t _)
    · exact drawn_verifyMocks sv t _

/-- Sending a request and checking its response uses up no generated values. -/
theorem drawn_exchange (sv : Services σ) (t : TestCase) (request : PreparedRequest)
    (s : ExecutorState σ) :
    (exchange sv t request s).2.drawn = s.drawn := by
  rw [exchange, bind_apply]
  have hsend : (call (.send request) (sv.send request) s).2.drawn = s.drawn := rfl
  cases (call (.send request) (sv.send request) s).1 with
  | error e => exact hsend
  | ok response =>
    dsimp only
    rw [bind_apply]
    have hassess :=
      (drawn_assess sv t response (call (.send request) (sv.send request) s).2).trans hsend
    cases (assess sv t response (call (.send request) (sv.send request) s).2).1 <;> exact hassess

/-- A test that has its fixtures uses up one set of generated values. -/
theorem drawn_of_supplied (h : Supplied sv focusMode t s) :
    (execute cfg sv focusMode t s).2.drawn = s.drawn + 1 := by
  rw [execute_of_supplied h, perform_eq]
  have hrun : ((mocksOf sv (resolved cfg t s)).run (beforeMocks sv t s)).2.drawn = s.drawn + 1 :=
    drawn_run _ _
  generalize (mocksOf sv (resolved cfg t s)).run (beforeMocks sv t s) = prepared at hrun
  obtain ⟨answer, s'⟩ := prepared
  cases answer with
  | error cause => exact hrun
  | ok u =>
    dsimp only
    cases prepareRequest cfg (resolved cfg t s) with
    | error e => exact hrun
    | ok request => exact (drawn_exchange _ _ _ _).trans hrun

/-- A test that does not come to its templates uses up none. -/
theorem drawn_of_unsupplied (h : ¬ Supplied sv focusMode t s) :
    (execute cfg sv focusMode t s).2.drawn = s.drawn := by
  rcases status_cases focusMode t with hskips | hmarked | hadmitted
  · obtain ⟨reason, hgate⟩ := gate_of_skips hskips
    rw [execute, hgate]
    rfl
  · rw [execute, gate_of_marked hmarked]
    rfl
  · rcases (fixturesOf sv t).fault_or_ready s.world with ⟨cause, hfault⟩ | hready
    · rw [execute_of_admitted hadmitted, Provision.run_of_fault hfault]
      rfl
    · exact absurd ⟨hadmitted, hready⟩ h

/-! ### Moves -/

/-- Some entries have been put into the variables, and some sets of generated values have been
used. -/
structure Moves (entries : List (String × String)) (sets : Nat) (s u : ExecutorState σ) : Prop where
  captured : u.captured = s.captured.update entries
  drawn : u.drawn = s.drawn + sets

variable (t) in
/-- Two states are left in the same way, and only names that the test captures are touched. -/
def InStep (s u s' u' : ExecutorState σ) : Prop :=
  ∃ entries sets, (∀ e ∈ entries, e.1 ∈ t.capture.keys) ∧ Moves entries sets s u ∧
  Moves entries sets s' u'

/-- What the templates read stays the same after the same move. -/
theorem Reads.move {entries : List (String × String)} {sets : Nat} {u u' : ExecutorState σ}
    (h : Reads t s s') (hu : Moves entries sets s u) (hu' : Moves entries sets s' u') :
    Reads t u u' := by
  intro r hr
  obtain ⟨hcaptured, hdrawn⟩ := h r hr
  constructor
  · rw [hu.captured, hu'.captured]
    exact Dict.get?_update_congr hcaptured
  · intro hbuiltIn
    rw [hu.drawn, hu'.drawn, hdrawn hbuiltIn]

/-- One move after the other is a move. -/
theorem InStep.trans {u v u' v' : ExecutorState σ} (h : InStep t s u s' u')
    (h' : InStep t u v u' v') :
    InStep t s v s' v' := by
  obtain ⟨entries, sets, hwithin, hu, hu'⟩ := h
  obtain ⟨more, moreSets, hmore, hv, hv'⟩ := h'
  refine ⟨entries ++ more, sets + moreSets, ?_, ⟨?_, ?_⟩, ⟨?_, ?_⟩⟩
  · intro e he
    rcases List.mem_append.mp he with he | he
    · exact hwithin e he
    · exact hmore e he
  · rw [hv.captured, hu.captured, Dict.update_append]
  · rw [hv.drawn, hu.drawn, Nat.add_assoc]
  · rw [hv'.captured, hu'.captured, Dict.update_append]
  · rw [hv'.drawn, hu'.drawn, Nat.add_assoc]

/-- What the execution of a test puts into the variables when its templates are filled in in a given
way. -/
theorem captured_in_step (hsv : sv.Forgetful) (hres : resolved cfg t s = resolved cfg t s') :
    ∃ entries, (∀ e ∈ entries, e.1 ∈ t.capture.keys) ∧
      (execute cfg sv focusMode t s).2.captured = s.captured.update entries ∧
      (execute cfg sv focusMode t s').2.captured = s'.captured.update entries := by
  by_cases hchecked : ∃ request response found, Checked cfg sv focusMode t s request response found
  · obtain ⟨request, response, found, hchecked⟩ := hchecked
    have hchecked' := hchecked.congr hsv hres
    rw [captured_of_checked hchecked, captured_of_checked hchecked', ← reported_congr hsv hres]
    by_cases hclean : found.flatten ++ reported cfg sv t s request response = []
    · rw [if_pos hclean, if_pos hclean, capturedFrom_eq, capturedFrom_eq]
      exact ⟨_, fun e => key_of_mem_capturedIn, rfl, rfl⟩
    · rw [if_neg hclean, if_neg hclean]
      exact ⟨[], fun e he => absurd he List.not_mem_nil, rfl, rfl⟩
  · have hnone : ∀ request response found, ¬ Checked cfg sv focusMode t s request response found :=
      fun request response found h => hchecked ⟨request, response, found, h⟩
    have hnone' : ∀ request response found,
      ¬ Checked cfg sv focusMode t s' request response found :=
      fun request response found h => hnone _ _ _ (h.congr hsv hres.symm)
    rw [captured_of_unchecked hnone, captured_of_unchecked hnone']
    exact ⟨[], fun e he => absurd he List.not_mem_nil, rfl, rfl⟩

/-- One execution: a test whose templates read the same ends in the same way, and it changes the
executor in the same way. -/
theorem execute_in_step (cfg : Settings) (focusMode : Bool) (hsv : sv.Forgetful)
    (h : Reads t s s') :
    (execute cfg sv focusMode t s).1 = (execute cfg sv focusMode t s').1 ∧
    InStep t s (execute cfg sv focusMode t s).2 s' (execute cfg sv focusMode t s').2 := by
  have hres : resolved cfg t s = resolved cfg t s' := h.resolved
  refine ⟨execute_fst_congr hsv hres, ?_⟩
  obtain ⟨entries, hwithin, hcaptured, hcaptured'⟩ := captured_in_step hsv hres
  by_cases hsupplied : Supplied sv focusMode t s
  · exact ⟨entries, 1, hwithin, ⟨hcaptured, drawn_of_supplied hsupplied⟩,
      ⟨hcaptured', drawn_of_supplied (hsupplied.congr hsv)⟩⟩
  · have hunsupplied : ¬ Supplied sv focusMode t s' := fun h => hsupplied (h.congr hsv)
    exact ⟨entries, 0, hwithin, ⟨hcaptured, drawn_of_unsupplied hsupplied⟩,
      ⟨hcaptured', drawn_of_unsupplied hunsupplied⟩⟩

end Executor

/-! ## Handling a test -/

namespace Runner

open Executor (Reads Moves InStep)

variable (cfg : Settings) {sv : Services σ} {β ω : Type} {bridge : Bridge β} (focusMode : Bool)

/-- One dialogue, however often it executes the test.  Induction on the dialogue; the templates may
read what the test has captured itself, but they read the same in both states. -/
theorem run_in_step (hsv : sv.Forgetful) {t : TestCase} (h : Handling β) :
    ∀ (last : Option Execution) {s s' : ExecutorState σ}, Reads t s s' →
      (h.run (Executor.execute cfg sv focusMode t) last s).last =
        (h.run (Executor.execute cfg sv focusMode t) last s').last ∧
      InStep t s (h.run (Executor.execute cfg sv focusMode t) last s).executor
        s' (h.run (Executor.execute cfg sv focusMode t) last s').executor := by
  induction h with
  | done result state =>
    intro last s s' _
    exact ⟨rfl, [], 0, fun e he => absurd he List.not_mem_nil, ⟨rfl, rfl⟩, ⟨rfl, rfl⟩⟩
  | execute next ih =>
    intro last s s' hreads
    obtain ⟨hsame, hstep⟩ := Executor.execute_in_step cfg focusMode hsv hreads
    obtain ⟨entries, sets, -, hu, hu'⟩ := id hstep
    obtain ⟨hlast, hrest⟩ := ih (Executor.execute cfg sv focusMode t s).1
      (some (Executor.execute cfg sv focusMode t s).1) (hreads.move hu hu')
    have hrun' : (Handling.execute next).run (Executor.execute cfg sv focusMode t) last s' =
        (next (Executor.execute cfg sv focusMode t s).1).run (Executor.execute cfg sv focusMode t)
          (some (Executor.execute cfg sv focusMode t s).1)
            (Executor.execute cfg sv focusMode t s').2 := by
      rw [hsame]
      rfl
    rw [hrun']
    exact ⟨hlast, hstep.trans hrest⟩

/-- A steady bridge handles a test whose templates read the same in the same way, whatever its own
state. -/
theorem handle_in_step (hsv : sv.Forgetful) (hsteady : bridge.Steady) {t : TestCase}
    {s s' : ExecutorState σ} (h : Reads t s s') (b b' : β) :
    (handle cfg sv bridge focusMode t b s).last = (handle cfg sv bridge focusMode t b' s').last ∧
    InStep t s (handle cfg sv bridge focusMode t b s).executor
      s' (handle cfg sv bridge focusMode t b' s').executor := by
  obtain ⟨hlast, hexecutor⟩ := handle_of_steady cfg sv hsteady t b b' s'
  rw [hlast, hexecutor]
  exact run_in_step cfg focusMode hsv (bridge t b) none h

/-! ## Two runs -/

/-- Two executors have the same variables and have used as many sets of generated values. -/
structure Level (s s' : ExecutorState σ) : Prop where
  captured : s.captured = s'.captured
  drawn : s.drawn = s'.drawn

/-- From executors that are level the templates of every test read the same. -/
theorem Level.reads {s s' : ExecutorState σ} (h : Level s s') (t : TestCase) : Reads t s s' :=
  fun _ _ => ⟨congrArg (Dict.get? · _) h.captured, fun _ => h.drawn⟩

/-- From two executors that are level, some tests give the same reports, except for the clock, and
the executors are level again.  Induction on the tests. -/
theorem reports_of_level (hsv : sv.Forgetful) (hsteady : bridge.Steady) (timing timing' : Timing) :
    ∀ (tests : List TestCase) (i : Nat) (b b' : β) {s s' : ExecutorState σ}, Level s s' →
      Level (executorAfter cfg sv bridge focusMode tests b s)
        (executorAfter cfg sv bridge focusMode tests b' s') ∧
      (reports cfg sv bridge focusMode timing i tests b s).map TestReport.timeless =
        (reports cfg sv bridge focusMode timing' i tests b' s').map TestReport.timeless := by
  intro tests
  induction tests with
  | nil => exact fun _ _ _ _ _ h => ⟨h, rfl⟩
  | cons t rest ih =>
    intro i b b' s s' h
    obtain ⟨hlast, entries, sets, -, hu, hu'⟩ :=
      handle_in_step cfg focusMode hsv hsteady (h.reads t) b b'
    have hlevel : Level (handle cfg sv bridge focusMode t b s).executor
        (handle cfg sv bridge focusMode t b' s').executor :=
      ⟨by rw [hu.captured, hu'.captured, h.captured], by rw [hu.drawn, hu'.drawn, h.drawn]⟩
    obtain ⟨hafter, hreports⟩ := ih (i + 1) (handle cfg sv bridge focusMode t b s).bridge
      (handle cfg sv bridge focusMode t b' s').bridge hlevel
    refine ⟨hafter, ?_⟩
    rw [reports, reports, List.map_cons, List.map_cons, hreports, hlast]
    rfl

end Runner

/-- Neither of two tests refers to a variable that the other one captures, or to a built-in
variable, and no name is captured by both. -/
structure TestCase.Independent (a b : TestCase) : Prop where
  left : ∀ r ∈ a.references, r.name ∉ b.capture.keys ∧ BuiltIn.ofName? r.name = none
  right : ∀ r ∈ b.references, r.name ∉ a.capture.keys ∧ BuiltIn.ofName? r.name = none
  captures : ∀ name ∈ a.capture.keys, name ∉ b.capture.keys

/-- A list with the entry at a place and the one behind it exchanged. -/
def swapAt {α : Type} : Nat → List α → List α
  | 0, x :: y :: rest => y :: x :: rest
  | n + 1, x :: rest => x :: swapAt n rest
  | _, l => l

/-- Whether some entry passes a test does not depend on the order. -/
theorem any_swapAt {α : Type} (p : α → Bool) :
    ∀ (n : Nat) (l : List α), (swapAt n l).any p = l.any p
  | 0, [] => rfl
  | 0, [_] => rfl
  | 0, x :: y :: rest => by
    rw [swapAt, List.any_cons, List.any_cons, List.any_cons, List.any_cons, Bool.or_left_comm]
  | _ + 1, [] => rfl
  | n + 1, x :: rest => by
    rw [swapAt, List.any_cons, List.any_cons, any_swapAt p n rest]

namespace Runner

open Executor (Reads Moves InStep)

variable (cfg : Settings) {sv : Services σ} {β ω : Type} {bridge : Bridge β} (focusMode : Bool)

/-- A test reads the same after another one that captures nothing it refers to. -/
theorem reads_of_moves {t u : TestCase} {s s' : ExecutorState σ} {entries : List (String × String)}
    {sets : Nat}
    (href : ∀ r ∈ t.references, r.name ∉ u.capture.keys ∧ BuiltIn.ofName? r.name = none)
    (hwithin : ∀ e ∈ entries, e.1 ∈ u.capture.keys) (hmoves : Moves entries sets s s') :
    Reads t s s' := by
  intro r hr
  obtain ⟨hname, hbuiltIn⟩ := href r hr
  constructor
  · have hother : ∀ e ∈ entries, e.1 ≠ r.name := by
      intro e he heq
      rw [← heq] at hname
      exact hname (hwithin e he)
    rw [hmoves.captured, Dict.get?_update_of_not_mem hother]
  · intro h
    rw [hbuiltIn] at h
    cases h

/-- Two independent tests one after the other, in both orders: each of them is reported as in the
other order, and the executors are level in the end. -/
theorem handle_swap (hsv : sv.Forgetful) (hsteady : bridge.Steady) {x y : TestCase}
    (h : x.Independent y) (b : β) (s : ExecutorState σ) :
    let first := handle cfg sv bridge focusMode x b s
    let second := handle cfg sv bridge focusMode y first.bridge first.executor
    let first' := handle cfg sv bridge focusMode y b s
    let second' := handle cfg sv bridge focusMode x first'.bridge first'.executor
    first.last = second'.last ∧ second.last = first'.last ∧
      Level second.executor second'.executor := by
  intro first second first' second'
  have hsame : ∀ t, Reads t s s := fun t => Level.reads ⟨rfl, rfl⟩ t
  -- What each of them does to the state before both leaves the other one's templates alone.
  obtain ⟨-, _, _, hwithinx, hmovesx, -⟩ :=
    handle_in_step cfg focusMode hsv hsteady (hsame x) b b
  obtain ⟨-, _, _, hwithiny, hmovesy, -⟩ :=
    handle_in_step cfg focusMode hsv hsteady (hsame y) b b
  have hreadsx : Reads x s first'.executor := reads_of_moves h.left hwithiny hmovesy
  have hready : Reads y s first.executor := reads_of_moves h.right hwithinx hmovesx
  obtain ⟨hlastx, entriesx, setsx, hinx, hx, hx'⟩ :=
    handle_in_step cfg focusMode hsv hsteady hreadsx b first'.bridge
  obtain ⟨hlasty, entriesy, setsy, hiny, hy', hy⟩ :=
    handle_in_step cfg focusMode hsv hsteady hready b first.bridge
  refine ⟨hlastx, hlasty.symm, ?_, ?_⟩
  · have hcomm : (s.captured.update entriesx).update entriesy =
        (s.captured.update entriesy).update entriesx :=
      Dict.update_comm (fun e he f hf heq => h.captures e.1 (hinx e he) (heq ▸ hiny f hf)) _
    calc second.executor.captured = first.executor.captured.update entriesy := hy.captured
      _ = (s.captured.update entriesx).update entriesy := by rw [hx.captured]
      _ = (s.captured.update entriesy).update entriesx := hcomm
      _ = first'.executor.captured.update entriesx := by rw [hy'.captured]
      _ = second'.executor.captured := hx'.captured.symm
  · have hfirst : first.executor.drawn = s.drawn + setsx := hx.drawn
    have hfirst' : first'.executor.drawn = s.drawn + setsy := hy'.drawn
    have hsecond : second.executor.drawn = first.executor.drawn + setsy := hy.drawn
    have hsecond' : second'.executor.drawn = first'.executor.drawn + setsx := hx'.drawn
    omega

/-- Exchanging two neighbours that are independent exchanges their reports and leaves the executors
level.  Induction on the place of the first one: up to there the two runs do the same. -/
theorem reports_swapAt (hsv : sv.Forgetful) (hsteady : bridge.Steady) (timing timing' : Timing)
    {x y : TestCase} (h : x.Independent y) : ∀ (n i : Nat) (tests : List TestCase) (b : β)
    (s : ExecutorState σ), tests[n]? = some x → tests[n + 1]? = some y →
      Level (executorAfter cfg sv bridge focusMode (swapAt n tests) b s)
        (executorAfter cfg sv bridge focusMode tests b s) ∧
      (reports cfg sv bridge focusMode timing' i (swapAt n tests) b s).map TestReport.timeless =
        swapAt n ((reports cfg sv bridge focusMode timing i tests b s).map
          TestReport.timeless) := by
  intro n
  induction n with
  | zero =>
    intro i tests b s hx hy
    match tests with
    | [] => cases hx
    | [_] => cases hy
    | x' :: y' :: rest =>
      cases hx
      cases hy
      let first := handle cfg sv bridge focusMode x b s
      let second := handle cfg sv bridge focusMode y first.bridge first.executor
      let first' := handle cfg sv bridge focusMode y b s
      let second' := handle cfg sv bridge focusMode x first'.bridge first'.executor
      obtain ⟨hlastx, hlasty, hlevel⟩ : first.last = second'.last ∧ second.last = first'.last ∧
          Level second.executor second'.executor := handle_swap cfg focusMode hsv hsteady h b s
      obtain ⟨hafter, hreports⟩ :=
        reports_of_level cfg focusMode hsv hsteady timing timing' rest (i + 2)
        second.bridge second'.bridge hlevel
      have hx : (reportOf x second'.last (timing'.test (i + 1))).timeless =
          (reportOf x first.last (timing.test i)).timeless := by
        rw [hlastx]
        rfl
      have hy : (reportOf y first'.last (timing'.test i)).timeless =
          (reportOf y second.last (timing.test (i + 1))).timeless := by
        rw [hlasty]
        rfl
      refine ⟨⟨hafter.captured.symm, hafter.drawn.symm⟩, ?_⟩
      show (reportOf y first'.last (timing'.test i)).timeless ::
          (reportOf x second'.last (timing'.test (i + 1))).timeless ::
          (reports cfg sv bridge focusMode timing' (i + 2) rest second'.bridge second'.executor).map
            TestReport.timeless =
        (reportOf y second.last (timing.test (i + 1))).timeless ::
          (reportOf x first.last (timing.test i)).timeless ::
          (reports cfg sv bridge focusMode timing (i + 2) rest second.bridge second.executor).map
            TestReport.timeless
      rw [hx, hy, hreports]
  | succ n ih =>
    intro i tests b s hx hy
    match tests with
    | [] => cases hx
    | t :: rest =>
      obtain ⟨hafter, hreports⟩ := ih (i + 1) rest (handle cfg sv bridge focusMode t b s).bridge
        (handle cfg sv bridge focusMode t b s).executor hx hy
      refine ⟨hafter, ?_⟩
      rw [swapAt, reports, reports, List.map_cons, List.map_cons, swapAt, hreports]
      rfl

/-- Independent tests commute.  Consider collaborators that answer each call without looking at what
came before, a bridge that does the same, and a list of tests with two neighbours that refer to no
built-in variable, capture no name in common and do not refer to what the other one captures.  If
these neighbours are exchanged, then each sink receives the same reports, with those of the
neighbours exchanged, except for the clock: the outcome, the request and the response of every test
are what they were.  The variables that are captured in the end are the same, and as many sets of
generated values have been used. -/
theorem independent_tests_commute (hsv : sv.Forgetful) (hsteady : bridge.Steady)
    (timing timing' : Timing) (tests : List TestCase) (n : Nat) {x y : TestCase}
    (hx : tests[n]? = some x) (hy : tests[n + 1]? = some y) (hindependent : x.Independent y)
    (executor : ExecutorState σ) (host : β) (sinks : List (Sink ω)) (world : ω) :
    let given := run cfg sv bridge timing (.ok tests) executor host (.ofSinks sinks world)
    let swapped :=
      run cfg sv bridge timing' (.ok (swapAt n tests)) executor host (.ofSinks sinks world)
    swapped.executor.captured = given.executor.captured ∧
    swapped.executor.drawn = given.executor.drawn ∧
    ∀ k < sinks.length,
      (Outputs.heard k given.outputs.calls).map TestReport.name = tests.map TestCase.name ∧
      (Outputs.heard k swapped.outputs.calls).map TestReport.timeless =
        swapAt n ((Outputs.heard k given.outputs.calls).map TestReport.timeless) := by
  have hfocus : (swapAt n tests).any TestCase.isFocused = tests.any TestCase.isFocused :=
    any_swapAt TestCase.isFocused n tests
  obtain ⟨hlevel, hreports⟩ :=
    reports_swapAt cfg (tests.any TestCase.isFocused) hsv hsteady timing timing'
    hindependent n 0 tests host executor hx hy
  intro given swapped
  have hswapped : swapped.executor =
      executorAfter cfg sv bridge (tests.any TestCase.isFocused) (swapAt n tests) host
        executor := by
    rw [← hfocus]
    exact run_executor cfg sv bridge timing' (swapAt n tests) executor host (.ofSinks sinks world)
  have hgiven : given.executor =
      executorAfter cfg sv bridge (tests.any TestCase.isFocused) tests host executor :=
    run_executor cfg sv bridge timing tests executor host (.ofSinks sinks world)
  refine ⟨?_, ?_, fun k hk => ⟨?_, ?_⟩⟩
  · rw [hswapped, hgiven]
    exact hlevel.captured
  · rw [hswapped, hgiven]
    exact hlevel.drawn
  · have hheard : Outputs.heard k given.outputs.calls = _ :=
      heard_run cfg sv hk timing tests executor host world
    rw [hheard]
    exact (reports_spec cfg sv bridge _ timing tests 0 host executor).1
  · have hheard : Outputs.heard k given.outputs.calls = _ :=
      heard_run cfg sv hk timing tests executor host world
    have hheard' : Outputs.heard k swapped.outputs.calls = _ :=
      heard_run cfg sv hk timing' (swapAt n tests) executor host world
    rw [hheard, hheard', hfocus]
    exact hreports

/-- Collaborators that keep the mocks of the last test that has any: their server complains if there
are none, and every request gets the same user. -/
def rememberingServices : Services (Dict Json) where
  fixtures := none
  mocks := some ⟨fun defs _ => (.ok (), defs), fun w =>
    (if w.isEmpty then [.plain "mocks" "nothing is mocked"] else [], w)⟩
  send := fun _ w => (.ok Executor.userResponse, w)
  checkers := []

/-- What is mocked for one test is not seen by the next one. -/
theorem rememberingServices_forgetful : rememberingServices.Forgetful where
  fixtures := nofun
  prepare := by
    intro server hserver defs w w'
    cases hserver
    rfl
  send := fun _ _ _ => rfl
  check := nofun
  verify := by
    intro server hserver t request response w w'
    cases hserver
    rfl

/-- Two tests that capture variables, the first of them with a mock, and a third one that uses
both. -/
def capturingTests : List TestCase := [
  { TestCase.ofRequest default "first" (.get "/first") with
    mocks := Dict.empty.insert "users" (.string "\x7b\x7bhost\x7d\x7d")
    capture := Dict.empty.insert "a" "$.id" },
  { TestCase.ofRequest default "second" (.get "/second") with
    capture := Dict.empty.insert "b" "$.id" },
  .ofRequest default "third" (.get "/\x7b\x7ba\x7d\x7d/\x7b\x7bb\x7d\x7d")]

/-- The run of some tests with these collaborators and the built-in host. -/
def rememberingRun (tests : List TestCase) : Finished (Dict Json) Ledger Unit :=
  run Executor.bareSettings rememberingServices Ledger.bridge stillClock (.ok tests)
    (.initial .empty) .empty
    (.ofSinks [quietSink] ())

/-- Both variables are captured in either order. -/
theorem captured_in_either_order :
    (rememberingRun (swapAt 0 capturingTests)).executor.captured =
      (rememberingRun capturingTests).executor.captured ∧
    (rememberingRun capturingTests).executor.captured.entries = [("a", "7"), ("b", "7")] ∧
    (Outputs.heard 0 (rememberingRun (swapAt 0 capturingTests)).outputs.calls).map
      TestReport.timeless =
      swapAt 0 ((Outputs.heard 0 (rememberingRun capturingTests).outputs.calls).map
        TestReport.timeless) := by
  have hindependent : capturingTests[0].Independent capturingTests[1] :=
    ⟨by decide +kernel, by decide +kernel, by decide +kernel⟩
  obtain ⟨hcaptured, -, hreports⟩ := independent_tests_commute Executor.bareSettings
    rememberingServices_forgetful Ledger.steady_bridge stillClock stillClock capturingTests
      0 rfl rfl
    hindependent (.initial .empty) .empty [quietSink] ()
  exact ⟨hcaptured, by decide +kernel, (hreports 0 Nat.one_pos).2⟩

end Runner

end Assay
