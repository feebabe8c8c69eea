import Assay.Proofs.Asking

/-
  The stages of a test.

  A stage is reached if all stages before it have succeeded: a test is admitted by its declared
  status (`Admitted`), then supplied with fixtures (`Supplied`), then prepared with mocks
  (`Prepared`); then its request is built (`Built`), answered (`Answered`), and the response is
  checked (`Checked`, or `Erred` if a checker errs).  Each of these is a proposition that contains
  the one before it, about the shared state that the stages before have left.

  A test takes one of several courses, one for each way in which a stage can fail and one for a test
  that is checked to the end.  `Course` relates an outcome to the calls that were made on the way,
  so a course says both how the execution ends and what has been done by then.  The strategy is to
  show once that a course that is open to a test is the one that it takes (`execute_of_course`) and
  that every test has one (`exists_course`), and to read everything else off the courses, without
  looking at the code again.

  1. The gate.  A test is skipped, marked as broken, or admitted (`status_cases`).

  2. Following the code.  For each stage there is one equation that says how the code goes on once
     the stage is reached: `execute_of_admitted`, `execute_of_supplied`, `perform_eq`,
     `execute_of_prepared`, `execute_of_built`, `assess_of_checked`, `assess_of_erred`,
     `execute_of_checked`.  Fixtures and mocks are two cases of one lemma about providers
     (`Provision.run_spec`).

  3. Endings.  `ends_iff` turns a property of outcomes into one of courses, and for each kind of
     outcome this gives the condition under which a test ends with it (`skipped_iff`, `broken_iff`,
     `fatal_iff`, `passed_iff`, `failed_iff`).

  4. Calls.  Those of a course are the calls of the setup, the request, the checkers and the mocks,
     in this order, each part possibly missing at the end (`InStages`, `inStages_of_course`).  From
     this comes where a call in the log can be from (`InStages.origin`), that a request is sent only
     by a test that has been set up (`InStages.sent`), and that mocks are verified only if no
     checker has erred (`InStages.verified`).

  Collaborators are arbitrary functions of a state that they share; nothing is assumed about them.
-/

namespace Assay.Executor

variable {σ : Type} (cfg : Settings) (sv : Services σ) (focusMode : Bool) (t : TestCase)
  (s : ExecutorState σ)

/-! ## Reaching a stage -/

/-- The declared status of the test, or the focus of other tests, skips it. -/
def Skips : Prop := t.status = .skipped ∨ (t.status = .none ∧ focusMode = true)

/-- The test is to be executed. -/
def Admitted : Prop := t.status = .focus ∨ (t.status = .none ∧ focusMode = false)

/-- The fixtures of a test. -/
def fixturesOf : Provision σ FixtureError where
  needed := !t.fixtures.isEmpty
  provider := sv.fixtures.map fun load => load t.fixtures
  call := .fixtures t.fixtures
  missing := .noFixtureLoader t.fixtures
  refused := .fixtures

/-- The mocks of a test. -/
def mocksOf : Provision σ MockError where
  needed := !t.mocks.isEmpty
  provider := sv.mocks.map fun server => server.prepare t.mocks
  call := .prepare t.mocks
  missing := .noMockServer
  refused := .mocks

/-- The test with its templates filled in. -/
def resolved : TestCase := (resolve cfg t s).1

/-- The state in which mocks are prepared. -/
def atMocks : σ := (fixturesOf sv t).left s.world

/-- The state in which the request is sent. -/
def atSend : σ := (mocksOf sv (resolved cfg t s)).left (atMocks sv t s)

/-- The test is admitted and has its fixtures. -/
def Supplied : Prop := Admitted focusMode t ∧ (fixturesOf sv t).Ready s.world

/-- Furthermore it has its mocks. -/
def Prepared : Prop :=
  Supplied sv focusMode t s ∧ (mocksOf sv (resolved cfg t s)).Ready (atMocks sv t s)

/-- The address of its request, as it is written. -/
def urlOf : String := urlText cfg.host (resolved cfg t s).request.path

/-- Furthermore this is its request. -/
def Built (request : PreparedRequest) : Prop :=
  Prepared cfg sv focusMode t s ∧ prepareRequest cfg (resolved cfg t s) = .ok request

/-- The answer to a request. -/
def reply (request : PreparedRequest) : Except SendError Response :=
  (sv.send request (atSend cfg sv t s)).1

/-- Furthermore this is the response to its request. -/
def Answered (request : PreparedRequest) (response : Response) : Prop :=
  Built cfg sv focusMode t s request ∧ reply cfg sv t s request = .ok response

/-- What the checkers answer, and the state that they leave. -/
def asked (request : PreparedRequest) (response : Response) :
    List (Except CheckError (List Diagnostic)) × σ :=
  Checker.ask (resolved cfg t s) response sv.checkers (sv.send request (atSend cfg sv t s)).2

/-- Furthermore this is what each of the checkers has found; none has erred. -/
def Checked (request : PreparedRequest) (response : Response)
    (found : List (List Diagnostic)) : Prop :=
  Answered cfg sv focusMode t s request response ∧
  (asked cfg sv t s request response).1 = found.map .ok

/-- Furthermore this is the error of a checker; those that were asked before have not erred. -/
def Erred (request : PreparedRequest) (response : Response) (e : CheckError) : Prop :=
  Answered cfg sv focusMode t s request response ∧
  ∃ found : List (List Diagnostic), (asked cfg sv t s request response).1 =
    found.map .ok ++ [.error e]

/-- What the mocks report, if there are any. -/
def reported (request : PreparedRequest) (response : Response) : List Diagnostic :=
  match sv.mocks with
  | some server =>
    if t.mocks.isEmpty then [] else (server.verify (asked cfg sv t s request response).2).1
  | none => []

/-- What cannot be captured from a response. -/
def uncaptured (t : TestCase) (r : Response) : List Diagnostic :=
  match r.json? with
  | some document => t.capture.entries.filterMap fun e =>
    match captureOne document e.1 e.2 with
    | .ok _ => none
    | .error d => some d
  | none => t.capture.keys.map fun var =>
    .plain captureName s!"cannot capture `{var}`: response body is not JSON"

/-- All that is wrong with a response: what the checkers have found and what the mocks report, or
else what cannot be captured. -/
def diagnosticsOf (request : PreparedRequest) (response : Response)
    (found : List (List Diagnostic)) :
    List Diagnostic :=
  if found.flatten ++ reported cfg sv t s request response = [] then
    uncaptured (resolved cfg t s) response
  else found.flatten ++ reported cfg sv t s request response

/-- What is known of a test that was checked. -/
def exchangeOf (request : PreparedRequest) (response : Response) (found : List (List Diagnostic)) :
    Exchange :=
  ⟨request.summary, response, diagnosticsOf cfg sv t s request response found⟩

/-- The calls of the checkers that are asked. -/
def checkCalls (request : PreparedRequest) (response : Response) : List Call :=
  Checker.callsOf (resolved cfg t s) response sv.checkers
    (asked cfg sv t s request response).1.length

/-- The calls before the request. -/
def setupCalls : List Call := (fixturesOf sv t).calls ++ (mocksOf sv (resolved cfg t s)).calls

/-- The call that verifies the mocks of a test. -/
def verifyCalls : List Call := if t.mocks.isEmpty then [] else [.verify]

/-! ## Courses -/

/-- The courses of a test: how its execution ends, and the calls that are made. -/
inductive Course : Execution → List Call → Prop where
  | skipped {reason : String} (status : Skips focusMode t)
    (ended : gate focusMode t = some (.skipped reason)) : Course (.skipped reason) []
  | marked (status : t.status = .broken) : Course (.broken .markedBroken) []
  | unsupplied {cause : RunFault} (admitted : Admitted focusMode t)
    (fault : (fixturesOf sv t).Fault s.world cause) : Course (.broken cause) (fixturesOf sv t).calls
  | unprepared {cause : RunFault} (supplied : Supplied sv focusMode t s)
    (fault : (mocksOf sv (resolved cfg t s)).Fault (atMocks sv t s) cause) :
    Course (.broken cause) (setupCalls cfg sv t s)
  | unbuilt {e : UrlError} (prepared : Prepared cfg sv focusMode t s)
    (fault : Url.parse (urlOf cfg t s) = .error e) :
    Course (.fatal (.request (.url (urlOf cfg t s) e))) (setupCalls cfg sv t s)
  | unanswered {request : PreparedRequest} {e : SendError}
      (built : Built cfg sv focusMode t s request)
    (fault : reply cfg sv t s request = .error e) (transport : e.isTransport = true) :
    Course (.broken (.send e)) (setupCalls cfg sv t s ++ [.send request])
  | refused {request : PreparedRequest} {e : SendError} (built : Built cfg sv focusMode t s request)
    (fault : reply cfg sv t s request = .error e) (transport : e.isTransport = false) :
    Course (.fatal (.send e)) (setupCalls cfg sv t s ++ [.send request])
  | erred {request : PreparedRequest} {response : Response} {e : CheckError}
    (erred : Erred cfg sv focusMode t s request response e) :
    Course (.fatal (.check e))
      (setupCalls cfg sv t s ++ [.send request] ++ checkCalls cfg sv t s request response)
  | passed {request : PreparedRequest} {response : Response} {found : List (List Diagnostic)}
    (checked : Checked cfg sv focusMode t s request response found)
    (clean : diagnosticsOf cfg sv t s request response found = []) :
    Course (.passed (exchangeOf cfg sv t s request response found))
      (setupCalls cfg sv t s ++ [.send request] ++ checkCalls cfg sv t s request response ++
        verifyCalls t)
  | failed {request : PreparedRequest} {response : Response} {found : List (List Diagnostic)}
    (checked : Checked cfg sv focusMode t s request response found)
    (faulty : diagnosticsOf cfg sv t s request response found ≠ []) :
    Course (.failed (exchangeOf cfg sv t s request response found))
      (setupCalls cfg sv t s ++ [.send request] ++ checkCalls cfg sv t s request response ++
        verifyCalls t)

/-! ## The gate -/

/-- The gate lets an admitted test through. -/
theorem gate_of_admitted {focusMode : Bool} {t : TestCase} (h : Admitted focusMode t) :
    gate focusMode t = none := by
  rcases h with h | ⟨h, hfocus⟩
  · rw [gate, h]
  · rw [gate, h, hfocus]
    rfl

/-- A test that is marked as broken ends at the gate as broken. -/
theorem gate_of_marked {focusMode : Bool} {t : TestCase} (h : t.status = .broken) :
    gate focusMode t = some (.broken .markedBroken) := by
  rw [gate, h]

/-- A test that is to be skipped ends at the gate. -/
theorem gate_of_skips {focusMode : Bool} {t : TestCase} (h : Skips focusMode t) :
    ∃ reason, gate focusMode t = some (.skipped reason) := by
  rcases h with h | ⟨h, hfocus⟩
  · exact ⟨_, by rw [gate, h]⟩
  · exact ⟨_, by rw [gate, h, hfocus]; rfl⟩

/-- A test is skipped, or marked as broken, or admitted. -/
theorem status_cases : Skips focusMode t ∨ t.status = .broken ∨ Admitted focusMode t := by
  cases hstatus : t.status with
  | skipped => exact .inl (.inl hstatus)
  | broken => exact .inr (.inl rfl)
  | focus => exact .inr (.inr (.inl hstatus))
  | none =>
    cases focusMode with
    | true => exact .inl (.inr ⟨hstatus, rfl⟩)
    | false => exact .inr (.inr (.inr ⟨hstatus, rfl⟩))

/-! ## Following the code -/

/-- Loading fixtures is asking their provider. -/
theorem loadFixtures_eq : loadFixtures sv t = (fixturesOf sv t).run := by
  rw [loadFixtures, Provision.run, fixturesOf]
  cases t.fixtures.isEmpty with
  | true => rfl
  | false => cases sv.fixtures <;> rfl

/-- Preparing mocks is asking their provider. -/
theorem prepareMocks_eq : prepareMocks sv t = (mocksOf sv t).run := by
  rw [prepareMocks, Provision.run, mocksOf]
  cases t.mocks.isEmpty with
  | true => rfl
  | false => cases sv.mocks <;> rfl

/-- Filling in templates does not take all mocks away. -/
theorem isEmpty_mocks_resolved : (resolved cfg t s).mocks.isEmpty = t.mocks.isEmpty := by
  show (t.mocks.mapValues _).isEmpty = _
  rw [Dict.isEmpty, Dict.isEmpty, Dict.mapValues, List.isEmpty_map]

variable {cfg sv focusMode t s}

/-- A test that is admitted asks for its fixtures. -/
theorem execute_of_admitted (h : Admitted focusMode t) :
    execute cfg sv focusMode t s = match (fixturesOf sv t).run s with
      | (.error cause, s) => (.broken cause, s)
      | (.ok (), s) => perform cfg sv t s := by
  rw [execute, gate_of_admitted h]
  dsimp only
  rw [bind_apply, loadFixtures_eq]
  cases (fixturesOf sv t).run s with
  | mk answer s' => cases answer <;> rfl

/-- A test that has its fixtures is performed. -/
theorem execute_of_supplied (h : Supplied sv focusMode t s) :
    execute cfg sv focusMode t s =
      perform cfg sv t (s.after (fixturesOf sv t).calls (atMocks sv t s)) := by
  rw [execute_of_admitted h.1, Provision.run_of_ready h.2]
  rfl

/-- The executor when mocks are prepared: the templates have been filled in, and fixtures are
loaded. -/
def beforeMocks (sv : Services σ) (t : TestCase) (s : ExecutorState σ) : ExecutorState σ :=
  ({ s with drawn := s.drawn + 1 }).after (fixturesOf sv t).calls (atMocks sv t s)

/-- The executor when the request is sent. -/
def beforeSend (cfg : Settings) (sv : Services σ) (t : TestCase) (s : ExecutorState σ) :
    ExecutorState σ :=
  ({ s with drawn := s.drawn + 1 }).after (setupCalls cfg sv t s) (atSend cfg sv t s)

/-- A test that is performed asks for its mocks, with its templates filled in. -/
theorem perform_eq (cfg : Settings) (sv : Services σ) (t : TestCase) (s : ExecutorState σ) :
    perform cfg sv t (s.after (fixturesOf sv t).calls (atMocks sv t s)) =
      match (mocksOf sv (resolved cfg t s)).run (beforeMocks sv t s) with
      | (.error cause, s') => (.broken cause, s')
      | (.ok (), s') => match prepareRequest cfg (resolved cfg t s) with
        | .error e => (.fatal e, s')
        | .ok request => exchange sv (resolved cfg t s) request s' := by
  have hresolve : resolve cfg t (s.after (fixturesOf sv t).calls (atMocks sv t s)) =
      (resolved cfg t s, beforeMocks sv t s) := rfl
  rw [perform, bind_apply, hresolve]
  dsimp only
  rw [bind_apply, prepareMocks_eq]
  cases (mocksOf sv (resolved cfg t s)).run (beforeMocks sv t s) with
  | mk answer s' =>
    cases answer with
    | error cause => rfl
    | ok u =>
      dsimp only
      cases prepareRequest cfg (resolved cfg t s) <;> rfl

/-- A test that has its mocks builds its request. -/
theorem execute_of_prepared (h : Prepared cfg sv focusMode t s) :
    execute cfg sv focusMode t s = match prepareRequest cfg (resolved cfg t s) with
      | .error e => (.fatal e, beforeSend cfg sv t s)
      | .ok request => exchange sv (resolved cfg t s) request (beforeSend cfg sv t s) := by
  have hrun : (mocksOf sv (resolved cfg t s)).run (beforeMocks sv t s) =
      (.ok (), beforeSend cfg sv t s) := by
    rw [beforeMocks, Provision.run_of_ready h.2, ExecutorState.after_after]
    rfl
  rw [execute_of_supplied h.1, perform_eq, hrun]

/-- The executor when the response is checked. -/
def afterSend (cfg : Settings) (sv : Services σ) (t : TestCase) (s : ExecutorState σ)
    (request : PreparedRequest) : ExecutorState σ :=
  (beforeSend cfg sv t s).after [.send request] (sv.send request (atSend cfg sv t s)).2

/-- A test that has a request sends it. -/
theorem execute_of_built {request : PreparedRequest} (h : Built cfg sv focusMode t s request) :
    execute cfg sv focusMode t s = match reply cfg sv t s request with
      | .error e => (sendFailure e, afterSend cfg sv t s request)
      | .ok response =>
        match assess sv (resolved cfg t s) response (afterSend cfg sv t s request) with
        | (.error e, s') => (.fatal (.check e), s')
        | (.ok ds, s') => (.ofExchange ⟨request.summary, response, ds⟩, s') := by
  have hsend : call (.send request) (sv.send request) (beforeSend cfg sv t s) =
      (reply cfg sv t s request, afterSend cfg sv t s request) := rfl
  rw [execute_of_prepared h.1, h.2]
  dsimp only
  rw [exchange, bind_apply, hsend]
  cases reply cfg sv t s request with
  | error e => rfl
  | ok response =>
    dsimp only
    rw [bind_apply]
    cases assess sv (resolved cfg t s) response (afterSend cfg sv t s request) with
    | mk answer s' => cases answer <;> rfl

/-! ## Checking a response -/

/-- The executor when all checkers have been asked. -/
def afterChecks (cfg : Settings) (sv : Services σ) (t : TestCase) (s : ExecutorState σ)
    (request : PreparedRequest) (response : Response) : ExecutorState σ :=
  (afterSend cfg sv t s request).after (checkCalls cfg sv t s request response)
    (asked cfg sv t s request response).2

/-- When all checkers have been asked, the setup, the request and the checks have been noted. -/
theorem calls_afterChecks (request : PreparedRequest) (response : Response) :
    (afterChecks cfg sv t s request response).calls = s.calls ++
      (setupCalls cfg sv t s ++ [.send request] ++ checkCalls cfg sv t s request response) := by
  show s.calls ++ setupCalls cfg sv t s ++ [.send request] ++
    checkCalls cfg sv t s request response = _
  rw [List.append_assoc, List.append_assoc, List.append_assoc]

/-- Asking the checkers about the response. -/
theorem checkAll_eq (request : PreparedRequest) (response : Response) :
    Checker.checkAll (resolved cfg t s) response (sv.checkers.map logged)
      (afterSend cfg sv t s request) =
      (Checker.merge (asked cfg sv t s request response).1,
        afterChecks cfg sv t s request response) :=
  Checker.checkAll_logged _ _ _ _

/-- What cannot be captured, one variable after the other.  Induction on the variables. -/
theorem captureAll_fst (document : Json) :
    ∀ (entries : List (String × String)) (captured : Dict String),
    (captureAll document entries captured).1 = entries.filterMap fun e =>
      match captureOne document e.1 e.2 with
      | .ok _ => none
      | .error d => some d := by
  intro entries
  induction entries with
  | nil =>
    intro captured
    rfl
  | cons e rest ih =>
    intro captured
    obtain ⟨var, path⟩ := e
    rw [captureAll, List.filterMap_cons]
    cases captureOne document var path with
    | ok value => exact ih _
    | error d => exact congrArg (d :: ·) (ih captured)

/-- Capturing gives what cannot be captured, and calls nobody. -/
theorem capture_spec (t : TestCase) (r : Response) (s : ExecutorState σ) :
    (capture t r s).1 = uncaptured t r ∧ (capture t r s).2.calls = s.calls := by
  rw [capture, uncaptured]
  by_cases hempty : t.capture.isEmpty = true
  · have hentries : t.capture.entries = [] := List.isEmpty_iff.mp hempty
    have hkeys : t.capture.keys = [] := by rw [Dict.keys, hentries]; rfl
    rw [if_pos hempty, hentries, hkeys]
    cases r.json? <;> exact ⟨rfl, rfl⟩
  · rw [if_neg hempty]
    cases r.json? with
    | none => exact ⟨rfl, rfl⟩
    | some document => exact ⟨captureAll_fst document _ _, rfl⟩

/-- Mocks that were prepared are verified once; a test without mocks verifies nothing. -/
theorem verifyMocks_spec (h : Prepared cfg sv focusMode t s) (request : PreparedRequest)
    (response : Response) :
    (verifyMocks sv (resolved cfg t s) (afterChecks cfg sv t s request response)).1 =
      reported cfg sv t s request response ∧
    (verifyMocks sv (resolved cfg t s) (afterChecks cfg sv t s request response)).2.calls =
      (afterChecks cfg sv t s request response).calls ++ verifyCalls t := by
  rw [verifyMocks, isEmpty_mocks_resolved, reported, verifyCalls]
  cases hempty : t.mocks.isEmpty with
  | true => cases sv.mocks <;> exact ⟨rfl, (List.append_nil _).symm⟩
  | false =>
    cases hserver : sv.mocks with
    | some server => exact ⟨rfl, rfl⟩
    | none =>
      -- Without a server the mocks could not have been prepared.
      have hneeded : (mocksOf sv (resolved cfg t s)).needed = true := by
        show (!(resolved cfg t s).mocks.isEmpty) = true
        rw [isEmpty_mocks_resolved, hempty]
        rfl
      have hprovider : (mocksOf sv (resolved cfg t s)).provider = none :=
        congrArg (Option.map _) hserver
      exact absurd (.missing hneeded hprovider) (h.2 _)

/-- If a checker errs, this ends the check. -/
theorem assess_of_erred {request : PreparedRequest} {response : Response} {e : CheckError}
    (h : Erred cfg sv focusMode t s request response e) :
    assess sv (resolved cfg t s) response (afterSend cfg sv t s request) =
      (.error e, afterChecks cfg sv t s request response) := by
  obtain ⟨-, found, hfound⟩ := h
  rw [assess, bind_apply, checkAll_eq, hfound, Checker.merge_erred]
  rfl

/-- If no checker errs, the mocks are verified, and if nothing is wrong then the variables are
captured. -/
theorem assess_of_checked {request : PreparedRequest} {response : Response}
    {found : List (List Diagnostic)} (h : Checked cfg sv focusMode t s request response found) :
    (assess sv (resolved cfg t s) response (afterSend cfg sv t s request)).1 =
      .ok (diagnosticsOf cfg sv t s request response found) ∧
    (assess sv (resolved cfg t s) response (afterSend cfg sv t s request)).2.calls =
      (afterChecks cfg sv t s request response).calls ++ verifyCalls t := by
  obtain ⟨⟨⟨hprepared, -⟩, -⟩, hfound⟩ := h
  obtain ⟨hreported, hcalls⟩ := verifyMocks_spec hprepared request response
  rw [assess, bind_apply, checkAll_eq, hfound, Checker.merge_found]
  dsimp only
  rw [bind_apply, hreported, diagnosticsOf]
  by_cases hnone : found.flatten ++ reported cfg sv t s request response = []
  · obtain ⟨hmissing, hsame⟩ := capture_spec (resolved cfg t s) response
      (verifyMocks sv (resolved cfg t s) (afterChecks cfg sv t s request response)).2
    rw [if_pos hnone, if_pos (List.isEmpty_iff.mpr hnone), bind_apply]
    exact ⟨congrArg Except.ok hmissing, hsame.trans hcalls⟩
  · rw [if_neg hnone, if_neg fun h => hnone (List.isEmpty_iff.mp h)]
    exact ⟨rfl, hcalls⟩

/-- A test that no checker errs on ends with what is wrong with its response. -/
theorem execute_of_checked {request : PreparedRequest} {response : Response}
    {found : List (List Diagnostic)} (h : Checked cfg sv focusMode t s request response found) :
    (execute cfg sv focusMode t s).1 = .ofExchange (exchangeOf cfg sv t s request response found) ∧
    (execute cfg sv focusMode t s).2.calls = s.calls ++ (setupCalls cfg sv t s ++ [.send request] ++
      checkCalls cfg sv t s request response ++ verifyCalls t) := by
  obtain ⟨hanswer, hcalls⟩ := assess_of_checked h
  rw [calls_afterChecks, List.append_assoc] at hcalls
  rw [execute_of_built h.1.1, h.1.2]
  dsimp only
  generalize assess sv _ _ _ = assessed at hanswer hcalls
  obtain ⟨answer, s'⟩ := assessed
  cases hanswer
  exact ⟨rfl, hcalls⟩

/-! ## The course of a test -/

/-- The address is all that can be wrong with a request. -/
theorem prepareRequest_of_parse_error {e : UrlError} (h : Url.parse (urlOf cfg t s) = .error e) :
    prepareRequest cfg (resolved cfg t s) = .error (.request (.url (urlOf cfg t s) e)) := by
  rw [urlOf] at h ⊢
  rw [prepareRequest, buildUrl, h]
  rfl

/-- If there is no request, then its address could not be read. -/
theorem parse_error_of_prepareRequest {fault : RunFault}
    (h : prepareRequest cfg (resolved cfg t s) = .error fault) :
    ∃ e, Url.parse (urlOf cfg t s) = .error e := by
  rw [prepareRequest, buildUrl] at h
  rw [urlOf]
  cases hurl : Url.parse (urlText cfg.host (resolved cfg t s).request.path) with
  | error e => exact ⟨e, rfl⟩
  | ok url =>
    rw [hurl] at h
    cases h

/-- A course that is open to a test is the one that it takes. -/
theorem execute_of_course {e : Execution} {calls : List Call}
    (h : Course cfg sv focusMode t s e calls) :
    (execute cfg sv focusMode t s).1 = e ∧
    (execute cfg sv focusMode t s).2.calls = s.calls ++ calls := by
  cases h with
  | skipped status ended =>
    rw [execute, ended]
    exact ⟨rfl, (List.append_nil _).symm⟩
  | marked status =>
    rw [execute, gate_of_marked status]
    exact ⟨rfl, (List.append_nil _).symm⟩
  | unsupplied admitted fault =>
    rw [execute_of_admitted admitted, Provision.run_of_fault fault]
    exact ⟨rfl, rfl⟩
  | unprepared supplied fault =>
    rw [execute_of_supplied supplied, perform_eq, beforeMocks, Provision.run_of_fault fault]
    exact ⟨rfl, List.append_assoc _ _ _⟩
  | unbuilt prepared fault =>
    rw [execute_of_prepared prepared, prepareRequest_of_parse_error fault]
    exact ⟨rfl, rfl⟩
  | unanswered built fault transport =>
    rw [execute_of_built built, fault]
    dsimp only
    rw [sendFailure, if_pos transport]
    exact ⟨rfl, List.append_assoc _ _ _⟩
  | refused built fault transport =>
    rw [execute_of_built built, fault]
    dsimp only
    rw [sendFailure, transport]
    exact ⟨rfl, List.append_assoc _ _ _⟩
  | erred erred =>
    rw [execute_of_built erred.1.1, erred.1.2]
    dsimp only
    rw [assess_of_erred erred]
    exact ⟨rfl, calls_afterChecks _ _⟩
  | passed checked clean =>
    obtain ⟨hend, hcalls⟩ := execute_of_checked checked
    refine ⟨hend.trans ?_, hcalls⟩
    rw [Execution.ofExchange, exchangeOf, clean]
    rfl
  | failed checked faulty =>
    obtain ⟨hend, hcalls⟩ := execute_of_checked checked
    refine ⟨hend.trans ?_, hcalls⟩
    exact if_neg fun h => faulty (List.isEmpty_iff.mp h)

/-- Every test has a course. -/
theorem exists_course (cfg : Settings) (sv : Services σ) (focusMode : Bool) (t : TestCase)
    (s : ExecutorState σ) : ∃ e calls, Course cfg sv focusMode t s e calls := by
  rcases status_cases focusMode t with hskips | hmarked | hadmitted
  · obtain ⟨reason, hended⟩ := gate_of_skips hskips
    exact ⟨_, _, .skipped hskips hended⟩
  · exact ⟨_, _, .marked hmarked⟩
  rcases (fixturesOf sv t).fault_or_ready s.world with ⟨cause, hfault⟩ | hfixtures
  · exact ⟨_, _, .unsupplied hadmitted hfault⟩
  have hsupplied : Supplied sv focusMode t s := ⟨hadmitted, hfixtures⟩
  rcases (mocksOf sv (resolved cfg t s)).fault_or_ready (atMocks sv t s)
    with ⟨cause, hfault⟩ | hmocks
  · exact ⟨_, _, .unprepared hsupplied hfault⟩
  have hprepared : Prepared cfg sv focusMode t s := ⟨hsupplied, hmocks⟩
  cases hrequest : prepareRequest cfg (resolved cfg t s) with
  | error fault =>
    obtain ⟨e, hurl⟩ := parse_error_of_prepareRequest hrequest
    exact ⟨_, _, .unbuilt hprepared hurl⟩
  | ok request =>
    have hbuilt : Built cfg sv focusMode t s request := ⟨hprepared, hrequest⟩
    cases hreply : reply cfg sv t s request with
    | error e =>
      cases htransport : e.isTransport with
      | true => exact ⟨_, _, .unanswered hbuilt hreply htransport⟩
      | false => exact ⟨_, _, .refused hbuilt hreply htransport⟩
    | ok response =>
      have hanswered : Answered cfg sv focusMode t s request response := ⟨hbuilt, hreply⟩
      rcases Checker.ask_cases (resolved cfg t s) response sv.checkers
        (sv.send request (atSend cfg sv t s)).2 with ⟨found, hfound, -⟩ | ⟨found, e, hfound, -⟩
      · have hchecked : Checked cfg sv focusMode t s request response found := ⟨hanswered, hfound⟩
        by_cases hclean : diagnosticsOf cfg sv t s request response found = []
        · exact ⟨_, _, .passed hchecked hclean⟩
        · exact ⟨_, _, .failed hchecked hclean⟩
      · exact ⟨_, _, .erred ⟨hanswered, found, hfound⟩⟩

/-! ## How a test ends -/

/-- A test ends as its course says. -/
theorem ends_iff (e : Execution) :
    (execute cfg sv focusMode t s).1 = e ↔ ∃ calls, Course cfg sv focusMode t s e calls := by
  constructor
  · rintro rfl
    obtain ⟨e, calls, hcourse⟩ := exists_course cfg sv focusMode t s
    rw [(execute_of_course hcourse).1]
    exact ⟨calls, hcourse⟩
  · rintro ⟨calls, hcourse⟩
    exact (execute_of_course hcourse).1

/-- A test is skipped exactly if its status or the focus of others says so. -/
theorem skipped_iff :
    (∃ reason, (execute cfg sv focusMode t s).1 = .skipped reason) ↔ Skips focusMode t := by
  constructor
  · rintro ⟨reason, h⟩
    obtain ⟨calls, hcourse⟩ := (ends_iff _).mp h
    cases hcourse with
    | skipped status => exact status
  · intro h
    obtain ⟨reason, hended⟩ := gate_of_skips h
    exact ⟨reason, (ends_iff _).mpr ⟨_, .skipped h hended⟩⟩

/-- A test is broken exactly if it is marked so, if its fixtures or mocks cannot be provided, or if
its request is lost on the way. -/
theorem broken_iff (cause : RunFault) : (execute cfg sv focusMode t s).1 = .broken cause ↔
    (t.status = .broken ∧ cause = .markedBroken) ∨
    (Admitted focusMode t ∧ (fixturesOf sv t).Fault s.world cause) ∨
    (Supplied sv focusMode t s ∧ (mocksOf sv (resolved cfg t s)).Fault (atMocks sv t s) cause) ∨
    ∃ request e, Built cfg sv focusMode t s request ∧ reply cfg sv t s request = .error e ∧
      e.isTransport = true ∧ cause = .send e := by
  rw [ends_iff]
  constructor
  · rintro ⟨calls, hcourse⟩
    cases hcourse with
    | marked status => exact .inl ⟨status, rfl⟩
    | unsupplied admitted fault => exact .inr (.inl ⟨admitted, fault⟩)
    | unprepared supplied fault => exact .inr (.inr (.inl ⟨supplied, fault⟩))
    | unanswered built fault transport =>
      exact .inr (.inr (.inr ⟨_, _, built, fault, transport, rfl⟩))
  · rintro (⟨status, rfl⟩ | ⟨admitted, fault⟩ | ⟨supplied, fault⟩ |
      ⟨request, e, built, fault, transport, rfl⟩)
    · exact ⟨_, .marked status⟩
    · exact ⟨_, .unsupplied admitted fault⟩
    · exact ⟨_, .unprepared supplied fault⟩
    · exact ⟨_, .unanswered built fault transport⟩

/-- A test ends with a fatal error exactly if its address cannot be read, its request is refused, or
a checker errs. -/
theorem fatal_iff (error : RunFault) : (execute cfg sv focusMode t s).1 = .fatal error ↔
    (∃ e, Prepared cfg sv focusMode t s ∧ Url.parse (urlOf cfg t s) = .error e ∧
      error = .request (.url (urlOf cfg t s) e)) ∨
    (∃ request e, Built cfg sv focusMode t s request ∧ reply cfg sv t s request = .error e ∧
      e.isTransport = false ∧ error = .send e) ∨
    ∃ request response e, Erred cfg sv focusMode t s request response e ∧ error = .check e := by
  rw [ends_iff]
  constructor
  · rintro ⟨calls, hcourse⟩
    cases hcourse with
    | unbuilt prepared fault => exact .inl ⟨_, prepared, fault, rfl⟩
    | refused built fault transport => exact .inr (.inl ⟨_, _, built, fault, transport, rfl⟩)
    | erred erred => exact .inr (.inr ⟨_, _, _, erred, rfl⟩)
  · rintro (⟨e, prepared, fault, rfl⟩ | ⟨request, e, built, fault, transport, rfl⟩ |
      ⟨request, response, e, erred, rfl⟩)
    · exact ⟨_, .unbuilt prepared fault⟩
    · exact ⟨_, .refused built fault transport⟩
    · exact ⟨_, .erred erred⟩

/-- A test passes exactly if it is checked and there is nothing to report. -/
theorem passed_iff (x : Exchange) : (execute cfg sv focusMode t s).1 = .passed x ↔
    x.diagnostics = [] ∧ ∃ request response found,
      Checked cfg sv focusMode t s request response found ∧
      x = exchangeOf cfg sv t s request response found := by
  rw [ends_iff]
  constructor
  · rintro ⟨calls, hcourse⟩
    cases hcourse with
    | passed checked clean => exact ⟨clean, _, _, _, checked, rfl⟩
  · rintro ⟨clean, request, response, found, checked, rfl⟩
    exact ⟨_, .passed checked clean⟩

/-- A test fails exactly if it is checked and there is something to report. -/
theorem failed_iff (x : Exchange) : (execute cfg sv focusMode t s).1 = .failed x ↔
    x.diagnostics ≠ [] ∧ ∃ request response found,
      Checked cfg sv focusMode t s request response found ∧
      x = exchangeOf cfg sv t s request response found := by
  rw [ends_iff]
  constructor
  · rintro ⟨calls, hcourse⟩
    cases hcourse with
    | failed checked faulty => exact ⟨faulty, _, _, _, checked, rfl⟩
  · rintro ⟨faulty, request, response, found, checked, rfl⟩
    exact ⟨_, .failed checked faulty⟩

/-! ## Which calls a test makes -/

/-- The part of a log that belongs to a stage: its calls if the stage is reached, with what it
needs, and nothing otherwise. -/
structure Segment {α : Type} (reached : α → Prop) (calls : α → List Call) (log : List Call) :
    Prop where
  made {a : α} : reached a → log = calls a
  silent : (∀ a, ¬ reached a) → log = []

namespace Segment

variable {α : Type} {reached : α → Prop} {calls : α → List Call}

theorem of_unreached (h : ∀ a, ¬ reached a) : Segment reached calls [] :=
  ⟨fun {a} ha => absurd ha (h a), fun _ => rfl⟩

/-- A call that is noted is one of a stage that is reached. -/
theorem exists_reached {log : List Call} (h : Segment reached calls log) {c : Call} (hc : c ∈ log) :
    ∃ a, reached a ∧ c ∈ calls a := by
  by_cases hreached : ∃ a, reached a
  · obtain ⟨a, ha⟩ := hreached
    rw [h.made ha] at hc
    exact ⟨a, ha, hc⟩
  · rw [h.silent fun a ha => hreached ⟨a, ha⟩] at hc
    cases hc

end Segment

/-- A test has one request at most. -/
theorem Built.unique {request request' : PreparedRequest} (h : Built cfg sv focusMode t s request)
    (h' : Built cfg sv focusMode t s request') : request = request' :=
  Except.ok.inj (h.2.symm.trans h'.2)

/-- A test has one response at most. -/
theorem Answered.unique {request request' : PreparedRequest} {response response' : Response}
    (h : Answered cfg sv focusMode t s request response)
    (h' : Answered cfg sv focusMode t s request' response') :
    request = request' ∧ response = response' := by
  obtain rfl := h.1.unique h'.1
  exact ⟨rfl, Except.ok.inj (h.2.symm.trans h'.2)⟩

/-- A test that a checker errs on is not checked. -/
theorem Erred.not_checked {request request' : PreparedRequest} {response response' : Response}
    {e : CheckError} {found : List (List Diagnostic)}
    (h : Erred cfg sv focusMode t s request response e) :
    ¬ Checked cfg sv focusMode t s request' response' found := by
  rintro ⟨hanswered, hfound⟩
  obtain ⟨hanswered', found', hfound'⟩ := h
  obtain ⟨rfl, rfl⟩ := hanswered.unique hanswered'
  exact Checker.found_ne_erred _ _ _ (hfound.symm.trans hfound')

variable (cfg sv focusMode t s) in
/-- A log goes through the stages in order: each stage that is reached has made its calls, and no
other. -/
def InStages (log : List Call) : Prop :=
  ∃ fixtures mocks send check verify : List Call,
    log = fixtures ++ mocks ++ send ++ check ++ verify ∧
    Segment (fun _ : Unit => Admitted focusMode t) (fun _ => (fixturesOf sv t).calls) fixtures ∧
    Segment (fun _ : Unit => Supplied sv focusMode t s)
      (fun _ => (mocksOf sv (resolved cfg t s)).calls) mocks ∧
    Segment (fun request => Built cfg sv focusMode t s request) (fun request => [.send request])
      send ∧
    Segment (fun x : PreparedRequest × Response => Answered cfg sv focusMode t s x.1 x.2)
      (fun x => checkCalls cfg sv t s x.1 x.2) check ∧
    Segment (fun x : PreparedRequest × Response × List (List Diagnostic) =>
      Checked cfg sv focusMode t s x.1 x.2.1 x.2.2) (fun _ => verifyCalls t) verify

/-- The calls of a stage that can be reached in one way only. -/
theorem segment_unit {p : Prop} (calls : List Call) (h : p) :
    Segment (fun _ : Unit => p) (fun _ => calls) calls :=
  ⟨fun _ => rfl, fun hnone => absurd h (hnone ())⟩

theorem segment_send {request : PreparedRequest} (h : Built cfg sv focusMode t s request) :
    Segment (fun request => Built cfg sv focusMode t s request) (fun request => [.send request])
      [.send request] :=
  ⟨fun h' => by rw [h.unique h'], fun hnone => absurd h (hnone request)⟩

/-- A test that is not admitted calls nobody. -/
theorem inStages_of_gated (hno : ¬ Admitted focusMode t) : InStages cfg sv focusMode t s [] :=
  ⟨[], [], [], [], [], rfl, .of_unreached fun _ h => hno h, .of_unreached fun _ h => hno h.1,
    .of_unreached fun _ h => hno h.1.1.1, .of_unreached fun _ h => hno h.1.1.1.1,
    .of_unreached fun _ h => hno h.1.1.1.1.1⟩

theorem inStages_of_unsupplied (h : Admitted focusMode t) (hno : ¬ Supplied sv focusMode t s) :
    InStages cfg sv focusMode t s (fixturesOf sv t).calls := by
  refine ⟨_, [], [], [], [], ?_, segment_unit _ h, .of_unreached fun _ h => hno h,
    .of_unreached fun _ h => hno h.1.1, .of_unreached fun _ h => hno h.1.1.1,
    .of_unreached fun _ h => hno h.1.1.1.1⟩
  rw [List.append_nil, List.append_nil, List.append_nil, List.append_nil]

/-- A test without a request calls its providers only. -/
theorem inStages_of_unbuilt (h : Supplied sv focusMode t s)
    (hno : ∀ request, ¬ Built cfg sv focusMode t s request) :
    InStages cfg sv focusMode t s (setupCalls cfg sv t s) := by
  refine ⟨_, _, [], [], [], ?_, segment_unit _ h.1, segment_unit _ h, .of_unreached hno,
    .of_unreached fun x h => hno x.1 h.1, .of_unreached fun x h => hno x.1 h.1.1⟩
  rw [List.append_nil, List.append_nil, List.append_nil, setupCalls]

theorem inStages_of_unanswered {request : PreparedRequest} {e : SendError}
    (h : Built cfg sv focusMode t s request) (hreply : reply cfg sv t s request = .error e) :
    InStages cfg sv focusMode t s (setupCalls cfg sv t s ++ [.send request]) := by
  have hno : ∀ request' response, ¬ Answered cfg sv focusMode t s request' response := by
    intro request' response h'
    obtain rfl := h.unique h'.1
    cases hreply.symm.trans h'.2
  refine ⟨_, _, _, [], [], ?_, segment_unit _ h.1.1.1, segment_unit _ h.1.1, segment_send h,
    .of_unreached fun x h => hno x.1 x.2 h, .of_unreached fun x h => hno x.1 x.2.1 h.1⟩
  rw [List.append_nil, List.append_nil, setupCalls]

/-- A test that gets a response goes on to its checks. -/
theorem inStages_of_answered {request : PreparedRequest} {response : Response} {verify : List Call}
    (h : Answered cfg sv focusMode t s request response)
    (hverify : Segment (fun x : PreparedRequest × Response × List (List Diagnostic) =>
      Checked cfg sv focusMode t s x.1 x.2.1 x.2.2) (fun _ => verifyCalls t) verify) :
    InStages cfg sv focusMode t s
      (setupCalls cfg sv t s ++ [.send request] ++ checkCalls cfg sv t s request response ++
        verify) := by
  have hcheck :
    Segment (fun x : PreparedRequest × Response => Answered cfg sv focusMode t s x.1 x.2)
      (fun x => checkCalls cfg sv t s x.1 x.2) (checkCalls cfg sv t s request response) := by
    refine ⟨fun {x} h' => ?_, fun hnone => absurd h (hnone (request, response))⟩
    obtain ⟨rfl, rfl⟩ := h.unique h'
    rfl
  exact ⟨_, _, _, _, _, rfl, segment_unit _ h.1.1.1.1, segment_unit _ h.1.1.1, segment_send h.1,
    hcheck, hverify⟩

/-- Whatever course a test takes, its calls go through the stages. -/
theorem inStages_of_course {e : Execution} {calls : List Call}
    (h : Course cfg sv focusMode t s e calls) : InStages cfg sv focusMode t s calls := by
  cases h with
  | skipped status ended =>
    refine inStages_of_gated fun h => ?_
    rw [gate_of_admitted h] at ended
    cases ended
  | marked status =>
    refine inStages_of_gated fun h => ?_
    have hended := (gate_of_admitted h).symm.trans (gate_of_marked status)
    cases hended
  | unsupplied admitted fault => exact inStages_of_unsupplied admitted fun h => h.2 _ fault
  | unprepared supplied fault => exact inStages_of_unbuilt supplied fun _ h => h.1.2 _ fault
  | unbuilt prepared fault =>
    refine inStages_of_unbuilt prepared.1 fun request h => ?_
    have hrequest := h.2
    rw [prepareRequest_of_parse_error fault] at hrequest
    cases hrequest
  | unanswered built fault => exact inStages_of_unanswered built fault
  | refused built fault => exact inStages_of_unanswered built fault
  | erred erred =>
    have hstages := inStages_of_answered erred.1 (.of_unreached fun _ h => erred.not_checked h)
    rw [List.append_nil] at hstages
    exact hstages
  | passed checked =>
    exact inStages_of_answered checked.1
      ⟨fun _ => rfl, fun hnone => absurd checked (hnone (_, _, _))⟩
  | failed checked =>
    exact inStages_of_answered checked.1
      ⟨fun _ => rfl, fun hnone => absurd checked (hnone (_, _, _))⟩

/-- The calls of a provision are those of its provider. -/
theorem eq_of_mem_calls {ε : Type} {p : Provision σ ε} {c : Call} (h : c ∈ p.calls) :
    c = p.call := by
  rw [Provision.calls] at h
  split at h
  · exact List.mem_singleton.mp h
  · cases h

/-- Where a call in a log comes from. -/
theorem InStages.origin {log : List Call} (h : InStages cfg sv focusMode t s log) {c : Call}
    (hc : c ∈ log) : c = .fixtures t.fixtures ∨ c = .prepare (resolved cfg t s).mocks ∨
      (∃ request, Built cfg sv focusMode t s request ∧ c = .send request) ∨
      (∃ name response, c = .check name (resolved cfg t s) response) ∨
      (c = .verify ∧ t.mocks.isEmpty = false ∧
        ∃ request response found, Checked cfg sv focusMode t s request response found) := by
  obtain ⟨fixtures, mocks, send, check, verify, rfl, hfixtures, hmocks, hsend, hcheck, hverify⟩ := h
  simp only [List.mem_append] at hc
  rcases hc with (((hc | hc) | hc) | hc) | hc
  · obtain ⟨_, -, hcall⟩ := hfixtures.exists_reached hc
    exact .inl (eq_of_mem_calls hcall)
  · obtain ⟨_, -, hcall⟩ := hmocks.exists_reached hc
    exact .inr (.inl (eq_of_mem_calls hcall))
  · obtain ⟨request, hbuilt, hcall⟩ := hsend.exists_reached hc
    exact .inr (.inr (.inl ⟨request, hbuilt, List.mem_singleton.mp hcall⟩))
  · obtain ⟨x, -, hcall⟩ := hcheck.exists_reached hc
    obtain ⟨checker, -, rfl⟩ := List.mem_map.mp hcall
    exact .inr (.inr (.inr (.inl ⟨checker.name, x.2, rfl⟩)))
  · obtain ⟨⟨request, response, found⟩, hchecked, hcall⟩ := hverify.exists_reached hc
    cases hempty : t.mocks.isEmpty with
    | true =>
      rw [verifyCalls, if_pos hempty] at hcall
      cases hcall
    | false =>
      rw [verifyCalls, hempty] at hcall
      exact .inr (.inr (.inr (.inr
        ⟨List.mem_singleton.mp hcall, rfl, request, response, found, hchecked⟩)))

/-- A request that is sent is that of a test that has been set up. -/
theorem InStages.sent {log : List Call} (h : InStages cfg sv focusMode t s log)
    {request : PreparedRequest} (hmem : .send request ∈ log) :
    Built cfg sv focusMode t s request := by
  rcases h.origin hmem with hc | hc | ⟨request', hbuilt, hc⟩ | ⟨_, _, hc⟩ | ⟨hc, -⟩
  · cases hc
  · cases hc
  · cases hc
    exact hbuilt
  · cases hc
  · cases hc

/-- Mocks are verified only if the test declares some and no checker has erred. -/
theorem InStages.verified {log : List Call} (h : InStages cfg sv focusMode t s log)
    (hmem : .verify ∈ log) : t.mocks.isEmpty = false ∧
      ∃ request response found, Checked cfg sv focusMode t s request response found := by
  rcases h.origin hmem with hc | hc | ⟨_, _, hc⟩ | ⟨_, _, hc⟩ | ⟨-, hverified⟩
  · cases hc
  · cases hc
  · cases hc
  · cases hc
  · exact hverified

/-! ## The whole execution -/

/-- How a test is executed, whatever the collaborators answer.  The calls go through the stages in
order; the request of a test is sent only if the test has been set up, and its mocks are verified
only if it declares some and no checker has erred.  The test is skipped by its declared status or by
the focus of others; it is broken if it is marked so, if fixtures or mocks are not provided, or if
the way to the server fails; it errs if its address cannot be read, if the client refuses the
request, or if a checker errs.  Otherwise all checkers have been asked, and it passes if nothing is
wrong and fails if something is. -/
theorem stages_of_execution (cfg : Settings) (sv : Services σ) (focusMode : Bool) (t : TestCase)
    (s : ExecutorState σ) :
    (∃ log, (execute cfg sv focusMode t s).2.calls = s.calls ++ log ∧
      InStages cfg sv focusMode t s log ∧
      (∀ request, .send request ∈ log → Prepared cfg sv focusMode t s) ∧
      (.verify ∈ log → t.mocks.isEmpty = false ∧
        ∃ request response found, Checked cfg sv focusMode t s request response found)) ∧
    ((∃ reason, (execute cfg sv focusMode t s).1 = .skipped reason) ↔ Skips focusMode t) ∧
    (∀ cause, (execute cfg sv focusMode t s).1 = .broken cause ↔
      (t.status = .broken ∧ cause = .markedBroken) ∨
      (Admitted focusMode t ∧ (fixturesOf sv t).Fault s.world cause) ∨
      (Supplied sv focusMode t s ∧ (mocksOf sv (resolved cfg t s)).Fault (atMocks sv t s) cause) ∨
      ∃ request e, Built cfg sv focusMode t s request ∧ reply cfg sv t s request = .error e ∧
        e.isTransport = true ∧ cause = .send e) ∧
    (∀ error, (execute cfg sv focusMode t s).1 = .fatal error ↔
      (∃ e, Prepared cfg sv focusMode t s ∧ Url.parse (urlOf cfg t s) = .error e ∧
        error = .request (.url (urlOf cfg t s) e)) ∨
      (∃ request e, Built cfg sv focusMode t s request ∧ reply cfg sv t s request = .error e ∧
        e.isTransport = false ∧ error = .send e) ∨
      ∃ request response e, Erred cfg sv focusMode t s request response e ∧ error = .check e) ∧
    (∀ x, (execute cfg sv focusMode t s).1 = .passed x ↔ x.diagnostics = [] ∧
      ∃ request response found, Checked cfg sv focusMode t s request response found ∧
        x = exchangeOf cfg sv t s request response found) ∧
    (∀ x, (execute cfg sv focusMode t s).1 = .failed x ↔ x.diagnostics ≠ [] ∧
      ∃ request response found, Checked cfg sv focusMode t s request response found ∧
        x = exchangeOf cfg sv t s request response found) ∧
    ∀ request response found, Checked cfg sv focusMode t s request response found →
      found.length = sv.checkers.length := by
  refine ⟨?_, skipped_iff, broken_iff, fatal_iff, passed_iff, failed_iff, ?_⟩
  · obtain ⟨e, log, hcourse⟩ := exists_course cfg sv focusMode t s
    have hstages := inStages_of_course hcourse
    exact ⟨log, (execute_of_course hcourse).2, hstages, fun _ hsend => (hstages.sent hsend).1,
      fun hverify => hstages.verified hverify⟩
  · intro request response found hchecked
    exact Checker.length_of_found _ _ hchecked.2

/-! ## A plain setting -/

/-- The address of a server, and no variables. -/
def bareSettings : Settings where
  host := ⟨"http".toList, some ⟨[], .domain "api".toList, none⟩, .segments [[]], none, none⟩
  bindings := .empty
  debug := false
  generated := fun _ _ => ""

/-- A client that counts the requests and gives the same response to all of them. -/
def answering (response : Response) : Services Nat :=
  ⟨none, none, fun _ n => (.ok response, n + 1), []⟩

end Assay.Executor
