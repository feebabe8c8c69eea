import Assay.Proofs.Executor
import Mathlib

/-
  What a test captures.

  The captured variables are the only state that later tests read, and a test writes to them in one
  place: at its very end, when all checkers have been asked, nothing is wrong so far and the body is
  a document (`Capturing`).  Then every variable whose path leads to a value gets this value,
  whether or not other paths do; each of the others gives a diagnostic (`lack`).  On every other
  course the variables stay as they are.

  So the effect of an execution on the variables has a closed form, `capturedFrom` on a course that
  comes to capturing and no change on any other one, and the outcome follows: the test passes
  exactly if nothing is lacking.

  1. Single paths.  A path leads to a value, or there is a diagnostic that says why not
     (`finds_or_lack`).  These two are what the code for one variable returns
     (`captureOne_of_finds`, `captureOne_of_lack`).

  2. Several variables (`captureAll_spec`), by induction on the entries.  Their names differ, so
     what has been set is not set again, and the order of the entries shows in the order of the
     diagnostics only (`uncaptured_eq`).

  3. The course of a test.  Everything before the end leaves the variables alone, stage by stage.
     When all checkers have been asked, the test captures if nothing is wrong so far
     (`captured_of_checked`); if it does not get there, there is nothing to show
     (`captured_of_unchecked`).  `captured_of_capturing` and `captured_of_not_capturing` are the two
     halves for the whole execution.

  The theorem at the end is about any settings and collaborators.  The example behind it has one
  variable that is found beside one that is not: the first is set and the second keeps its old
  value, although the test fails.
-/

namespace Assay.Executor

/-! ## Paths that lead to a value -/

/-- The value of a variable is found under its path. -/
def Finds (document : Json) (capture : String × String) (v : Json) : Prop :=
  document.query capture.2 = .ok (some v)

/-- Why a variable is not captured: its path leads nowhere, or it is no path. -/
def lack (document : Json) (capture : String × String) : Option Diagnostic :=
  match document.query capture.2 with
  | .ok (some _) => none
  | .ok none =>
    some (.anchored captureName capture.2 s!"path not found, cannot capture `{capture.1}`")
  | .error e => some (.anchored captureName capture.2 e.message)

/-- A variable is captured exactly if nothing is lacking. -/
theorem lack_eq_none_iff {document : Json} {capture : String × String} :
    lack document capture = none ↔ ∃ v, Finds document capture v := by
  unfold lack Finds
  cases document.query capture.2 with
  | error e => simp
  | ok value => cases value <;> simp

/-- A value that is found is captured as its plain text. -/
theorem captureOne_of_finds {document : Json} {capture : String × String} {v : Json}
    (h : Finds document capture v) : captureOne document capture.1 capture.2 = .ok v.plainText := by
  rw [Finds] at h
  rw [captureOne, h]

/-- What is lacking is reported. -/
theorem captureOne_of_lack {document : Json} {capture : String × String} {d : Diagnostic}
    (h : lack document capture = some d) : captureOne document capture.1 capture.2 = .error d := by
  rw [lack] at h
  rw [captureOne]
  generalize document.query capture.2 = answer at h ⊢
  cases answer with
  | error e => exact congrArg Except.error (Option.some.inj h)
  | ok value =>
    cases value with
    | some v => cases h
    | none => exact congrArg Except.error (Option.some.inj h)

/-- Either a variable has a value, or there is a diagnostic for it. -/
theorem finds_or_lack (document : Json) (capture : String × String) :
    (∃ v, Finds document capture v) ∨ ∃ d, lack document capture = some d := by
  cases h : lack document capture with
  | none => exact .inl (lack_eq_none_iff.mp h)
  | some d => exact .inr ⟨d, rfl⟩

/-! ## Capturing some variables -/

/-- Capturing gives one diagnostic for each variable that is lacking, in order. -/
theorem uncaptured_eq {t : TestCase} {r : Response} {document : Json}
    (h : r.json? = some document) :
    uncaptured t r = t.capture.entries.filterMap (lack document) := by
  rw [uncaptured, h]
  refine congrArg (List.filterMap · t.capture.entries) (funext fun e => ?_)
  rcases finds_or_lack document e with ⟨v, hv⟩ | ⟨d, hd⟩
  · rw [captureOne_of_finds hv, lack_eq_none_iff.mpr ⟨v, hv⟩]
  · rw [captureOne_of_lack hd, hd]

/-- Capturing sets the variables that are found, and no other.  Induction on the variables; as their
names differ, what has been set is not set again. -/
theorem captureAll_spec (document : Json) :
    ∀ (entries : List (String × String)) (captured : Dict String),
    entries.Pairwise (fun a b => a.1 < b.1) →
    (∀ e ∈ entries, ∀ v, Finds document e v →
      (captureAll document entries captured).2.get? e.1 = some v.plainText) ∧
    ∀ name, (∀ e ∈ entries, e.1 = name → ∀ v, ¬ Finds document e v) →
      (captureAll document entries captured).2.get? name = captured.get? name := by
  intro entries
  induction entries with
  | nil => exact fun captured _ => ⟨fun e he => absurd he List.not_mem_nil, fun _ _ => rfl⟩
  | cons e rest ih =>
    intro captured hsorted
    obtain ⟨hfirst, hrest⟩ := List.pairwise_cons.mp hsorted
    have hother : ∀ e' ∈ rest, e'.1 = e.1 → ∀ v, ¬ Finds document e' v :=
      fun e' he' heq => absurd (heq ▸ hfirst e' he') (String.lt_irrefl _)
    rw [captureAll]
    rcases finds_or_lack document e with ⟨v, hv⟩ | ⟨d, hd⟩
    · obtain ⟨hset, hkept⟩ := ih (captured.insert e.1 v.plainText) hrest
      rw [captureOne_of_finds hv]
      refine ⟨?_, fun name hname => ?_⟩
      · intro e' he' v' hv'
        rcases List.mem_cons.mp he' with rfl | he'
        · have hsame : v = v' := Option.some.inj (Except.ok.inj (hv.symm.trans hv'))
          rw [← hsame]
          exact (hkept e'.1 hother).trans (by rw [Dict.get?_insert, if_pos rfl])
        · exact hset e' he' v' hv'
      · have hne : name ≠ e.1 := fun heq => hname e List.mem_cons_self heq.symm v hv
        refine (hkept name fun e' he' => hname e' (List.mem_cons_of_mem _ he')).trans ?_
        rw [Dict.get?_insert, if_neg hne]
    · obtain ⟨hset, hkept⟩ := ih captured hrest
      rw [captureOne_of_lack hd]
      refine ⟨?_, fun name hname => hkept name fun e' he' => hname e' (List.mem_cons_of_mem _ he')⟩
      intro e' he' v' hv'
      rcases List.mem_cons.mp he' with rfl | he'
      · rw [lack_eq_none_iff.mpr ⟨v', hv'⟩] at hd
        cases hd
      · exact hset e' he' v' hv'

/-- The variables after capturing from a response. -/
def capturedFrom (t : TestCase) (r : Response) (captured : Dict String) : Dict String :=
  match r.json? with
  | some document => (captureAll document t.capture.entries captured).2
  | none => captured

variable {σ : Type} {cfg : Settings} {sv : Services σ} {focusMode : Bool} {t : TestCase}
  {s : ExecutorState σ}

/-- Capturing from a response leaves the variables that it says. -/
theorem captured_capture (t : TestCase) (r : Response) (s : ExecutorState σ) :
    (capture t r s).2.captured = capturedFrom t r s.captured := by
  rw [capture, capturedFrom]
  by_cases hempty : t.capture.isEmpty = true
  · have hentries : t.capture.entries = [] := List.isEmpty_iff.mp hempty
    rw [if_pos hempty, hentries]
    cases r.json? <;> rfl
  · rw [if_neg hempty]
    cases r.json? <;> rfl

/-! ## The variables after a test -/

theorem captured_verifyMocks (sv : Services σ) (t : TestCase) (s : ExecutorState σ) :
    (verifyMocks sv t s).2.captured = s.captured := by
  rw [verifyMocks]
  cases sv.mocks with
  | none => rfl
  | some server => cases t.mocks.isEmpty <;> rfl

/-- When all checkers have been asked, the variables are captured if nothing is wrong so far. -/
theorem captured_of_checked {request : PreparedRequest} {response : Response}
    {found : List (List Diagnostic)} (h : Checked cfg sv focusMode t s request response found) :
    (execute cfg sv focusMode t s).2.captured =
      if found.flatten ++ reported cfg sv t s request response = [] then
        capturedFrom t response s.captured
      else s.captured := by
  obtain ⟨⟨hbuilt, hreply⟩, hfound⟩ := h
  have hreported := (verifyMocks_spec hbuilt.1 request response).1
  have hverified :
    (verifyMocks sv (resolved cfg t s) (afterChecks cfg sv t s request response)).2.captured =
      s.captured := captured_verifyMocks _ _ _
  rw [execute_of_built hbuilt, hreply]
  dsimp only
  rw [assess, bind_apply, checkAll_eq, hfound, Checker.merge_found]
  dsimp only
  rw [bind_apply, hreported]
  by_cases hnone : found.flatten ++ reported cfg sv t s request response = []
  · rw [if_pos hnone, if_pos (List.isEmpty_iff.mpr hnone), bind_apply]
    exact (captured_capture _ _ _).trans (by rw [hverified]; rfl)
  · rw [if_neg hnone, if_neg fun h => hnone (List.isEmpty_iff.mp h)]
    exact hverified

/-- On a course that does not come to the end of the checks the variables stay as they are. -/
theorem captured_of_unchecked
    (h : ∀ request response found, ¬ Checked cfg sv focusMode t s request response found) :
    (execute cfg sv focusMode t s).2.captured = s.captured := by
  obtain ⟨e, calls, hcourse⟩ := exists_course cfg sv focusMode t s
  cases hcourse with
  | skipped status ended =>
    rw [execute, ended]
    rfl
  | marked status =>
    rw [execute, gate_of_marked status]
    rfl
  | unsupplied admitted fault =>
    rw [execute_of_admitted admitted, Provision.run_of_fault fault]
    rfl
  | unprepared supplied fault =>
    rw [execute_of_supplied supplied, perform_eq, beforeMocks, Provision.run_of_fault fault]
    rfl
  | unbuilt prepared fault =>
    rw [execute_of_prepared prepared, prepareRequest_of_parse_error fault]
    rfl
  | unanswered built fault transport =>
    rw [execute_of_built built, fault]
    rfl
  | refused built fault transport =>
    rw [execute_of_built built, fault]
    rfl
  | erred erred =>
    rw [execute_of_built erred.1.1, erred.1.2]
    dsimp only
    rw [assess_of_erred erred]
    rfl
  | passed checked clean => exact absurd checked (h _ _ _)
  | failed checked faulty => exact absurd checked (h _ _ _)

variable (cfg sv focusMode t s) in
/-- A test comes to capturing variables: all checkers have been asked, neither they nor the mocks
have anything to report, and the body is a document. -/
structure Capturing (request : PreparedRequest) (response : Response)
    (found : List (List Diagnostic)) (document : Json) : Prop where
  checked : Checked cfg sv focusMode t s request response found
  clean : found.flatten ++ reported cfg sv t s request response = []
  body : response.json? = some document

/-- A test that captures variables ends with what is lacking. -/
theorem execute_of_capturing {request : PreparedRequest} {response : Response}
    {found : List (List Diagnostic)} {document : Json}
    (h : Capturing cfg sv focusMode t s request response found document) :
    (execute cfg sv focusMode t s).1 =
      .ofExchange ⟨request.summary, response, t.capture.entries.filterMap (lack document)⟩ := by
  rw [(execute_of_checked h.checked).1, exchangeOf, diagnosticsOf, if_pos h.clean,
    uncaptured_eq h.body]
  rfl

/-- The variables after a test that captures some. -/
theorem captured_of_capturing {request : PreparedRequest} {response : Response}
    {found : List (List Diagnostic)} {document : Json}
    (h : Capturing cfg sv focusMode t s request response found document) :
    (execute cfg sv focusMode t s).2.captured =
      (captureAll document t.capture.entries s.captured).2 := by
  rw [captured_of_checked h.checked, if_pos h.clean, capturedFrom, h.body]

/-- A test that does not come to capturing leaves the variables as they are. -/
theorem captured_of_not_capturing
    (h : ∀ request response found document,
      ¬ Capturing cfg sv focusMode t s request response found document) :
    (execute cfg sv focusMode t s).2.captured = s.captured := by
  by_cases hchecked : ∃ request response found, Checked cfg sv focusMode t s request response found
  · obtain ⟨request, response, found, hchecked⟩ := hchecked
    rw [captured_of_checked hchecked]
    by_cases hclean : found.flatten ++ reported cfg sv t s request response = []
    · rw [if_pos hclean, capturedFrom]
      cases hbody : response.json? with
      | none => rfl
      | some document => exact absurd ⟨hchecked, hclean, hbody⟩ (h _ _ _ _)
    · rw [if_neg hclean]
  · exact captured_of_unchecked fun request response found hc => hchecked ⟨_, _, _, hc⟩

/-- Nothing is lacking if all paths lead to values. -/
theorem filterMap_lack_eq_nil_iff {document : Json} {entries : List (String × String)} :
    entries.filterMap (lack document) = [] ↔ ∀ e ∈ entries, ∃ v, Finds document e v := by
  rw [List.filterMap_eq_nil_iff]
  exact forall₂_congr fun _ _ => lack_eq_none_iff

/-- An exchange passes exactly if there is nothing to report. -/
theorem ofExchange_eq_passed_iff (x : Exchange) :
    (∃ y, Execution.ofExchange x = .passed y) ↔ x.diagnostics = [] := by
  rw [Execution.ofExchange]
  cases x.diagnostics with
  | nil => simp
  | cons d ds => simp

/-- An outcome that comes from an exchange keeps it. -/
theorem exchange?_ofExchange (x : Exchange) : (Execution.ofExchange x).exchange? = some x := by
  rw [Execution.ofExchange]
  split <;> rfl

/-- What the execution of a test does to the captured variables.  If the test comes to capturing,
then each variable whose path leads to a value gets the text of this value, and no other variable is
touched; the test passes exactly if all paths lead to values, and otherwise it fails with one
diagnostic for each path that does not, in the order of the names.  If it does not come to this,
then no variable is touched; so it is in particular with a test that is skipped or broken or
errs. -/
theorem captures_of_execution (cfg : Settings) (sv : Services σ) (focusMode : Bool) (t : TestCase)
    (s : ExecutorState σ) :
    (∀ request response found document,
      Capturing cfg sv focusMode t s request response found document →
      (∀ e ∈ t.capture.entries, ∀ v, Finds document e v →
        (execute cfg sv focusMode t s).2.captured.get? e.1 = some v.plainText) ∧
      (∀ name, (∀ e ∈ t.capture.entries, e.1 = name → ∀ v, ¬ Finds document e v) →
        (execute cfg sv focusMode t s).2.captured.get? name = s.captured.get? name) ∧
      ((∃ x, (execute cfg sv focusMode t s).1 = .passed x) ↔
        ∀ e ∈ t.capture.entries, ∃ v, Finds document e v) ∧
      ((∃ e ∈ t.capture.entries, ∀ v, ¬ Finds document e v) →
        (execute cfg sv focusMode t s).1 =
          .failed ⟨request.summary, response, t.capture.entries.filterMap (lack document)⟩)) ∧
    ((∀ request response found document,
        ¬ Capturing cfg sv focusMode t s request response found document) →
      (execute cfg sv focusMode t s).2.captured = s.captured) ∧
    ((execute cfg sv focusMode t s).1.exchange? = none →
      (execute cfg sv focusMode t s).2.captured = s.captured) := by
  refine ⟨fun request response found document h => ?_, captured_of_not_capturing, fun hnone => ?_⟩
  · obtain ⟨hset, hkept⟩ := captureAll_spec document t.capture.entries s.captured t.capture.sorted
    rw [captured_of_capturing h, execute_of_capturing h]
    refine ⟨hset, hkept, ?_, fun hlacking => ?_⟩
    · rw [ofExchange_eq_passed_iff, filterMap_lack_eq_nil_iff]
    · refine if_neg fun hempty => ?_
      obtain ⟨e, he, hnot⟩ := hlacking
      obtain ⟨v, hv⟩ := filterMap_lack_eq_nil_iff.mp (List.isEmpty_iff.mp hempty) e he
      exact hnot v hv
  · refine captured_of_unchecked fun request response found hchecked => ?_
    rw [(execute_of_checked hchecked).1, exchange?_ofExchange] at hnone
    cases hnone

/-- A test that captures an identifier and a key. -/
def captureTest : TestCase :=
  { TestCase.ofRequest default "user" (.get "/user") with
    capture := (Dict.empty.insert "id" "$.id").insert "key" "$.key" }

/-- A user with an identifier and without a key. -/
def userDocument : Json := .object [("id", .string "7")]

/-- A response with this user. -/
def userResponse : Response := { (default : Response) with body := "\x7b\"id\":\"7\"\x7d" }

/-- An executor that has captured a key before. -/
def keyState : ExecutorState Nat :=
  { ExecutorState.initial 0 with captured := Dict.empty.insert "key" "old" }

/-- The test gets to the point where variables are captured. -/
theorem exists_capturing : ∃ request,
    Capturing bareSettings (answering userResponse) false captureTest keyState request
      userResponse [] userDocument := by
  have hprepared : Prepared bareSettings (answering userResponse) false captureTest keyState :=
    ⟨⟨.inr ⟨rfl, rfl⟩, Provision.ready_of_unneeded rfl⟩, Provision.ready_of_unneeded rfl⟩
  have hok :
    (prepareRequest bareSettings (resolved bareSettings captureTest keyState)).toOption.isSome =
      true := by
    decide +kernel
  cases hrequest : prepareRequest bareSettings (resolved bareSettings captureTest keyState) with
  | error e =>
    rw [hrequest] at hok
    cases hok
  | ok request =>
    refine ⟨request, ⟨⟨⟨⟨hprepared, hrequest⟩, rfl⟩, rfl⟩, rfl, ?_⟩⟩
    cbv

/-- The identifier is captured although there is no key; the old key stays, and the test fails with
one diagnostic. -/
theorem identifier_captured_beside_missing_key : ∃ request,
    Capturing bareSettings (answering userResponse) false captureTest keyState request
      userResponse [] userDocument ∧
    (execute bareSettings (answering userResponse) false captureTest
      keyState).2.captured.get? "id" = some "7" ∧
    (execute bareSettings (answering userResponse) false captureTest
      keyState).2.captured.get? "key" = some "old" ∧
    (execute bareSettings (answering userResponse) false captureTest keyState).1 =
      .failed ⟨request.summary, userResponse,
        [.anchored captureName "$.key" "path not found, cannot capture `key`"]⟩ := by
  obtain ⟨request, hcapturing⟩ := exists_capturing
  obtain ⟨hset, hkept, -, hfailed⟩ :=
    (captures_of_execution bareSettings (answering userResponse) false
      captureTest keyState).1 request userResponse [] userDocument hcapturing
  have hentries : captureTest.capture.entries = [("id", "$.id"), ("key", "$.key")] := by
    decide +kernel
  have hid : Finds userDocument ("id", "$.id") (.string "7") := rfl
  have hkey : lack userDocument ("key", "$.key") =
      some (.anchored captureName "$.key" "path not found, cannot capture `key`") := rfl
  rw [hentries] at hset hkept hfailed
  have hnokey : ∀ v, ¬ Finds userDocument ("key", "$.key") v := by
    intro v hv
    rw [lack_eq_none_iff.mpr ⟨v, hv⟩] at hkey
    cases hkey
  refine ⟨request, hcapturing, hset _ List.mem_cons_self _ hid, ?_, ?_⟩
  · refine (hkept "key" fun e he hname => ?_).trans (by decide +kernel)
    rcases List.mem_cons.mp he with rfl | he
    · exact absurd hname (by decide)
    · rw [List.mem_singleton.mp he]
      exact hnokey
  · refine (hfailed ⟨_, List.mem_cons_of_mem _ List.mem_cons_self, hnokey⟩).trans ?_
    rw [List.filterMap_cons, List.filterMap_cons, lack_eq_none_iff.mpr ⟨_, hid⟩, hkey]
    rfl

end Assay.Executor
