import Assay.Output.Allure
import Assay.Proofs.Consoles
import Assay.Proofs.Lines

/-
  Attempts to write, and what becomes of those that fail.

  A built-in sink cannot say that a report could not be written when it receives the report, so it
  has to remember this up to its end.  Here the device that a sink writes to may fail at any call,
  and it is watched: every call is noted with its answer (`Device.watched`, `Notes`).  So what a
  sink has done is a list of attempts, one for each report, and the calls at its end; what it
  returns is `settled` by these alone.

  1. What can go wrong.  A call of an attempt may fail; the report may have no document
     (`Attempt.flaw`); or the receipt of the report may panic before anything is tried
     (`Attempt.answer`).  The first two are remembered, and the end returns the first of them.  A
     panic is seen at once by who hands the report out; the sink stays in use.

  2. When a receipt panics.  This is said for each sink, as an equation for the answer: a console
     panics at a report whose duration cannot be added to those of the reports that it has accepted
     before (`Console.Required.answers`), a directory of results at one whose test ends after the
     last day of the calendar (`Allure.Required.answers`), and a file of JSON lines at none.  The
     reports before and behind it are attempted like all others.

  3. The argument.  A `Recorder` is a sink over all devices of a kind.  Each of the three sinks
     keeps an invariant of its own (`Recorder.Keeps`), which tells what it attempts: one lemma for
     the receipt of a report, and one for the end.  `Recorder.Keeps.receiveAll` is the induction on
     the reports, once for all sinks; `Recorder.Keeps.accounts` adds the end, and
     `accounted_settled` says what the result means.

  The three invariants are `Console.Knows`, `Allure.Knows` and `JsonLines.Holding`; the last one
  needs to know what is held back and what has been written, which `Buffered.Takes` relates to the
  text that has been put in, step by step from `flush_takes` to `writeReport_takes`.
-/

namespace Assay

/-! ## Devices -/

/-- A device takes calls, which change a state and may fail. -/
abbrev Device (κ ω : Type) := κ → StateM ω (Except IoError Unit)

/-- A call to a device, and its answer. -/
structure Tried (κ : Type) where
  call : κ
  answer : Except IoError Unit

/-- What an answer says about a failure. -/
def errorOf {ε α : Type} : Except ε α → Option ε
  | .ok _ => none
  | .error e => some e

/-- Why the first call that has failed did so. -/
def firstFailure {κ : Type} (tried : List (Tried κ)) : Option IoError :=
  tried.findSome? fun t => errorOf t.answer

/-- Some calls are tried in order, up to the first one that fails. -/
inductive Course {κ : Type} : List κ → List (Tried κ) → Prop where
  | all : Course [] []
  | next (c : κ) {calls : List κ} {tried : List (Tried κ)} (rest : Course calls tried) :
    Course (c :: calls) (⟨c, .ok ()⟩ :: tried)
  | failed (c : κ) (calls : List κ) (e : IoError) : Course (c :: calls) [⟨c, .error e⟩]

/-- A device that notes every call and its answer. -/
def Device.watched {κ ω : Type} (d : Device κ ω) : Device κ (ω × List (Tried κ)) := fun c s =>
  ((d c s.1).1, (d c s.1).2, s.2 ++ [⟨c, (d c s.1).1⟩])

/-- What is done on a watched device is what is done on the device, and some calls are noted. -/
def Notes {κ ω α : Type} (noted : StateM (ω × List (Tried κ)) α) (act : StateM ω α) (w : ω)
    (tried : List (Tried κ)) : Prop :=
  ∀ log, noted (w, log) = ((act w).1, (act w).2, log ++ tried)

section Devices

variable {κ ω : Type}

/-- There is nothing wrong with an answer exactly if it is a success. -/
theorem errorOf_eq_none {ε : Type} {answer : Except ε Unit} :
    errorOf answer = none ↔ answer = .ok () := by
  cases answer with
  | ok u => exact ⟨fun _ => rfl, fun _ => rfl⟩
  | error e => exact ⟨nofun, nofun⟩

@[simp] theorem firstFailure_nil : firstFailure ([] : List (Tried κ)) = none := rfl

/-- What fails first among some calls and others behind them fails first among the first ones, if
any of these does. -/
theorem firstFailure_append (tried more : List (Tried κ)) :
    firstFailure (tried ++ more) = (firstFailure tried).or (firstFailure more) :=
  List.findSome?_append

theorem firstFailure_singleton (c : κ) (answer : Except IoError Unit) :
    firstFailure [⟨c, answer⟩] = errorOf answer := by
  cases answer <;> rfl

/-- No call fails first exactly if all calls succeed. -/
theorem firstFailure_eq_none {tried : List (Tried κ)} :
    firstFailure tried = none ↔ ∀ t ∈ tried, t.answer = .ok () := by
  rw [firstFailure, List.findSome?_eq_none_iff]
  exact forall₂_congr fun t _ => errorOf_eq_none

namespace Notes

/-- Doing nothing notes nothing. -/
theorem pure {α : Type} (a : α) (w : ω) :
    Notes (pure a : StateM (ω × List (Tried κ)) α) (pure a) w [] := by
  intro log
  rw [List.append_nil]
  rfl

/-- A call is noted with its answer. -/
theorem call (d : Device κ ω) (c : κ) (w : ω) : Notes (d.watched c) (d c) w [⟨c, (d c w).1⟩] :=
  fun _ => rfl

/-- What comes second is noted behind what comes first. -/
theorem bind {α β : Type} {noted : StateM (ω × List (Tried κ)) α} {act : StateM ω α} {w : ω}
    {tried more : List (Tried κ)} {noted' : α → StateM (ω × List (Tried κ)) β}
    {act' : α → StateM ω β} (first : Notes noted act w tried)
    (second : Notes (noted' (act w).1) (act' (act w).1) (act w).2 more) :
    Notes (noted >>= noted') (act >>= act') w (tried ++ more) := by
  intro log
  rw [bind_apply, first log, second, List.append_assoc]
  rfl

/-- What comes second goes on with what comes first has returned. -/
theorem bind_of {α β : Type} {noted : StateM (ω × List (Tried κ)) α} {act : StateM ω α}
    {w w' : ω} {a : α} {tried more : List (Tried κ)} {noted' : α → StateM (ω × List (Tried κ)) β}
    {act' : α → StateM ω β} (first : Notes noted act w tried) (hact : act w = (a, w'))
    (second : Notes (noted' a) (act' a) w' more) :
    Notes (noted >>= noted') (act >>= act') w (tried ++ more) := by
  refine first.bind ?_
  rw [hact]
  exact second

/-- What comes second goes on with the answer to a call. -/
theorem call_bind {β : Type} {d : Device κ ω} {c : κ} {w : ω} {answer : Except IoError Unit}
    {more : List (Tried κ)} {noted' : Except IoError Unit → StateM (ω × List (Tried κ)) β}
    {act' : Except IoError Unit → StateM ω β} (hanswer : (d c w).1 = answer)
    (second : Notes (noted' answer) (act' answer) (d c w).2 more) :
    Notes (d.watched c >>= noted') (d c >>= act') w (⟨c, answer⟩ :: more) := by
  subst hanswer
  exact (call d c w).bind second

/-- Nothing more is noted when only an answer is made from what comes first. -/
theorem bind_pure {α β : Type} {noted : StateM (ω × List (Tried κ)) α} {act : StateM ω α} {w : ω}
    {tried : List (Tried κ)} (h : Notes noted act w tried) (f : α → β) :
    Notes (noted >>= fun a => Pure.pure (f a)) (act >>= fun a => Pure.pure (f a)) w tried := by
  rw [← List.append_nil tried]
  exact h.bind (pure _ _)

end Notes

end Devices

/-! ## What a sink has attempted -/

/-- Why a report could not be written: a call has failed, or there is no document of the report. -/
inductive WriteFailure where
  | call (error : IoError)
  | flaw (message : String)

/-- The error of a sink tells of a failure to write. -/
def SinkError.Tells : WriteFailure → SinkError → Prop
  | .call cause, .io e => e = cause
  | .call cause, .serialization m => m = cause.message
  | .flaw message, .serialization m => m = message
  | _, _ => False

/-- What a sink has done about a report: what it has answered at once, the calls that it has tried,
why there is no document of the report, if it has come to this, and the error that it has met. -/
structure Attempt (κ : Type) where
  report : TestReport
  answer : Except Panic Unit
  tried : List (Tried κ)
  flaw : Option String
  error : Option SinkError

/-- Why a report has not been written: the first call that has failed, or else its flaw. -/
def Attempt.failure {κ : Type} (a : Attempt κ) : Option WriteFailure :=
  ((firstFailure a.tried).map .call).or (a.flaw.map .flaw)

/-- An attempt has an error if and only if it has failed, and the error tells why.  If the receipt
of the report has panicked, nothing has been tried. -/
structure Attempt.Told {κ : Type} (a : Attempt κ) : Prop where
  error : Option.Rel SinkError.Tells a.failure a.error
  refused : ∀ p, a.answer = .error p → a.tried = [] ∧ a.flaw = none

/-- The reports whose receipts have not panicked. -/
def accepted {κ : Type} (attempts : List (Attempt κ)) : List TestReport :=
  (attempts.filter fun a => a.answer.isOk).map Attempt.report

/-- The error of the first attempt that has failed. -/
def firstError {κ : Type} (attempts : List (Attempt κ)) : Option SinkError :=
  attempts.findSome? Attempt.error

/-- All calls of some attempts. -/
def callsTried {κ : Type} (attempts : List (Attempt κ)) : List (Tried κ) :=
  attempts.flatMap Attempt.tried

/-- What a sink returns: a failure of its last calls, or else the error of the first attempt that
failed. -/
def settled {κ : Type} (attempts : List (Attempt κ)) (closing : List (Tried κ)) :
    Except SinkError Unit :=
  match firstFailure closing with
  | some e => .error (.io e)
  | none =>
    match firstError attempts with
    | some e => .error e
    | none => .ok ()

/-- What a sink returns accounts for its attempts and its last calls: it is a success if and only if
no call of any of them has failed and no report was without a document.  If a last call has failed,
then this is returned, and otherwise the error of the first attempt that has failed. -/
structure Accounted {κ : Type} (attempts : List (Attempt κ)) (closing : List (Tried κ))
    (result : Except SinkError Unit) : Prop where
  told : ∀ a ∈ attempts, a.Told
  ok_iff : result = .ok () ↔
    (∀ t ∈ callsTried attempts ++ closing, t.answer = .ok ()) ∧ ∀ a ∈ attempts, a.flaw = none
  first : (∀ t ∈ closing, t.answer = .ok ()) → ∀ e, firstError attempts = some e → result = .error e
  last : ∀ e, firstFailure closing = some e → result = .error (.io e)

section Attempts

variable {κ : Type}

/-- An attempt without an error is one without a failure. -/
theorem Attempt.Told.error_eq_none {a : Attempt κ} (h : a.Told) :
    a.error = none ↔ firstFailure a.tried = none ∧ a.flaw = none := by
  have hfailure : a.error = none ↔ a.failure = none := by
    have herror := h.error
    generalize a.failure = failure at herror ⊢
    generalize a.error = error at herror ⊢
    cases herror with
    | some _ => exact ⟨nofun, nofun⟩
    | none => exact ⟨fun _ => rfl, fun _ => rfl⟩
  rw [hfailure, failure, Option.or_eq_none_iff, Option.map_eq_none_iff, Option.map_eq_none_iff]

/-- An attempt whose error is the failure of its calls itself. -/
def Attempt.direct (r : TestReport) (tried : List (Tried κ)) : Attempt κ :=
  ⟨r, .ok (), tried, none, (firstFailure tried).map .io⟩

@[simp] theorem Attempt.report_direct (r : TestReport) (tried : List (Tried κ)) :
    (direct r tried).report = r := rfl

/-- The error of such an attempt tells of its failure. -/
theorem Attempt.told_direct (r : TestReport) (tried : List (Tried κ)) : (direct r tried).Told where
  error := by
    rw [failure, direct]
    cases firstFailure tried with
    | none => exact .none
    | some e => exact .some rfl
  refused := nofun

/-- An attempt that ends with a panic before anything is tried. -/
def Attempt.panicked (r : TestReport) (p : Panic) : Attempt κ := ⟨r, .error p, [], none, none⟩

@[simp] theorem Attempt.report_panicked (r : TestReport) (p : Panic) :
    (panicked r p : Attempt κ).report = r := rfl

theorem Attempt.told_panicked (r : TestReport) (p : Panic) : (panicked r p : Attempt κ).Told where
  error := .none
  refused := fun _ _ => ⟨rfl, rfl⟩

/-- A report that is attempted is one more that is accepted. -/
@[simp] theorem accepted_append_direct (attempts : List (Attempt κ)) (r : TestReport)
    (tried : List (Tried κ)) :
    accepted (attempts ++ [.direct r tried]) = accepted attempts ++ [r] := by
  rw [accepted, List.filter_append, List.map_append]
  rfl

/-- A report whose receipt panics is not accepted. -/
@[simp] theorem accepted_append_panicked (attempts : List (Attempt κ)) (r : TestReport)
    (p : Panic) :
    accepted (attempts ++ [.panicked r p]) = accepted attempts := by
  rw [accepted, List.filter_append, List.map_append]
  exact List.append_nil _

/-- What holds of each attempt and those before it goes on to hold with one more attempt. -/
theorem forall_split_append {P : List (Attempt κ) → Attempt κ → Prop} {attempts : List (Attempt κ)}
    {last : Attempt κ} (h : ∀ before a after, attempts = before ++ a :: after → P before a)
    (hlast : P attempts last) :
    ∀ before a after, attempts ++ [last] = before ++ a :: after → P before a := by
  intro before a after heq
  rcases List.eq_nil_or_concat after with rfl | ⟨front, back, rfl⟩
  · obtain ⟨rfl, hsingle⟩ := List.append_inj' heq rfl
    cases hsingle
    exact hlast
  · rw [List.concat_eq_append, ← List.cons_append, ← List.append_assoc] at heq
    obtain ⟨hfront, -⟩ := List.append_inj' heq rfl
    exact h before a front hfront

/-- The error of attempts and others behind them is that of the first ones, if they have any. -/
theorem firstError_append (attempts more : List (Attempt κ)) :
    firstError (attempts ++ more) = (firstError attempts).or (firstError more) :=
  List.findSome?_append

theorem firstError_singleton (a : Attempt κ) : firstError [a] = a.error := by
  rw [firstError, List.findSome?_singleton]

/-- One more attempt adds its calls. -/
theorem callsTried_append (attempts : List (Attempt κ)) (a : Attempt κ) :
    callsTried (attempts ++ [a]) = callsTried attempts ++ a.tried := by
  rw [callsTried, List.flatMap_append, List.flatMap_singleton]
  rfl

/-- No attempt has an error if and only if none of their calls has failed and no report was without
a document. -/
theorem firstError_eq_none {attempts : List (Attempt κ)} (h : ∀ a ∈ attempts, a.Told) :
    firstError attempts = none ↔
      (∀ t ∈ callsTried attempts, t.answer = .ok ()) ∧ ∀ a ∈ attempts, a.flaw = none := by
  rw [firstError, List.findSome?_eq_none_iff, callsTried]
  constructor
  · intro hnone
    refine ⟨fun t ht => ?_, fun a ha => ((h a ha).error_eq_none.mp (hnone a ha)).2⟩
    obtain ⟨a, ha, hta⟩ := List.mem_flatMap.mp ht
    exact firstFailure_eq_none.mp ((h a ha).error_eq_none.mp (hnone a ha)).1 t hta
  · rintro ⟨hok, hflaw⟩ a ha
    refine (h a ha).error_eq_none.mpr ⟨firstFailure_eq_none.mpr ?_, hflaw a ha⟩
    exact fun t ht => hok t (List.mem_flatMap.mpr ⟨a, ha, ht⟩)

/-- What is settled accounts for everything. -/
theorem accounted_settled {attempts : List (Attempt κ)} {closing : List (Tried κ)}
    (h : ∀ a ∈ attempts, a.Told) : Accounted attempts closing (settled attempts closing) where
  told := h
  ok_iff := by
    rw [List.forall_mem_append, and_right_comm, ← firstError_eq_none h, ← firstFailure_eq_none,
      settled]
    cases firstFailure closing <;> cases firstError attempts <;> simp
  first := by
    intro hclosing e he
    rw [settled, firstFailure_eq_none.mpr hclosing, he]
  last := by
    intro e he
    rw [settled, he]

end Attempts

/-! ## Sinks over devices -/

/-- A sink that can write to every device of a kind: its state at first, the error that a state
remembers, and what is done about a report and at the end.  About a report a sink may panic, which
leaves a state all the same. -/
structure Recorder (κ σ : Type) where
  start : σ
  error : σ → Option SinkError
  receive : {ω : Type} → Device κ ω → σ → TestReport → StateM ω (Except Panic Unit × σ)
  finalize : {ω : Type} → Device κ ω → σ → StateM ω (Except SinkError Unit × σ)

/-- What is seen of a sink: what it answers to each report, and what it returns at the end. -/
structure Recording where
  answers : List (Except Panic Unit)
  result : Except SinkError Unit

namespace Recorder

variable {κ σ : Type}

/-- A sink receives some reports, whatever it answers. -/
def receiveAll {ω : Type} (s : Recorder κ σ) (d : Device κ ω) : List TestReport → σ →
    StateM ω (List (Except Panic Unit) × σ)
  | [], state => pure ([], state)
  | r :: rest, state => do
    let received ← s.receive d state r
    let others ← receiveAll s d rest received.2
    return (received.1 :: others.1, others.2)

/-- A sink receives some reports and is finalized. -/
def run {ω : Type} (s : Recorder κ σ) (d : Device κ ω) (reports : List TestReport) :
    StateM ω Recording := do
  let received ← s.receiveAll d reports s.start
  let ended ← s.finalize d received.2
  return ⟨received.1, ended.1⟩

/-- Whatever a device does, there is an attempt for each report and there are last calls, which are
all the calls to the device; they are as required, the answers are those of the attempts, and what
is returned accounts for them. -/
def Accounts (s : Recorder κ σ) (Required : List (Attempt κ) → List (Tried κ) → Prop) : Prop :=
  ∀ {ω : Type} (d : Device κ ω) (reports : List TestReport) (w : ω),
    ∃ (attempts : List (Attempt κ)) (closing : List (Tried κ)),
      attempts.map Attempt.report = reports ∧
      attempts.map Attempt.answer = (s.run d reports w).1.answers ∧
      Notes (s.run d.watched reports) (s.run d reports) w (callsTried attempts ++ closing) ∧
      Required attempts closing ∧ Accounted attempts closing (s.run d reports w).1.result

/-- A sink keeps an invariant of its attempts, remembers the error of the first one that failed, and
returns in the end what is settled. -/
structure Keeps (s : Recorder κ σ) (Inv : List (Attempt κ) → σ → Prop)
    (Required : List (Attempt κ) → List (Tried κ) → Prop) : Prop where
  start : Inv [] s.start ∧ s.error s.start = none
  receive : ∀ {ω : Type} (d : Device κ ω) {done : List (Attempt κ)} {state : σ} (r : TestReport)
    (w : ω), Inv done state → ∃ a : Attempt κ, a.report = r ∧ a.Told ∧
      a.answer = (s.receive d state r w).1.1 ∧
      Notes (s.receive d.watched state r) (s.receive d state r) w a.tried ∧
      s.error (s.receive d state r w).1.2 = (s.error state).or a.error ∧
      Inv (done ++ [a]) (s.receive d state r w).1.2
  finalize : ∀ {ω : Type} (d : Device κ ω) {done : List (Attempt κ)} {state : σ} (w : ω),
    Inv done state → s.error state = firstError done → ∃ closing : List (Tried κ),
      Notes (s.finalize d.watched state) (s.finalize d state) w closing ∧
      (s.finalize d state w).1.1 = settled done closing ∧ Required done closing

variable {s : Recorder κ σ} {Inv : List (Attempt κ) → σ → Prop}
  {Required : List (Attempt κ) → List (Tried κ) → Prop}

/-- Some reports are received, each in an attempt of its own.  Induction on the reports. -/
theorem Keeps.receiveAll (h : s.Keeps Inv Required) {ω : Type} (d : Device κ ω) :
    ∀ (reports : List TestReport) {done : List (Attempt κ)} {state : σ} (w : ω),
      Inv done state → s.error state = firstError done →
      ∃ attempts : List (Attempt κ), attempts.map Attempt.report = reports ∧
        (∀ a ∈ attempts, a.Told) ∧
        attempts.map Attempt.answer = (s.receiveAll d reports state w).1.1 ∧
        Notes (s.receiveAll d.watched reports state) (s.receiveAll d reports state) w
          (callsTried attempts) ∧
        s.error (s.receiveAll d reports state w).1.2 = firstError (done ++ attempts) ∧
        Inv (done ++ attempts) (s.receiveAll d reports state w).1.2 := by
  intro reports
  induction reports with
  | nil =>
    intro done state w hinv herror
    rw [← List.append_nil done] at hinv herror
    exact ⟨[], rfl, List.forall_mem_nil _, rfl, .pure _ w, herror, hinv⟩
  | cons r rest ih =>
    intro done state w hinv herror
    obtain ⟨a, hreport, htold, hanswer, hnotes, herror', hinv'⟩ := h.receive d r w hinv
    rw [herror, ← firstError_singleton a, ← firstError_append] at herror'
    obtain ⟨attempts, hreports, htold', hanswers, hnotes', herror'', hinv''⟩ :=
      ih (s.receive d state r w).2 hinv' herror'
    rw [List.append_assoc] at herror'' hinv''
    refine ⟨a :: attempts, ?_, List.forall_mem_cons.mpr ⟨htold, htold'⟩, ?_, ?_, herror'', hinv''⟩
    · rw [List.map_cons, hreport, hreports]
    · rw [List.map_cons, hanswer, hanswers]
      rfl
    · exact hnotes.bind (hnotes'.bind_pure _)

/-- A sink that keeps an invariant accounts for its attempts. -/
theorem Keeps.accounts (h : s.Keeps Inv Required) : s.Accounts Required := by
  intro ω d reports w
  obtain ⟨attempts, hreports, htold, hanswers, hnotes, herror, hinv⟩ :=
    h.receiveAll d reports w h.start.1 h.start.2
  rw [List.nil_append] at herror hinv
  obtain ⟨closing, hnotes', hresult, hrequired⟩ := h.finalize d _ hinv herror
  refine ⟨attempts, closing, hreports, hanswers, hnotes.bind (hnotes'.bind_pure _), hrequired, ?_⟩
  have hsettled : (s.run d reports w).1.result = settled attempts closing := hresult
  rw [hsettled]
  exact accounted_settled htold

end Recorder

/-! ## Consoles -/

namespace Console

/-- A console over terminals. -/
def recorder : Recorder TerminalCall Console where
  start := .start
  error c := c.error.map .io
  receive d := Console.receive d
  finalize d := Console.finalize d

/-- The calls that write some lines and have them handed on. -/
def callsOf (lines : List String) : List TerminalCall :=
  lines.map (fun l => .line (l ++ "\n")) ++ [.flush]

/-- A report is accepted exactly if its duration can be added to those of the reports accepted
before.  Then its lines are tried.  The lines at the end are tried if none of this has failed. -/
structure Required (attempts : List (Attempt TerminalCall)) (closing : List (Tried TerminalCall)) :
    Prop where
  answers : ∀ before a after, attempts = before ++ a :: after → a.answer =
    if (Span.ofReports (accepted before)).nanos + a.report.duration.nanos ≤ Span.longest then .ok ()
    else .error overflow
  flaws : ∀ a ∈ attempts, a.flaw = none
  reports : ∀ a ∈ attempts, a.answer = .ok () → Course (callsOf (lines a.report)) a.tried
  summary : firstError attempts = none →
    Course (callsOf (((attempts.map Attempt.report).foldl count .start).closing)) closing
  remembered : firstError attempts ≠ none → closing = []

/-- What a console knows of its attempts. -/
structure Knows (attempts : List (Attempt TerminalCall)) (c : Console) : Prop where
  answers : ∀ before a after, attempts = before ++ a :: after → a.answer =
    if (Span.ofReports (accepted before)).nanos + a.report.duration.nanos ≤ Span.longest then .ok ()
    else .error overflow
  flaws : ∀ a ∈ attempts, a.flaw = none
  reports : ∀ a ∈ attempts, a.answer = .ok () → Course (callsOf (lines a.report)) a.tried
  summary : c.summary = ((attempts.map Attempt.report).foldl count .start).summary
  duration : c.summary.duration = Span.ofReports (accepted attempts)

/-- Lines are tried in order.  Induction on the lines. -/
theorem writeLines_notes {ω : Type} (d : Device TerminalCall ω) : ∀ (ls : List String) (w : ω),
    ∃ tried, Notes (writeLines d.watched ls) (writeLines d ls) w tried ∧ Course (callsOf ls) tried ∧
      firstFailure tried = errorOf (writeLines d ls w).1 := by
  intro ls
  induction ls with
  | nil =>
    intro w
    refine ⟨_, .call d .flush w, ?_, firstFailure_singleton _ _⟩
    cases (d .flush w).1 with
    | ok u => exact .next _ .all
    | error e => exact .failed _ _ e
  | cons l rest ih =>
    intro w
    rw [writeLines, writeLines, bind_apply]
    cases hanswer : (d (.line (l ++ "\n")) w).1 with
    | error e => exact ⟨_, .call_bind hanswer (.pure _ _), .failed _ _ e, rfl⟩
    | ok u =>
      obtain ⟨tried, hnotes, hcourse, hfailure⟩ := ih (d (.line (l ++ "\n")) w).2
      exact ⟨_, .call_bind hanswer hnotes, .next _ hcourse, hfailure⟩

/-- Remembering a failure leaves the summary. -/
theorem summary_remember (c : Console) (written : Except IoError Unit) :
    (c.remember written).summary = c.summary := by
  cases written <;> rfl

/-- The failure to write is remembered as the error of the console. -/
theorem error_remember (c : Console) (written : Except IoError Unit) :
    (c.remember written).error.map SinkError.io =
      (c.error.map SinkError.io).or ((errorOf written).map .io) := by
  cases written with
  | ok u => exact Option.or_none.symm
  | error e => cases h : c.error <;> simp [remember, errorOf, h]

/-- Counting goes by the summary alone. -/
theorem summary_count {c c' : Console} (h : c.summary = c'.summary) (r : TestReport) :
    (c.count r).summary = (c'.count r).summary := by
  rw [count, count, h]

/-- A console whose report does not fit counts it, and knows this of one more attempt. -/
theorem Knows.overflowed {done : List (Attempt TerminalCall)} {c : Console} (h : Knows done c)
    {r : TestReport} (hover : Span.longest < c.summary.duration.nanos + r.duration.nanos) :
    Knows (done ++ [.panicked r overflow]) (c.count r) where
  answers := by
    refine forall_split_append h.answers ?_
    rw [← h.duration]
    exact (if_neg (Nat.not_le_of_lt hover)).symm
  flaws := List.forall_mem_append.mpr ⟨h.flaws, List.forall_mem_singleton.mpr rfl⟩
  reports := List.forall_mem_append.mpr ⟨h.reports, List.forall_mem_singleton.mpr nofun⟩
  summary := by
    rw [List.map_append, List.foldl_append]
    exact summary_count h.summary r
  duration := by
    rw [count_of_overflow hover, accepted_append_panicked]
    exact h.duration

/-- A console whose report fits counts it, and knows this of one more attempt. -/
theorem Knows.written {done : List (Attempt TerminalCall)} {c : Console} (h : Knows done c)
    {r : TestReport} (hfits : c.summary.duration.nanos + r.duration.nanos ≤ Span.longest)
    {tried : List (Tried TerminalCall)} (hcourse : Course (callsOf (lines r)) tried)
    (result : Except IoError Unit) :
    Knows (done ++ [.direct r tried]) ((c.count r).remember result) where
  answers := by
    refine forall_split_append h.answers ?_
    rw [← h.duration]
    exact (if_pos hfits).symm
  flaws := List.forall_mem_append.mpr ⟨h.flaws, List.forall_mem_singleton.mpr rfl⟩
  reports := List.forall_mem_append.mpr ⟨h.reports, List.forall_mem_singleton.mpr fun _ => hcourse⟩
  summary := by
    rw [List.map_append, List.foldl_append, summary_remember]
    exact summary_count h.summary r
  duration := by
    rw [summary_remember, count_of_fits hfits, accepted_append_direct, h.duration]
    exact congrArg Span.mk (Span.nanos_ofReports_concat _ _).symm

/-- A console tries the lines of every report that fits, and counts all of them. -/
theorem recorder_keeps : recorder.Keeps Knows Required where
  start := by
    refine ⟨⟨fun before a after h => ?_, List.forall_mem_nil _, List.forall_mem_nil _, rfl, rfl⟩,
      rfl⟩
    exact absurd h.symm (List.append_ne_nil_of_right_ne_nil _ (List.cons_ne_nil _ _))
  receive := by
    intro ω d done c r w h
    by_cases hfits : c.summary.duration.nanos + r.duration.nanos ≤ Span.longest
    · obtain ⟨tried, hnotes, hcourse, hfailure⟩ := writeLines_notes d (lines r) w
      have hreceive := fun {ω : Type} (d : Device TerminalCall ω) => receive_of_fits d hfits
      refine ⟨.direct r tried, rfl, Attempt.told_direct r tried, ?_, ?_, ?_, ?_⟩
      · exact (congrArg (fun act => (act w).1.1) (hreceive d)).symm
      · show Notes (Console.receive d.watched c r) (Console.receive d c r) w tried
        rw [hreceive, hreceive]
        exact hnotes.bind_pure _
      · show ((Console.receive d c r w).1.2.error).map SinkError.io = _
        rw [hreceive, Attempt.direct, hfailure]
        exact error_remember (c.count r) (writeLines d (lines r) w).1
      · show Knows _ (Console.receive d c r w).1.2
        rw [hreceive]
        exact h.written hfits hcourse _
    · have hover := Nat.lt_of_not_le hfits
      have hreceive := fun {ω : Type} (d : Device TerminalCall ω) => receive_of_overflow d hover
      refine ⟨.panicked r overflow, rfl, Attempt.told_panicked r overflow, ?_, ?_, ?_, ?_⟩
      · exact (congrArg (fun act => (act w).1.1) (hreceive d)).symm
      · show Notes (Console.receive d.watched c r) (Console.receive d c r) w []
        rw [hreceive, hreceive]
        exact .pure _ _
      · show ((Console.receive d c r w).1.2.error).map SinkError.io = _
        rw [hreceive]
        exact Option.or_none.symm
      · show Knows _ (Console.receive d c r w).1.2
        rw [hreceive]
        exact h.overflowed hover
  finalize := by
    intro ω d done c w h herror
    have hremembered : c.error.map SinkError.io = firstError done := herror
    show ∃ closing, Notes (Console.finalize d.watched c) (Console.finalize d c) w closing ∧
      (Console.finalize d c w).1.1 = settled done closing ∧ Required done closing
    rw [Console.finalize, Console.finalize]
    cases hc : c.error with
    | some e =>
      -- What is remembered takes the place of the summary, of which no line is tried.
      rw [hc, Option.map_some] at hremembered
      refine ⟨[], .pure _ _, ?_, h.answers, h.flaws, h.reports, ?_, fun _ => rfl⟩
      · rw [settled, firstFailure_nil, ← hremembered]
        rfl
      · rw [← hremembered]
        nofun
    | none =>
      rw [hc, Option.map_none] at hremembered
      obtain ⟨tried, hnotes, hcourse, hfailure⟩ := writeLines_notes d c.closing w
      refine ⟨tried, hnotes.bind_pure _, ?_, h.answers, h.flaws, h.reports, ?_,
        fun hne => absurd hremembered.symm hne⟩
      · dsimp only
        rw [bind_apply, settled, hfailure, ← hremembered]
        cases (writeLines d c.closing w).1 <;> rfl
      · intro _
        rw [closing, ← h.summary]
        exact hcourse

end Console

/-! ## Directories of results -/

namespace Allure

/-- A directory of results over writers of files, which take the name and the text of a file. -/
def recorder (suite : String) (fresh : Nat → Uuid) (now : Instant) :
    Recorder (String × String) Allure where
  start := .start suite
  error := Allure.error
  receive d := Allure.receive (fun name text => d (name, text)) fresh
  finalize d := Allure.finalize (fun name text => d (name, text)) fresh now

/-- The file of a result. -/
def resultCall (suite : String) (id : Uuid) (r : TestReport) : String × String :=
  (resultFile id, (resultOf suite id r).indented)

/-- The file of a container. -/
def containerCall (suite : String) (id : Uuid) (children : List Uuid) (start stop : Instant) :
    String × String :=
  (containerFile id, (containerOf suite id children start stop).indented)

/-- The identifiers of the results that have been written. -/
def written (fresh : Nat → Uuid) (attempts : List (Attempt (String × String))) : List Uuid :=
  attempts.zipIdx.filterMap fun p =>
    if p.1.answer.isOk && p.1.error.isNone then some (fresh p.2) else none

/-- A report is accepted exactly if its test ends within the calendar.  Then the file of its result
is tried, and at the end the file of the container, which lists the results that have been written.
Every report draws an identifier, also one that is not accepted. -/
structure Required (suite : String) (fresh : Nat → Uuid) (now : Instant)
    (attempts : List (Attempt (String × String))) (closing : List (Tried (String × String))) :
    Prop where
  answers : ∀ a ∈ attempts,
    a.answer = if a.report.finishedAt.isCovered then .ok () else .error overflow
  flaws : ∀ a ∈ attempts, a.flaw = none
  results : ∀ p ∈ attempts.zipIdx, p.1.answer = .ok () →
    Course [resultCall suite (fresh p.2) p.1.report] p.1.tried
  container : Course [containerCall suite (fresh attempts.length) (written fresh attempts)
    (((accepted attempts).head?.map TestReport.startedAt).getD now)
    (((accepted attempts).getLast?.map TestReport.finishedAt).getD now)] closing

/-- What a directory knows of its attempts. -/
structure Knows (suite : String) (fresh : Nat → Uuid) (attempts : List (Attempt (String × String)))
    (a : Allure) : Prop where
  answers : ∀ a ∈ attempts,
    a.answer = if a.report.finishedAt.isCovered then .ok () else .error overflow
  flaws : ∀ a ∈ attempts, a.flaw = none
  results : ∀ p ∈ attempts.zipIdx, p.1.answer = .ok () →
    Course [resultCall suite (fresh p.2) p.1.report] p.1.tried
  suite_eq : a.suite = suite
  drawn : a.drawn = attempts.length
  children : a.children = written fresh attempts
  started : a.started = (accepted attempts).head?.map TestReport.startedAt
  stopped : a.stopped = (accepted attempts).getLast?.map TestReport.finishedAt
  opened : a.closed = false

/-- One more attempt adds an identifier exactly if its file has been written. -/
theorem written_append (fresh : Nat → Uuid) (attempts : List (Attempt (String × String)))
    (a : Attempt (String × String)) : written fresh (attempts ++ [a]) = written fresh attempts ++
      (if a.answer.isOk && a.error.isNone then [fresh attempts.length] else []) := by
  rw [written, List.zipIdx_append, List.filterMap_append, written, List.zipIdx_singleton,
    Nat.zero_add, List.filterMap_cons, List.filterMap_nil]
  dsimp only
  cases a.answer.isOk && a.error.isNone <;> rfl

/-- The directory after a report, whose file was written or not. -/
def received (a : Allure) (id : Uuid) (r : TestReport) (answer : Except IoError Unit) : Allure :=
  let next := { a with
    drawn := a.drawn + 1
    started := a.started.orElse fun _ => some r.startedAt
    stopped := some r.finishedAt }
  match answer with
  | .ok () => { next with children := next.children ++ [id] }
  | .error e => next.remember (.io e)

/-- A failure to write a file is remembered unless there has been one before. -/
theorem error_received (a : Allure) (id : Uuid) (r : TestReport) (answer : Except IoError Unit) :
    (a.received id r answer).error = a.error.or ((errorOf answer).map .io) := by
  cases answer with
  | ok u => exact Option.or_none.symm
  | error e => cases h : a.error <;> simp [received, remember, errorOf, h]

/-- One call is tried. -/
theorem course_call {κ : Type} (c : κ) (answer : Except IoError Unit) :
    Course [c] [⟨c, answer⟩] := by
  cases answer with
  | ok u => exact .next c .all
  | error e => exact .failed c [] e

/-- What holds of the attempts with their numbers goes on to hold with one more attempt. -/
theorem forall_zipIdx_append {P : Attempt (String × String) → Nat → Prop}
    {attempts : List (Attempt (String × String))} {last : Attempt (String × String)}
    (h : ∀ p ∈ attempts.zipIdx, P p.1 p.2) (hlast : P last attempts.length) :
    ∀ p ∈ (attempts ++ [last]).zipIdx, P p.1 p.2 := by
  rw [List.zipIdx_append, List.zipIdx_singleton, Nat.zero_add]
  exact List.forall_mem_append.mpr ⟨h, List.forall_mem_singleton.mpr hlast⟩

/-- A report whose test ends within the calendar is one more attempt, whose file is tried. -/
theorem Knows.received {suite : String} {fresh : Nat → Uuid}
    {done : List (Attempt (String × String))} {a : Allure} (h : Knows suite fresh done a)
    {r : TestReport} (hcovered : r.finishedAt.isCovered = true) (answer : Except IoError Unit) :
    Knows suite fresh (done ++ [.direct r [⟨resultCall suite (fresh done.length) r, answer⟩]])
      (a.received (fresh done.length) r answer) where
  answers := List.forall_mem_append.mpr ⟨h.answers,
    List.forall_mem_singleton.mpr (if_pos hcovered).symm⟩
  flaws := List.forall_mem_append.mpr ⟨h.flaws, List.forall_mem_singleton.mpr rfl⟩
  results := forall_zipIdx_append
    (P := fun a i => a.answer = .ok () → Course [resultCall suite (fresh i) a.report] a.tried)
    h.results fun _ => course_call _ _
  suite_eq := by cases answer <;> exact h.suite_eq
  drawn := by
    rw [List.length_append, ← h.drawn]
    cases answer <;> rfl
  children := by
    rw [written_append, ← h.children]
    cases answer with
    | ok u => rfl
    | error e => exact (List.append_nil _).symm
  started := by
    have hstarted := h.started
    rw [accepted_append_direct, List.head?_append]
    cases answer <;> cases hfirst : (accepted done).head? <;> simp_all [Allure.received, remember]
  stopped := by
    rw [accepted_append_direct, List.getLast?_concat]
    cases answer <;> rfl
  opened := by cases answer <;> exact h.opened

/-- A report whose test ends behind the calendar is one more attempt, for which nothing is tried. -/
theorem Knows.overflowed {suite : String} {fresh : Nat → Uuid}
    {done : List (Attempt (String × String))} {a : Allure} (h : Knows suite fresh done a)
    {r : TestReport} (hcovered : ¬r.finishedAt.isCovered = true) :
    Knows suite fresh (done ++ [.panicked r overflow]) { a with drawn := a.drawn + 1 } where
  answers := List.forall_mem_append.mpr ⟨h.answers,
    List.forall_mem_singleton.mpr (if_neg hcovered).symm⟩
  flaws := List.forall_mem_append.mpr ⟨h.flaws, List.forall_mem_singleton.mpr rfl⟩
  results := forall_zipIdx_append
    (P := fun a i => a.answer = .ok () → Course [resultCall suite (fresh i) a.report] a.tried)
    h.results nofun
  suite_eq := h.suite_eq
  drawn := by rw [List.length_append, ← h.drawn]; rfl
  children := by
    rw [written_append]
    exact h.children.trans (List.append_nil _).symm
  started := by
    rw [accepted_append_panicked]
    exact h.started
  stopped := by
    rw [accepted_append_panicked]
    exact h.stopped
  opened := h.opened

/-- A report whose test ends within the calendar leads to one call. -/
theorem receive_of_covered {ω : Type} (write : FileWriter ω) (fresh : Nat → Uuid) (a : Allure)
    {r : TestReport} (h : r.finishedAt.isCovered = true) : receive write fresh a r =
      write (resultFile (fresh a.drawn)) (resultOf a.suite (fresh a.drawn) r).indented >>=
        fun answer => pure (.ok (), a.received (fresh a.drawn) r answer) := by
  have hstop : r.finishedAt? = some r.finishedAt := if_pos h
  rw [receive, hstop]
  refine bind_congr fun answer => ?_
  cases answer <;> rfl

/-- A report whose test ends behind the calendar leads to none. -/
theorem receive_of_overflow {ω : Type} (write : FileWriter ω) (fresh : Nat → Uuid) (a : Allure)
    {r : TestReport} (h : ¬r.finishedAt.isCovered = true) :
    receive write fresh a r = pure (.error overflow, { a with drawn := a.drawn + 1 }) := by
  have hstop : r.finishedAt? = none := if_neg h
  rw [receive, hstop]

/-- What a directory that knows its attempts does about one more report. -/
theorem Knows.receive_eq {suite : String} {fresh : Nat → Uuid}
    {done : List (Attempt (String × String))} {a : Allure} (h : Knows suite fresh done a)
    (now : Instant) {ω : Type} (d : Device (String × String) ω) {r : TestReport}
    (hcovered : r.finishedAt.isCovered = true) : (recorder suite fresh now).receive d a r =
      d (resultCall suite (fresh done.length) r) >>=
        fun answer => pure (.ok (), a.received (fresh done.length) r answer) := by
  rw [← h.drawn, ← h.suite_eq]
  exact receive_of_covered (fun name text => d (name, text)) fresh a hcovered

/-- The directory after its end, and what it returns, when its container was written or not. -/
def ended (a : Allure) (answer : Except IoError Unit) : Except SinkError Unit × Allure :=
  let closed := { a with closed := true, drawn := a.drawn + 1, children := [] }
  match answer with
  | .error e => (.error (.io e), closed)
  | .ok () =>
    match a.error with
    | some e => (.error e, { closed with error := none })
    | none => (.ok (), closed)

/-- The end leads to one call. -/
theorem finalize_eq {ω : Type} (write : FileWriter ω) (fresh : Nat → Uuid) (now : Instant)
    {a : Allure} (h : a.closed = false) :
    finalize write fresh now a = write (containerFile (fresh a.drawn))
      (containerOf a.suite (fresh a.drawn) a.children (a.started.getD now)
        (a.stopped.getD now)).indented >>=
        fun answer => pure (a.ended answer) := by
  rw [finalize, h, if_neg Bool.false_ne_true]
  refine bind_congr fun answer => ?_
  cases answer with
  | error e => rfl
  | ok u =>
    dsimp only [ended]
    cases a.error <;> rfl

theorem Knows.finalize_eq {suite : String} {fresh : Nat → Uuid}
    {done : List (Attempt (String × String))} {a : Allure} (h : Knows suite fresh done a)
    (now : Instant) {ω : Type} (d : Device (String × String) ω) :
    (recorder suite fresh now).finalize d a =
      d (containerCall suite (fresh done.length) (written fresh done)
          (((accepted done).head?.map TestReport.startedAt).getD now)
          (((accepted done).getLast?.map TestReport.finishedAt).getD now)) >>=
        fun answer => pure (a.ended answer) := by
  rw [← h.drawn, ← h.suite_eq, ← h.children, ← h.started, ← h.stopped]
  exact Allure.finalize_eq (fun name text => d (name, text)) fresh now h.opened

/-- A directory tries to write a file for every report whose test ends within the calendar, and
knows which of them have been written. -/
theorem recorder_keeps (suite : String) (fresh : Nat → Uuid) (now : Instant) :
    (recorder suite fresh now).Keeps (Knows suite fresh) (Required suite fresh now) where
  start :=
    ⟨⟨List.forall_mem_nil _, List.forall_mem_nil _, List.forall_mem_nil _, rfl, rfl, rfl, rfl,
    rfl, rfl⟩, rfl⟩
  receive := by
    intro ω d done a r w h
    by_cases hcovered : r.finishedAt.isCovered = true
    · rw [h.receive_eq now d hcovered, h.receive_eq now d.watched hcovered]
      refine ⟨.direct r [⟨resultCall suite (fresh done.length) r, _⟩], rfl, Attempt.told_direct r _,
        rfl, (Notes.call d _ w).bind_pure _, ?_, h.received hcovered _⟩
      rw [Attempt.direct, firstFailure_singleton]
      exact error_received a _ r _
    · have hreceive : ∀ {ω : Type} (d : Device (String × String) ω),
          (recorder suite fresh now).receive d a r =
            pure (.error overflow, { a with drawn := a.drawn + 1 }) :=
        fun d => receive_of_overflow (fun name text => d (name, text)) fresh a hcovered
      rw [hreceive, hreceive]
      exact ⟨.panicked r overflow, rfl, Attempt.told_panicked r overflow, rfl, .pure _ _,
        Option.or_none.symm, h.overflowed hcovered⟩
  finalize := by
    intro ω d done a w h herror
    rw [h.finalize_eq, h.finalize_eq]
    refine ⟨_, (Notes.call d _ w).bind_pure _, ?_, h.answers, h.flaws, h.results, course_call _ _⟩
    have hremembered : a.error = firstError done := herror
    rw [settled, firstFailure_singleton, ← hremembered, bind_apply]
    generalize (d _ w).1 = answer
    cases answer with
    | error e => rfl
    | ok u => cases hc : a.error <;> simp [ended, errorOf, hc] <;> rfl

end Allure

/-! ## Files of JSON lines -/

/-- The text that calls have written. -/
def textWritten : List (Tried String) → String
  | [] => ""
  | ⟨text, .ok ()⟩ :: rest => text ++ textWritten rest
  | ⟨_, .error _⟩ :: rest => textWritten rest

/-- Calls write one behind the other. -/
theorem textWritten_append (tried more : List (Tried String)) :
    textWritten (tried ++ more) = textWritten tried ++ textWritten more := by
  induction tried with
  | nil => exact String.empty_append.symm
  | cons t rest ih =>
    obtain ⟨text, answer⟩ := t
    cases answer with
    | ok u => exact (congrArg (text ++ ·) ih).trans String.append_assoc.symm
    | error e => exact ih

namespace Buffered

/-- Some calls have taken a part of a text to a buffer: the whole of it unless one of them has
failed.  What they have written and what is held back afterwards are what was held back before, and
this part. -/
structure Takes (b b' : Buffered) (text part : String) (tried : List (Tried String))
    (answer : Except IoError Unit) : Prop where
  failure : firstFailure tried = errorOf answer
  front : ∃ rest, part ++ rest = text
  whole : answer = .ok () → part = text
  kept : textWritten tried ++ b'.held = b.held ++ part

/-- What comes second takes the rest of a text. -/
theorem Takes.trans {b b' b'' : Buffered} {text part text' part' : String}
    {tried more : List (Tried String)} {answer : Except IoError Unit}
    (h : Takes b b' text part tried (.ok ())) (h' : Takes b' b'' text' part' more answer) :
    Takes b b'' (text ++ text') (part ++ part') (tried ++ more) answer where
  failure := by rw [firstFailure_append, h.failure, ← h'.failure]; rfl
  front := by
    obtain ⟨rest, hrest⟩ := h'.front
    exact ⟨rest, by rw [h.whole rfl, String.append_assoc, hrest]⟩
  whole := fun hok => by rw [h.whole rfl, h'.whole hok]
  kept := by
    rw [textWritten_append, String.append_assoc, h'.kept, ← String.append_assoc, h.kept,
      String.append_assoc]

/-- A failure leaves the rest of a text. -/
theorem Takes.stop {b b' : Buffered} {text part : String} {tried : List (Tried String)}
    {e : IoError} (h : Takes b b' text part tried (.error e)) (more : String) :
    Takes b b' (text ++ more) part tried (.error e) where
  failure := h.failure
  front := by
    obtain ⟨rest, hrest⟩ := h.front
    exact ⟨rest ++ more, by rw [← String.append_assoc, hrest]⟩
  whole := nofun
  kept := h.kept

/-- Something that is done to a buffer takes a text, or a part of it, to the buffer. -/
def Taking {ω : Type} (noted : StateM (ω × List (Tried String)) (Except IoError Unit × Buffered))
    (act : StateM ω (Except IoError Unit × Buffered)) (w : ω) (b : Buffered)
    (text : String) : Prop :=
  ∃ tried part, Notes noted act w tried ∧ Takes b (act w).1.2 text part tried (act w).1.1

/-- If what comes first does not fail, then what comes second takes the rest of a text. -/
theorem Taking.seq {ω : Type}
    {noted : StateM (ω × List (Tried String)) (Except IoError Unit × Buffered)}
    {act : StateM ω (Except IoError Unit × Buffered)} {w : ω} {b : Buffered} {text text' : String}
    {noted' : Buffered → StateM (ω × List (Tried String)) (Except IoError Unit × Buffered)}
    {act' : Buffered → StateM ω (Except IoError Unit × Buffered)}
    (first : Taking noted act w b text)
    (second : ∀ b' w', act w = ((.ok (), b'), w') → Taking (noted' b') (act' b') w' b' text') :
    Taking (do
        match ← noted with
        | (.ok (), b) => noted' b
        | (.error e, b) => return (.error e, b))
      (do
        match ← act with
        | (.ok (), b) => act' b
        | (.error e, b) => return (.error e, b)) w b (text ++ text') := by
  obtain ⟨tried, part, hnotes, htakes⟩ := first
  rw [Taking, bind_apply]
  cases hact : act w with
  | mk result w' =>
    obtain ⟨answer, b'⟩ := result
    rw [hact] at htakes
    cases answer with
    | error e =>
      refine ⟨tried, part, ?_, htakes.stop text'⟩
      rw [← List.append_nil tried]
      exact hnotes.bind_of hact (.pure _ _)
    | ok u =>
      obtain ⟨more, part', hnotes', htakes'⟩ := second b' w' hact
      exact ⟨tried ++ more, part ++ part', hnotes.bind_of hact hnotes', htakes.trans htakes'⟩

variable {ω : Type} (d : Device String ω)

/-- What is held back is written, or stays. -/
theorem flush_takes (b : Buffered) (w : ω) :
    ∃ tried, Notes (flush d.watched b) (flush d b) w tried ∧
    Takes b (flush d b w).1.2 "" "" tried (flush d b w).1.1 ∧
    ((flush d b w).1.1 = .ok () → (flush d b w).1.2 = .empty) := by
  obtain ⟨held⟩ := b
  rw [flush, flush]
  split
  · next hempty =>
    have hheld : held = "" := String.isEmpty_iff.mp hempty
    subst hheld
    exact ⟨[], .pure _ _, ⟨rfl, ⟨"", rfl⟩, fun _ => rfl, rfl⟩, fun _ => rfl⟩
  · rw [bind_apply]
    cases hanswer : (d held w).1 with
    | error e =>
      refine ⟨_, .call_bind hanswer (.pure _ _), ⟨rfl, ⟨"", rfl⟩, fun h => ?_, ?_⟩, fun h => ?_⟩
      · cases h
      · exact String.empty_append.trans String.append_empty.symm
      · cases h
    | ok u =>
      exact ⟨_, .call_bind hanswer (.pure _ _), ⟨rfl, ⟨"", rfl⟩, fun _ => rfl, String.append_empty⟩,
        fun _ => rfl⟩

/-- A piece is written or held back, or a failure to write it leaves it out. -/
theorem place_takes (b : Buffered) (piece : String)
    (hroom : capacity ≤ piece.utf8ByteSize → b = .empty) (w : ω) :
    Taking (place d.watched b piece) (place d b piece) w b piece := by
  rw [place, place]
  split
  · next hlarge =>
    rw [hroom hlarge, Taking, bind_apply]
    cases hanswer : (d piece w).1 with
    | error e =>
      refine ⟨_, "", .call_bind hanswer (.pure _ _), rfl, ⟨piece, String.empty_append⟩,
        fun h => ?_, rfl⟩
      cases h
    | ok u =>
      refine ⟨_, piece, .call_bind hanswer (.pure _ _), rfl, ⟨"", String.append_empty⟩,
        fun _ => rfl, ?_⟩
      exact String.append_empty.trans (String.append_empty.trans String.empty_append.symm)
  · exact ⟨[], piece, .pure _ _, rfl, ⟨"", String.append_empty⟩, fun _ => rfl, String.empty_append⟩

/-- A piece is taken, after what is held back has been written if there is no room for it. -/
theorem put_takes (b : Buffered) (piece : String) (w : ω) :
    Taking (put d.watched b piece) (put d b piece) w b piece := by
  rw [put, put]
  split
  · next hfits => exact place_takes d b piece (eq_empty_of_fits hfits) w
  · obtain ⟨tried, hnotes, htakes, hempty⟩ := flush_takes d b w
    have hflushed : Taking (flush d.watched b) (flush d b) w b "" := ⟨tried, "", hnotes, htakes⟩
    have hplaced : ∀ b' w', flush d b w = ((.ok (), b'), w') →
        Taking (place d.watched b' piece) (place d b' piece) w' b' piece := by
      intro b' w' hflush
      rw [hflush] at hempty
      exact place_takes d b' piece (fun _ => hempty rfl) w'
    have hput := hflushed.seq hplaced
    rw [String.empty_append] at hput
    exact hput

/-- Pieces are taken in order.  Induction on the pieces. -/
theorem putAll_takes (pieces : List String) : ∀ (b : Buffered) (w : ω),
    Taking (putAll d.watched pieces b) (putAll d pieces b) w b (String.join pieces) := by
  induction pieces with
  | nil =>
    intro b w
    exact ⟨[], "", .pure _ _, rfl, ⟨"", rfl⟩, fun _ => rfl,
      String.empty_append.trans String.append_empty.symm⟩
  | cons piece rest ih =>
    intro b w
    rw [String.join_cons]
    exact (put_takes d b piece w).seq fun b' w' _ => ih b' w'

end Buffered

namespace JsonLines

/-- A file of JSON lines over writers.  It never panics. -/
def recorder : Recorder String JsonLines where
  start := .start
  error := JsonLines.error
  receive d f r := do
    let f ← JsonLines.receive d f r
    return (.ok (), f)
  finalize d := JsonLines.finalize d

/-- The front of a line, up to a path that is no text. -/
def brokenLine (r : TestReport) : String :=
  "\x7b\"name\":" ++ String.ofList (Json.quoted r.name.toList) ++ ",\"file\":"

/-- What a file is given for a report: its line with its end, or the front of the line if there is
no document of the report. -/
def given (r : TestReport) : String := if r.flaw?.isSome then brokenLine r else line r ++ "\n"

/-- For each report a part of what is given for it is taken, all of it if no call has failed; and if
the end does not fail then what all calls have written is made up of these parts, in order. -/
structure Required (attempts : List (Attempt String)) (closing : List (Tried String)) : Prop where
  answers : ∀ a ∈ attempts, a.answer = .ok ()
  flaws : ∀ a ∈ attempts, a.flaw = a.report.flaw?
  written : ∃ parts : List String,
    List.Forall₂ (fun a part => (∃ rest, part ++ rest = given a.report) ∧
      (firstFailure a.tried = none → part = given a.report)) attempts parts ∧
    (firstFailure closing = none → textWritten (callsTried attempts ++ closing) = String.join parts)

/-- The pieces in front of a path that is no text make up the front of the line. -/
theorem join_piecesOf_of_flaw {r : TestReport} {flaw : String} (h : r.flaw? = some flaw) :
    String.join (piecesOf r) = brokenLine r := by
  rw [← String.toList_inj, String.toList_join, piecesOf, h, if_pos (by rfl), List.flatMap_map]
  have hname : Json.quoted ['n', 'a', 'm', 'e'] = ['"', 'n', 'a', 'm', 'e', '"'] := by decide
  have hfile : Json.quoted ['f', 'i', 'l', 'e'] = ['"', 'f', 'i', 'l', 'e', '"'] := by decide
  simp [brokenLine, piecesBeforePath, Json.piecesOfMembers, Json.pieces, List.flatMap_def,
    Json.flatten_quotedPieces, hname, hfile]

/-- A report is taken with the end of its line. -/
theorem writeReport_takes_of_none {ω : Type} (d : Device String ω) (b : Buffered) {r : TestReport}
    (hflaw : r.flaw? = none) (w : ω) :
    ∃ tried part answer, Notes (writeReport d.watched b r) (writeReport d b r) w tried ∧
      Buffered.Takes b (writeReport d b r w).1.2 (line r ++ "\n") part tried answer ∧
      Option.Rel SinkError.Tells ((errorOf answer).map .call)
        (errorOf (writeReport d b r w).1.1) := by
  obtain ⟨tried, part, hnotes, htakes⟩ := Buffered.putAll_takes d (piecesOf r) b w
  rw [join_piecesOf hflaw] at htakes
  rw [writeReport, writeReport, hflaw, bind_apply]
  cases hpieces : Buffered.putAll d (piecesOf r) b w with
  | mk result w' =>
    obtain ⟨answer, b'⟩ := result
    rw [hpieces] at htakes
    cases answer with
    | error e =>
      refine ⟨tried ++ [], part, .error e, hnotes.bind_of hpieces (.pure _ _), ?_, .some rfl⟩
      rw [List.append_nil]
      exact htakes.stop "\n"
    | ok u =>
      obtain ⟨more, part', hnotes', htakes'⟩ := Buffered.put_takes d b' "\n" w'
      refine ⟨tried ++ more, part ++ part', (Buffered.put d b' "\n" w').1.1,
        hnotes.bind_of hpieces (hnotes'.bind_pure _), htakes.trans htakes', ?_⟩
      dsimp only
      rw [bind_apply]
      cases (Buffered.put d b' "\n" w').1.1 with
      | error e => exact .some rfl
      | ok u => exact .none

/-- A report is taken up to a path that is no text. -/
theorem writeReport_takes_of_some {ω : Type} (d : Device String ω) (b : Buffered) {r : TestReport}
    {flaw : String} (hflaw : r.flaw? = some flaw) (w : ω) :
    ∃ tried part answer, Notes (writeReport d.watched b r) (writeReport d b r) w tried ∧
      Buffered.Takes b (writeReport d b r w).1.2 (brokenLine r) part tried answer ∧
      Option.Rel SinkError.Tells (((errorOf answer).map .call).or (some (.flaw flaw)))
        (errorOf (writeReport d b r w).1.1) := by
  obtain ⟨tried, part, hnotes, htakes⟩ := Buffered.putAll_takes d (piecesOf r) b w
  rw [join_piecesOf_of_flaw hflaw] at htakes
  rw [writeReport, writeReport, hflaw, bind_apply]
  cases hpieces : Buffered.putAll d (piecesOf r) b w with
  | mk result w' =>
    obtain ⟨answer, b'⟩ := result
    rw [hpieces] at htakes
    refine ⟨tried ++ [], part, answer, hnotes.bind_of hpieces ?_, ?_, ?_⟩
    · cases answer <;> exact .pure _ _
    · rw [List.append_nil]
      cases answer <;> exact htakes
    · cases answer <;> exact .some rfl

/-- What is given for a report is taken, and the error tells why if it is not written. -/
theorem writeReport_takes {ω : Type} (d : Device String ω) (b : Buffered) (r : TestReport) (w : ω) :
    ∃ tried part answer, Notes (writeReport d.watched b r) (writeReport d b r) w tried ∧
      Buffered.Takes b (writeReport d b r w).1.2 (given r) part tried answer ∧
      Option.Rel SinkError.Tells (((errorOf answer).map .call).or (r.flaw?.map .flaw))
        (errorOf (writeReport d b r w).1.1) := by
  rw [given]
  cases hflaw : r.flaw? with
  | none =>
    rw [if_neg (by decide), Option.map_none]
    simpa only [Option.or_none] using writeReport_takes_of_none d b hflaw w
  | some flaw =>
    rw [if_pos (by rfl)]
    exact writeReport_takes_of_some d b hflaw w

/-- What a file has taken of its reports. -/
structure Holding (done : List (Attempt String)) (f : JsonLines) : Prop where
  answers : ∀ a ∈ done, a.answer = .ok ()
  flaws : ∀ a ∈ done, a.flaw = a.report.flaw?
  held : ∃ b parts, f.buffer = some b ∧
    List.Forall₂ (fun a part => (∃ rest, part ++ rest = given a.report) ∧
      (firstFailure a.tried = none → part = given a.report)) done parts ∧
    textWritten (callsTried done) ++ b.held = String.join parts

/-- The file after a report, whose line was taken or not. -/
def received (f : JsonLines) : Except SinkError Unit × Buffered → JsonLines
  | (.ok (), b) => { f with buffer := some b }
  | (.error e, b) => { f.remember e with buffer := some b }

/-- An open file writes the report, and remembers how this went. -/
theorem receive_eq {ω : Type} (write : LineWriter ω) {f : JsonLines} {b : Buffered}
    (hbuffer : f.buffer = some b) (r : TestReport) :
    receive write f r = writeReport write b r >>= fun written => pure (f.received written) := by
  rw [receive, hbuffer]
  refine bind_congr fun written => ?_
  obtain ⟨answer, b'⟩ := written
  cases answer <;> rfl

/-- A report is answered when its line has been taken or not. -/
theorem recorder_receive_eq {ω : Type} (d : Device String ω) {f : JsonLines} {b : Buffered}
    (hbuffer : f.buffer = some b) (r : TestReport) : recorder.receive d f r =
      writeReport d b r >>= fun written => pure (.ok (), f.received written) := by
  have hanswer : recorder.receive d f r = receive d f r >>= fun f => pure (.ok (), f) := rfl
  rw [hanswer, receive_eq d hbuffer, bind_assoc]
  exact bind_congr fun written => pure_bind _ _

/-- The first error is kept. -/
theorem error_received (f : JsonLines) (written : Except SinkError Unit × Buffered) :
    (f.received written).error = f.error.or (errorOf written.1) := by
  obtain ⟨answer, b⟩ := written
  cases answer with
  | ok u => exact Option.or_none.symm
  | error e => cases h : f.error <;> simp [received, remember, errorOf, h]

theorem buffer_received (f : JsonLines) (written : Except SinkError Unit × Buffered) :
    (f.received written).buffer = some written.2 := by
  obtain ⟨answer, b⟩ := written
  cases answer <;> rfl

/-- A file takes what is given for every report, and holds back what it has not written. -/
theorem recorder_keeps : recorder.Keeps Holding Required where
  start := ⟨⟨List.forall_mem_nil _, List.forall_mem_nil _, .empty, [], rfl, .nil, rfl⟩, rfl⟩
  receive := by
    rintro ω d done f r w ⟨hanswers, hflaws, b, parts, hbuffer, hparts, hheld⟩
    obtain ⟨tried, part, answer, hnotes, htakes, hrel⟩ := writeReport_takes d b r w
    have hreceive := fun {ω : Type} (d : Device String ω) => recorder_receive_eq d hbuffer r
    have hstate : (recorder.receive d f r w).1.2 = f.received (writeReport d b r w).1 := by
      rw [hreceive]
      rfl
    have htold : Attempt.Told ⟨r, .ok (), tried, r.flaw?, errorOf (writeReport d b r w).1.1⟩ := by
      refine ⟨?_, nofun⟩
      rw [Attempt.failure, htakes.failure]
      exact hrel
    refine ⟨_, rfl, htold, ?_, ?_, ?_, ?_⟩
    · rw [hreceive]
      rfl
    · rw [hreceive, hreceive]
      exact hnotes.bind_pure _
    · rw [hstate]
      exact error_received f _
    · rw [hstate]
      refine ⟨?_, ?_, _, parts ++ [part], buffer_received f _, ?_, ?_⟩
      · exact List.forall_mem_append.mpr ⟨hanswers, List.forall_mem_singleton.mpr rfl⟩
      · exact List.forall_mem_append.mpr ⟨hflaws, List.forall_mem_singleton.mpr rfl⟩
      · refine List.rel_append hparts (.cons ⟨htakes.front, fun hnone => htakes.whole ?_⟩ .nil)
        rw [← errorOf_eq_none, ← htakes.failure]
        exact hnone
      · rw [callsTried_append, textWritten_append, String.append_assoc, htakes.kept,
          ← String.append_assoc, hheld, String.join_append, String.join_cons, String.join_nil,
          String.append_empty]
  finalize := by
    rintro ω d done f w ⟨hanswers, hflaws, b, parts, hbuffer, hparts, hheld⟩ herror
    have hremembered : f.error = firstError done := herror
    obtain ⟨tried, hnotes, htakes, hempty⟩ := Buffered.flush_takes d b w
    show ∃ closing, Notes (finalize d.watched f) (finalize d f) w closing ∧
      (finalize d f w).1.1 = settled done closing ∧ Required done closing
    rw [finalize, finalize, hbuffer]
    dsimp only
    rw [bind_apply]
    cases hflush : Buffered.flush d b w with
    | mk result w' =>
      obtain ⟨answer, b'⟩ := result
      rw [hflush] at htakes hempty
      have hfailure := htakes.failure
      cases answer with
      | error e =>
        -- The one more try comes behind the failure, so it is not the first failure whatever it
        -- does.
        obtain ⟨more, hnotes', -, -⟩ := Buffered.flush_takes d b' w'
        have hlast : firstFailure (tried ++ more) = some e := by
          rw [firstFailure_append, hfailure]
          rfl
        refine ⟨tried ++ more, hnotes.bind_of hflush (hnotes'.bind_pure _), ?_, hanswers, hflaws,
          parts, hparts, ?_⟩
        · rw [settled, hlast]
          rfl
        · intro hnone
          rw [hlast] at hnone
          cases hnone
      | ok u =>
        refine ⟨tried ++ [], hnotes.bind_of hflush ?_, ?_, hanswers, hflaws, parts, hparts,
          fun _ => ?_⟩
        · cases f.error <;> exact .pure _ _
        · rw [List.append_nil, settled, hfailure, ← hremembered]
          cases f.error <;> rfl
        · -- Nothing is held back any more, so what was held back has been written.
          have hkept := htakes.kept
          rw [hempty rfl, String.append_empty] at hkept
          have hwritten : textWritten tried = b.held := String.append_empty.symm.trans hkept
          rw [List.append_nil, textWritten_append, hwritten, hheld]

end JsonLines

/-! ## All sinks -/

/-- No sink loses a report silently.  Whatever fails, a console, a file of JSON lines and a
directory of results make an attempt for every report, whether an earlier one has failed or not; in
the end they return success if and only if no call to the device has failed and every report had a
document, and otherwise why their last calls failed, or else the first error that they have met.

Nothing is tried for a report only if its receipt panics, and it panics only in these cases: a
console cannot add the duration of the report to those that it has added before, or the test of the
report ends behind the calendar, which a directory of results cannot express. -/
theorem failures_are_accounted_for :
    Console.recorder.Accounts Console.Required ∧ JsonLines.recorder.Accounts JsonLines.Required ∧
    ∀ (suite : String) (fresh : Nat → Uuid) (now : Instant),
      (Allure.recorder suite fresh now).Accounts (Allure.Required suite fresh now) :=
  ⟨Console.recorder_keeps.accounts, JsonLines.recorder_keeps.accounts,
    fun suite fresh now => (Allure.recorder_keeps suite fresh now).accounts⟩

end Assay
