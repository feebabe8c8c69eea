import Assay.Check.Assertions
import Assay.Proofs.Recorded
import Assay.Proofs.Refusals
import Assay.Proofs.Routes

/-
  Assertions that are malformed.

  An assertion is malformed if its pattern cannot be compiled, if its path does not start at the
  root or has an index that is not read, or if its operator is not for lengths
  (`Assertion.Malformed`).  Such an assertion never holds.  But whether it ends the check depends on
  the response: the pattern for a header is only compiled once the header is there, and a path is
  only refused by a document that leads up to what is wrong with it.  Where nothing shows of it, a
  malformed assertion fails like one that does not hold.

  `Assertion.Faults` says when it shows, and `Assertion.Guarded` for which assertions something in a
  response stands in front of what is wrong.  The theorem of this module says that an assertion is
  an error exactly if it faults, and that the guarded ones are just those for which this depends on
  the response.

  1. Paths.  `Json.unread` are the steps in front of the first index that is not read.  A query
     refuses the index if the document leads there, and finds nothing if it does not
     (`querySegments_unread`); so a query ends with an error exactly on the documents that are
     refused (`query_error_iff`), and nothing is ever found under a bad path
     (`query_ne_found_of_badPath`).

  2. Documents that are refused.  For the second half one needs a response on which a fault shows.
     `Json.along` is the document in which some steps lead to a null, and it is read back from its
     text as long as it is not nested too deep (`parse_along`); this is where `Reachable` comes
     from.

  3. Errors.  Each kind of assertion is an error exactly if it faults (`evaluate_error_iff_faults`,
     by cases on the assertion).

  4. Assertions that hold.  No malformed one does (`evaluate_ne_ok_none`).

  The engine for patterns is a parameter.  The last theorem is about the one in use and the pattern
  `(`.
-/

namespace Assay

namespace Json

/-! ## Where a query meets an index that is not read -/

/-- The step to the value under the name of a segment; without a name there is none. -/
def nameSteps (name : List Char) : List Step :=
  if name.isEmpty then [] else [.member (String.ofList name)]

/-- The step of a name leads to the value under it. -/
theorem follow_nameSteps (v : Json) (name : List Char) :
    v.follow (nameSteps name) = v.named name := by
  rw [nameSteps, named]
  split
  · rfl
  · exact follow_singleton v _

/-- The steps in front of the first index that is not read, if there is one in front of the first
star. -/
def unread : List Segment → Option (List Step)
  | [] => none
  | ⟨name, none⟩ :: rest => (unread rest).map fun steps => nameSteps name ++ steps
  | ⟨name, some index⟩ :: rest =>
    if index = ['*'] then none
    else match readIndex index with
      | none => some (nameSteps name)
      | some i => (unread rest).map fun steps => nameSteps name ++ .item i :: steps

variable {path : String} {v w : Json} {segs : List Segment} {steps : List Step}

/-- There is no such index exactly if the segments are readable. -/
theorem unread_eq_none_iff : unread segs = none ↔ readable segs = true := by
  induction segs with
  | nil => exact iff_of_true rfl rfl
  | cons seg rest ih =>
    obtain ⟨name, index⟩ := seg
    cases index with
    | none => rw [unread, Option.map_eq_none_iff, ih, readable]
    | some index =>
      rw [unread, readable]
      by_cases hstar : index = ['*']
      · rw [hstar]
        exact iff_of_true rfl rfl
      · rw [if_neg hstar, beq_false_of_ne hstar, Bool.false_or]
        cases readIndex index with
        | none => exact iff_of_false (by rintro ⟨⟩) (by rintro ⟨⟩)
        | some i => rw [Option.map_eq_none_iff, ih, Option.isSome_some, Bool.true_and]

/-- A query refuses the index if the document leads there, and finds nothing if it does not.
Induction on the segments. -/
theorem querySegments_unread (path : String) (h : unread segs = some steps) :
    ∃ err, ∀ v, querySegments path v segs =
      match v.follow steps with
      | none => .ok none
      | some _ => .error err := by
  induction segs generalizing steps with
  | nil => cases h
  | cons seg rest ih =>
    obtain ⟨name, index⟩ := seg
    cases index with
    | none =>
      obtain ⟨more, hmore, rfl⟩ := Option.map_eq_some_iff.mp h
      obtain ⟨err, herr⟩ := ih hmore
      refine ⟨err, fun v => ?_⟩
      rw [follow_append, follow_nameSteps]
      cases hnamed : v.named name with
      | none => exact querySegments_of_unnamed _ hnamed
      | some w => rw [querySegments_name hnamed, herr, Option.bind_some]
    | some index =>
      rw [unread] at h
      split at h
      · cases h
      · next hstar =>
        cases hread : readIndex index with
        | none =>
          rw [hread] at h
          cases h
          refine ⟨.invalidIndex (String.ofList index) path, fun v => ?_⟩
          rw [follow_nameSteps]
          cases hnamed : v.named name with
          | none => exact querySegments_of_unnamed _ hnamed
          | some w => rw [querySegments_index hnamed hstar, hread]
        | some i =>
          rw [hread] at h
          obtain ⟨more, hmore, rfl⟩ := Option.map_eq_some_iff.mp h
          obtain ⟨err, herr⟩ := ih hmore
          refine ⟨err, fun v => ?_⟩
          rw [follow_append, follow_nameSteps]
          cases hnamed : v.named name with
          | none => exact querySegments_of_unnamed _ hnamed
          | some w =>
            rw [querySegments_index hnamed hstar, hread, Option.bind_some, follow]
            dsimp only [step?]
            cases w.item? i with
            | none => rfl
            | some u => exact herr u

/-! ## Paths that are malformed -/

/-- The path does not start at the root, or it has an index that is not read. -/
def BadPath (path : String) : Prop := TestCase.isRooted path = false ∨ readablePath path = false

/-- The steps of a path in front of the first index that is not read. -/
def unreadPath (path : String) : Option (List Step) :=
  unread (segments (Text.trimBoth path.toList).tail)

/-- The document is refused: the path does not start at the root, or the document leads to an index
of it that is not read. -/
def Refuses (path : String) (v : Json) : Prop :=
  TestCase.isRooted path = false ∨ ∃ steps w, unreadPath path = some steps ∧ v.Leads steps w

/-- A path that does not start at the root is refused. -/
theorem query_of_unrooted (h : TestCase.isRooted path = false) (v : Json) :
    v.query path = .error (.missingRoot (Text.trim path)) := by
  rw [query]
  split
  · next rest hrest =>
    -- What trimming at the end leaves starts like what it was given.
    rw [TestCase.isRooted, decide_eq_false_iff_not] at h
    cases hleft : Text.trimLeft path.toList with
    | nil =>
      rw [Text.trimBoth, hleft] at hrest
      cases hrest
    | cons c front =>
      rw [Text.trimBoth, hleft, Text.trimRight_cons (Text.head_trimLeft hleft)] at hrest
      cases hrest
      rw [hleft] at h
      exact absurd rfl h
  · rfl

/-- A path from the root with an index that is not read is refused if the document leads there; if
it does not, nothing is found. -/
theorem query_of_unread (hrooted : TestCase.isRooted path = true)
    (h : unreadPath path = some steps) :
    ∃ err, ∀ v : Json, v.query path =
      match v.follow steps with
      | none => .ok none
      | some _ => .error err := by
  obtain ⟨err, herr⟩ := querySegments_unread (Text.trim path) h
  exact ⟨err, fun v => (query_of_root (root_of_isRooted hrooted) v).trans (herr v)⟩

/-- A path that is read as far as a query can come is never refused. -/
theorem query_ne_error (hrooted : TestCase.isRooted path = true) (h : unreadPath path = none)
    (v : Json) (err : PathError) : v.query path ≠ .error err := by
  intro hquery
  have hreadable : readablePath path = false := (refused_iff hrooted).2.mp ⟨v, err, hquery⟩
  rw [readablePath, unread_eq_none_iff.mp h] at hreadable
  cases hreadable

/-- A query ends with an error exactly on the documents that are refused. -/
theorem query_error_iff (v : Json) : (∃ err, v.query path = .error err) ↔ Refuses path v := by
  cases hrooted : TestCase.isRooted path with
  | false => exact iff_of_true ⟨_, query_of_unrooted hrooted v⟩ (.inl hrooted)
  | true =>
    have hrefuses : Refuses path v ↔ ∃ steps w, unreadPath path = some steps ∧ v.Leads steps w :=
      or_iff_right (by rw [hrooted]; exact Bool.false_ne_true.symm)
    rw [hrefuses]
    cases hunread : unreadPath path with
    | none =>
      refine iff_of_false (not_exists.mpr fun err => query_ne_error hrooted hunread v err) ?_
      rintro ⟨_, _, ⟨⟩, _⟩
    | some steps =>
      obtain ⟨err, herr⟩ := query_of_unread hrooted hunread
      rw [herr v]
      constructor
      · rintro ⟨_, h⟩
        cases hfollow : v.follow steps with
        | none =>
          rw [hfollow] at h
          cases h
        | some w => exact ⟨steps, w, rfl, follow_eq_some_iff.mp hfollow⟩
      · rintro ⟨_, w, ⟨⟩, hleads⟩
        rw [follow_eq_some_iff.mpr hleads]
        exact ⟨err, rfl⟩

/-- A path is bad if it does not start at the root, or if there are steps in front of an index that
is not read. -/
theorem badPath_iff :
    BadPath path ↔ TestCase.isRooted path = false ∨ ∃ steps, unreadPath path = some steps := by
  rw [BadPath, readablePath, ← Bool.not_eq_true (readable _), ← unread_eq_none_iff]
  exact or_congr_right Option.ne_none_iff_exists'

/-- A path by which a document is refused is malformed. -/
theorem badPath_of_refuses (h : Refuses path v) : BadPath path := by
  obtain hunrooted | ⟨steps, w, hsteps, -⟩ := h
  · exact .inl hunrooted
  · exact badPath_iff.mpr (.inr ⟨steps, hsteps⟩)

/-- Nothing is found under a malformed path. -/
theorem query_ne_found_of_badPath (h : BadPath path) (v w : Json) :
    v.query path ≠ .ok (some w) := by
  cases hrooted : TestCase.isRooted path with
  | false =>
    rw [query_of_unrooted hrooted]
    rintro ⟨⟩
  | true =>
    obtain ⟨steps, hsteps⟩ :=
      (badPath_iff.mp h).resolve_left (by rw [hrooted]; exact Bool.false_ne_true.symm)
    obtain ⟨err, herr⟩ := query_of_unread hrooted hsteps
    rw [herr v]
    split <;> rintro ⟨⟩

/-! ## Documents that are refused -/

/-- What holds of a null and of the last item holds of all items. -/
theorem forall_mem_shift {P : Json → Prop} {i : Nat} (hnull : P .null) (hv : P v) :
    ∀ u ∈ List.replicate i Json.null ++ [v], P u := by
  rw [List.forall_mem_append, List.forall_mem_singleton]
  exact ⟨fun u hu => List.eq_of_mem_replicate hu ▸ hnull, hv⟩

/-- The document in which some steps lead to a null. -/
def along : List Step → Json
  | [] => .null
  | .member key :: rest => .object [(key, along rest)]
  | .item i :: rest => shift i (along rest)

/-- The document leads along the steps. -/
theorem leads_along (steps : List Step) : (along steps).Leads steps .null := by
  induction steps with
  | nil => exact .here _
  | cons s rest ih =>
    cases s with
    | member key => exact .member (if_pos rfl) ih
    | item i => exact .item (item_shift i (along rest)) ih

/-- The document is ordered. -/
theorem ordered_along (steps : List Step) : (along steps).Ordered := by
  induction steps with
  | nil => trivial
  | cons s rest ih =>
    cases s with
    | member key => exact ⟨List.pairwise_singleton _ _, ih, trivial⟩
    | item i =>
      rw [along, shift, Ordered, orderedItems_iff]
      exact forall_mem_shift trivial ih

/-- The document is nested as deep as there are steps. -/
theorem readable_along {depth : Nat} (h : steps.length ≤ depth) : (along steps).Readable depth := by
  induction steps generalizing depth with
  | nil => cases depth <;> trivial
  | cons s rest ih =>
    cases depth with
    | zero => cases h
    | succ depth =>
      have hrest : (along rest).Readable depth := ih (Nat.le_of_succ_le_succ h)
      cases s with
      | member key => exact ⟨hrest, trivial⟩
      | item i =>
        have hnull : Json.null.Readable depth := by cases depth <;> trivial
        rw [along, shift, Readable, readableItems_iff]
        exact forall_mem_shift hnull hrest

/-- The text of the document is read back. -/
theorem parse_along (h : steps.length ≤ depthLimit) :
    parse (along steps).compact = .ok (along steps) :=
  (parse_compact (readable_along h)).trans (congrArg _ (arranged_of_ordered (ordered_along steps)))

end Json

open Check.Assertions (evaluate failure placeOf)

namespace Assertion

/-! ## Malformed assertions -/

/-- The assertion is malformed: one of its patterns cannot be compiled, its path is malformed, or
its operator is not for lengths. -/
inductive Malformed [PatternEngine] : Assertion → Prop where
  | headerPattern {name pattern : String} {e : Regex.Error} :
      PatternEngine.compile pattern = .error e → Malformed (.headerMatches name pattern)
  | bodyPattern {pattern : String} {e : Regex.Error} :
      PatternEngine.compile pattern = .error e → Malformed (.bodyMatches pattern)
  | path {a : Assertion} {path : String} : placeOf a = some path → Json.BadPath path → Malformed a
  | operand {path pattern : String} {e : Regex.Error} :
      PatternEngine.compile pattern = .error e →
      Malformed (.jsonPathMatches path .matchesPattern (.string pattern))
  | lengthOperator {o : Operator} {length : UInt64} :
      o = .contains ∨ o = .matchesPattern → Malformed (.bodyLength o length)

/-- The assertion is malformed, and something in a response stands in front of what is wrong with
it. -/
inductive Guarded [PatternEngine] : Assertion → Prop where
  | headerPattern {name pattern : String} {e : Regex.Error} :
      PatternEngine.compile pattern = .error e → Guarded (.headerMatches name pattern)
  | path {a : Assertion} {path : String} : placeOf a = some path → Json.BadPath path → Guarded a

/-- What is wrong with the assertion shows on the response: the header is there, or the body is a
document that is refused. -/
inductive Faults [PatternEngine] : Assertion → Response → Prop where
  | headerPattern {name pattern actual : String} {e : Regex.Error} {r : Response} :
      PatternEngine.compile pattern = .error e → r.header? name = some actual →
      Faults (.headerMatches name pattern) r
  | bodyPattern {pattern : String} {e : Regex.Error} {r : Response} :
      PatternEngine.compile pattern = .error e → Faults (.bodyMatches pattern) r
  | path {a : Assertion} {path : String} {r : Response} {document : Json} :
      placeOf a = some path → r.json? = some document → Json.Refuses path document → Faults a r
  | lengthOperator {o : Operator} {length : UInt64} {r : Response} :
      o = .contains ∨ o = .matchesPattern → Faults (.bodyLength o length) r

/-- An assertion with something in front of what is wrong with it is malformed. -/
theorem Guarded.malformed [PatternEngine] {a : Assertion} (h : a.Guarded) : a.Malformed := by
  cases h with
  | headerPattern he => exact .headerPattern he
  | path hplace hbad => exact .path hplace hbad

/-- An assertion of which something shows is malformed. -/
theorem malformed_of_faults [PatternEngine] {a : Assertion} {r : Response}
    (h : a.Faults r) : a.Malformed := by
  cases h with
  | headerPattern he => exact .headerPattern he
  | bodyPattern he => exact .bodyPattern he
  | path hplace _ hrefuses => exact .path hplace (Json.badPath_of_refuses hrefuses)
  | lengthOperator ho => exact .lengthOperator ho

end Assertion

namespace Check.Assertions

variable {a : Assertion} {r : Response} {path pattern : String}

/-! ## Looking under a path -/

/-- Looking under a path is an error exactly if the body is a document that is refused. -/
theorem evaluatePath_error_iff (test : Json → Option String) :
    (∃ e, evaluatePath r path test = .error e) ↔
      ∃ document, r.json? = some document ∧ Json.Refuses path document := by
  rw [evaluatePath]
  cases r.json? with
  | none => exact iff_of_false (by rintro ⟨_, ⟨⟩⟩) (by rintro ⟨_, ⟨⟩, _⟩)
  | some document =>
    simp only [Option.some.injEq, exists_eq_left', ← Json.query_error_iff]
    cases document.query path with
    | error err => exact iff_of_true ⟨_, rfl⟩ ⟨err, rfl⟩
    | ok found => cases found <;> exact iff_of_false (by rintro ⟨_, ⟨⟩⟩) (by rintro ⟨_, ⟨⟩⟩)

/-- An assertion about the value under a path holds exactly if there is such a value, and nothing is
said against it. -/
theorem evaluatePath_ok_none_iff {test : Json → Option String} :
    evaluatePath r path test = .ok none ↔
    ∃ document v, r.json? = some document ∧ document.query path = .ok (some v) ∧ test v = none := by
  rw [evaluatePath]
  cases r.json? with
  | none => exact iff_of_false (by rintro ⟨⟩) (by rintro ⟨_, _, ⟨⟩, _⟩)
  | some document =>
    simp only [Option.some.injEq, exists_and_left, exists_eq_left']
    cases document.query path with
    | error err => exact iff_of_false (by rintro ⟨⟩) (by rintro ⟨_, ⟨⟩, _⟩)
    | ok found =>
      cases found with
      | none => exact iff_of_false (by rintro ⟨⟩) (by rintro ⟨_, ⟨⟩, _⟩)
      | some v => simp

/-- Documents can be nested as deep as the path of the assertion leads in front of an index that is
not read. -/
def Reachable (a : Assertion) : Prop :=
  ∀ path ∈ placeOf a, ∀ steps ∈ Json.unreadPath path, steps.length ≤ Json.depthLimit

/-- A response with some headers and a body. -/
def responseWith (headers : Dict String) (body : String) : Response :=
  ⟨200, "OK", headers, body, ⟨0⟩⟩

section Engine

variable [PatternEngine]

/-! ## Errors -/

/-- Evaluating ends with an error exactly if the search for a failure does. -/
theorem evaluate_error_iff : (∃ e, evaluate a r = .error e) ↔ ∃ e, failure a r = .error e := by
  rw [evaluate]
  cases failure a r with
  | error e => exact iff_of_true ⟨e, rfl⟩ ⟨e, rfl⟩
  | ok m => exact iff_of_false (by rintro ⟨_, ⟨⟩⟩) (by rintro ⟨_, ⟨⟩⟩)

/-- An assertion holds exactly if there is no failure. -/
theorem evaluate_ok_none_iff : evaluate a r = .ok none ↔ failure a r = .ok none := by
  rw [evaluate]
  cases failure a r with
  | error e => exact iff_of_false (by rintro ⟨⟩) (by rintro ⟨⟩)
  | ok m => cases m <;> exact iff_of_eq (by simp [Except.map])

/-- A pattern is an error exactly if it cannot be compiled, whatever the text. -/
theorem testPatternOf_error_iff {β : Type} (text : String) (f : Bool → β) :
    (∃ e, (testPatternOf pattern text).map f = .error e) ↔
      ∃ e, PatternEngine.compile pattern = .error e := by
  rw [testPatternOf, testPattern]
  cases PatternEngine.compile pattern with
  | error e => exact iff_of_true ⟨_, rfl⟩ ⟨e, rfl⟩
  | ok re => exact iff_of_false (by rintro ⟨_, ⟨⟩⟩) (by rintro ⟨_, ⟨⟩⟩)

/-- An assertion about the value under a path is an error exactly if the body is a document that is
refused. -/
theorem faults_iff_of_place (h : placeOf a = some path) :
    a.Faults r ↔ ∃ document, r.json? = some document ∧ Json.Refuses path document := by
  constructor
  · intro hfaults
    cases hfaults with
    | path hplace hjson hrefuses =>
      cases h.symm.trans hplace
      exact ⟨_, hjson, hrefuses⟩
    | headerPattern => cases h
    | bodyPattern => cases h
    | lengthOperator => cases h
  · rintro ⟨document, hjson, hrefuses⟩
    exact .path h hjson hrefuses

/-- The assertion is an error exactly if what is wrong with it shows. -/
theorem evaluate_error_iff_faults : (∃ e, evaluate a r = .error e) ↔ a.Faults r := by
  rw [evaluate_error_iff]
  cases a with
  | headerMatches name pattern =>
    rw [failure]
    cases hheader : r.header? name with
    | none =>
      refine iff_of_false (by rintro ⟨_, ⟨⟩⟩) fun h => ?_
      cases h with
      | headerPattern _ hactual => cases hheader.symm.trans hactual
      | path hplace => cases hplace
    | some actual =>
      refine (testPatternOf_error_iff actual _).trans ⟨?_, fun h => ?_⟩
      · rintro ⟨e, he⟩
        exact .headerPattern he hheader
      · cases h with
        | headerPattern he => exact ⟨_, he⟩
        | path hplace => cases hplace
  | bodyMatches pattern =>
    refine (testPatternOf_error_iff r.body _).trans ⟨?_, fun h => ?_⟩
    · rintro ⟨e, he⟩
      exact .bodyPattern he
    · cases h with
      | bodyPattern he => exact ⟨_, he⟩
      | path hplace => cases hplace
  | jsonPath path expected =>
    rw [faults_iff_of_place rfl]
    exact evaluatePath_error_iff _
  | jsonPathMatches path o value =>
    rw [faults_iff_of_place rfl]
    exact evaluatePath_error_iff _
  | bodyLength o length =>
    -- Two of the operators are not for lengths, whatever the body.
    have hfaults : (Assertion.bodyLength o length).Faults r ↔ o = .contains ∨
      o = .matchesPattern := by
      refine ⟨fun h => ?_, .lengthOperator⟩
      cases h with
      | lengthOperator ho => exact ho
      | path hplace => cases hplace
    rw [hfaults]
    cases o with
    | contains => exact iff_of_true ⟨_, rfl⟩ (.inl rfl)
    | matchesPattern => exact iff_of_true ⟨_, rfl⟩ (.inr rfl)
    | _ => exact iff_of_false (by rintro ⟨_, ⟨⟩⟩) (by decide)
  | _ =>
    refine iff_of_false (by rintro ⟨_, ⟨⟩⟩) fun h => ?_
    cases h with
    | path hplace => cases hplace

/-! ## Assertions that hold -/

/-- A pattern that cannot be compiled is matched by no value. -/
theorem matchesValue_of_compile_error {e : Regex.Error}
    (h : PatternEngine.compile pattern = .error e) (v : Json) :
    matchesValue v (.string pattern) = false := by
  cases v with
  | string s =>
    rw [matchesValue, testPattern, h]
    rfl
  | _ => rfl

/-- A malformed assertion holds for no response. -/
theorem evaluate_ne_ok_none (h : a.Malformed) : evaluate a r ≠ .ok none := by
  rw [ne_eq, evaluate_ok_none_iff]
  cases h with
  | @headerPattern name pattern e he =>
    rw [failure]
    cases r.header? name with
    | none => rintro ⟨⟩
    | some actual =>
      obtain ⟨err, herr⟩ := (testPatternOf_error_iff actual _).mpr ⟨e, he⟩
      intro hholds
      cases herr.symm.trans hholds
  | @bodyPattern pattern e he =>
    obtain ⟨err, herr⟩ := (testPatternOf_error_iff r.body _).mpr ⟨e, he⟩
    intro hholds
    cases herr.symm.trans hholds
  | path hplace hbad =>
    cases a with
    | jsonPath | jsonPathMatches =>
      cases hplace
      rw [failure, evaluatePath_ok_none_iff]
      rintro ⟨document, v, -, hquery, -⟩
      exact Json.query_ne_found_of_badPath hbad document v hquery
    | _ => cases hplace
  | @operand path pattern e he =>
    -- Here the pattern is no error, but what it is compared with does not match it.
    rw [failure, evaluatePath_ok_none_iff]
    rintro ⟨document, v, -, -, htest⟩
    rw [compareValues, matchesValue_of_compile_error he] at htest
    cases htest
  | lengthOperator ho => rcases ho with rfl | rfl <;> rintro ⟨⟩

/-! ## Responses on which it shows -/

/-- On an empty response nothing shows that something stands in front of. -/
theorem not_faults_of_guarded (h : a.Guarded) : ¬a.Faults (responseWith .empty "") := by
  have hbody : (responseWith .empty "").json? = none := by decide +kernel
  cases h with
  | headerPattern =>
    intro hfaults
    cases hfaults with
    | headerPattern _ hactual => cases hactual
    | path hplace => cases hplace
  | path hplace =>
    rw [faults_iff_of_place hplace, hbody]
    rintro ⟨_, ⟨⟩, _⟩

/-- Whatever is wrong with an assertion behind something in a response shows on some response. -/
theorem exists_faults_of_guarded (h : a.Guarded) (hreachable : Reachable a) : ∃ r, a.Faults r := by
  cases h with
  | @headerPattern name pattern e he =>
    have hheader : (responseWith (Dict.empty.insert name "") "").header? name = some "" := by
      rw [Response.header?]
      show Option.map Prod.snd (List.find? _ [(name, "")]) = some ""
      rw [List.find?_cons_of_pos (by rw [Text.alike]; exact beq_self_eq_true _)]
      rfl
    exact ⟨_, .headerPattern he hheader⟩
  | @path a path hplace hbad =>
    suffices ∃ document, Json.Refuses path document ∧ Json.parse document.compact = .ok document by
      obtain ⟨document, hrefuses, hparse⟩ := this
      exact ⟨responseWith .empty document.compact,
        .path hplace (Check.Body.json?_eq_some_iff.mpr hparse) hrefuses⟩
    -- Without a root any document is refused, and with an index that is not read the one that leads
    -- there.
    rcases Json.badPath_iff.mp hbad with hunrooted | ⟨steps, hsteps⟩
    · exact ⟨Json.along [], .inl hunrooted, Json.parse_along (Nat.zero_le _)⟩
    · exact ⟨Json.along steps, .inr ⟨steps, .null, hsteps, Json.leads_along steps⟩,
        Json.parse_along (hreachable path hplace steps hsteps)⟩

/-! ## Whether an assertion is an error -/

/-- If nothing in a response stands in front of what is wrong with an assertion, then what shows on
one response shows on every other one. -/
theorem faults_of_not_guarded (h : ¬a.Guarded) (r r' : Response) (hfaults : a.Faults r) :
    a.Faults r' := by
  cases hfaults with
  | headerPattern he => exact absurd (.headerPattern he) h
  | bodyPattern he => exact .bodyPattern he
  | path hplace _ hrefuses => exact absurd (.path hplace (Json.badPath_of_refuses hrefuses)) h
  | lengthOperator ho => exact .lengthOperator ho

/-- A malformed assertion fails where nothing shows of what is wrong with it. -/
theorem exists_diagnostic_of_not_faults (h : a.Malformed) (hfaults : ¬a.Faults r) :
    ∃ d, evaluate a r = .ok (some d) := by
  cases hevaluate : evaluate a r with
  | error e => exact absurd (evaluate_error_iff_faults.mp ⟨e, hevaluate⟩) hfaults
  | ok found =>
    cases found with
    | none => exact absurd hevaluate (evaluate_ne_ok_none h)
    | some d => exact ⟨d, rfl⟩

/-- Malformed assertions.  An assertion is an error exactly if what is wrong with it shows on the
response, and what shows is that it is malformed.  Where nothing shows of it, a malformed assertion
fails like one that does not hold, so it never holds.  Whether an assertion is an error does not
depend on the response, unless something in the response stands in front of what is wrong with it.
In that case there is a response on which it only fails, and, if documents can be nested as deep as
its path leads, one on which it is an error. -/
theorem malformed_assertions_never_hold (a : Assertion) :
    (∀ r, (∃ e, evaluate a r = .error e) ↔ a.Faults r) ∧
    (∀ r, a.Faults r → a.Malformed) ∧
    (a.Malformed → ∀ r, ¬a.Faults r → ∃ d, evaluate a r = .ok (some d)) ∧
    (¬a.Guarded → ∀ r r', (∃ e, evaluate a r = .error e) ↔ ∃ e, evaluate a r' = .error e) ∧
    (a.Guarded → (∃ r d, evaluate a r = .ok (some d)) ∧
      (Reachable a → ∃ r e, evaluate a r = .error e)) := by
  refine ⟨fun r => evaluate_error_iff_faults, fun r => Assertion.malformed_of_faults,
    fun h r => exists_diagnostic_of_not_faults h, fun h r r' => ?_,
    fun h => ⟨?_, fun hreachable => ?_⟩⟩
  · rw [evaluate_error_iff_faults, evaluate_error_iff_faults]
    exact ⟨faults_of_not_guarded h r r', faults_of_not_guarded h r' r⟩
  · exact ⟨_, exists_diagnostic_of_not_faults h.malformed (not_faults_of_guarded h)⟩
  · obtain ⟨r, hr⟩ := exists_faults_of_guarded h hreachable
    exact ⟨r, evaluate_error_iff_faults.mpr hr⟩

end Engine

/-- The pattern cannot be compiled, which shows on a response with the header only. -/
theorem bad_pattern_is_overlooked_without_the_header :
    (∃ e, evaluate (.headerMatches "X-Trace" "(")
      (responseWith (Dict.empty.insert "X-Trace" "1") "") = .error e) ∧
    ∃ d, evaluate (.headerMatches "X-Trace" "(") (responseWith .empty "") = .ok (some d) :=
  ⟨⟨_, rfl⟩, _, rfl⟩

end Check.Assertions

end Assay
