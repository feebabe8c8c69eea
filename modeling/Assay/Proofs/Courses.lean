import Assay.Proofs.Malformed

/-
  How far a query comes.

  A query goes along the course of its path: the names and indices in front of the first star, or of
  the first index that is not read (`Json.course`).  If the document does not lead along the course,
  nothing is found, be the path well formed or not.  If it does, the query ends with the value
  there, or with an error for the index.

  So a malformed path is told from a missing value only by documents that lead up to what is wrong
  with it.  A path from the root with an index that is not read is refused on some documents and
  found absent on others, unless the index stands at the root (`Json.Hidden`).  The theorem of this
  module characterises the three answers of a query for every path and every document, and says
  which paths are refused on some documents only.

  1. The course.  In front of an index that is not read it ends (`course_of_unread`), and what is
     wrong is met there and nowhere else; without such an index the query finds what the course
     leads to (`querySegments_of_read`, by induction on the segments).

  2. The answers.  Nothing is found exactly if the document does not lead along the course
     (`query_ok_none_iff`).  All documents that are refused are refused with the same error, as it
     depends on the path alone (`query_error_unique`).

  3. Paths.  One that is `WellFormed` is refused on no document (`query_of_wellFormed`).  If no
     index is hidden, then all documents are refused or none is (`refuses_of_not_hidden`).  A hidden
     index is met on a document that is built along the course, and passed over on a null
     (`query_of_hidden`).
-/

namespace Assay

namespace Json

/-! ## The course of a path -/

/-- The steps in front of the first star or the first index that is not read. -/
def course : List Segment → List Step
  | [] => []
  | ⟨name, none⟩ :: rest => nameSteps name ++ course rest
  | ⟨name, some index⟩ :: rest =>
    if index = ['*'] then nameSteps name
    else match readIndex index with
      | none => nameSteps name
      | some i => nameSteps name ++ .item i :: course rest

variable {path : String} {v w : Json} {segs : List Segment} {steps : List Step}

/-- In front of an index that is not read the course ends. -/
theorem course_of_unread (h : unread segs = some steps) : course segs = steps := by
  induction segs generalizing steps with
  | nil => cases h
  | cons seg rest ih =>
    obtain ⟨name, index⟩ := seg
    cases index with
    | none =>
      obtain ⟨more, hmore, rfl⟩ := Option.map_eq_some_iff.mp h
      rw [course, ih hmore]
    | some index =>
      rw [unread] at h
      rw [course]
      by_cases hstar : index = ['*']
      · rw [if_pos hstar] at h
        cases h
      · rw [if_neg hstar] at h ⊢
        cases hread : readIndex index with
        | none =>
          rw [hread] at h
          exact Option.some.inj h
        | some i =>
          rw [hread] at h
          obtain ⟨more, hmore, rfl⟩ := Option.map_eq_some_iff.mp h
          dsimp only
          rw [ih hmore]

/-- Without such an index a query finds what the course leads to.  Induction on the segments. -/
theorem querySegments_of_read (path : String) (h : unread segs = none) (v : Json) :
    querySegments path v segs = .ok (v.follow (course segs)) := by
  induction segs generalizing v with
  | nil => rfl
  | cons seg rest ih =>
    obtain ⟨name, index⟩ := seg
    cases index with
    | none =>
      rw [unread, Option.map_eq_none_iff] at h
      rw [course, follow_append, follow_nameSteps]
      cases hnamed : v.named name with
      | none => exact querySegments_of_unnamed _ hnamed
      | some w => exact (querySegments_name hnamed).trans (ih h w)
    | some index =>
      rw [unread] at h
      rw [course]
      by_cases hstar : index = ['*']
      · rw [hstar, if_pos rfl, follow_nameSteps]
        exact querySegments_starred name rest
      · rw [if_neg hstar] at h ⊢
        cases hread : readIndex index with
        | none =>
          rw [hread] at h
          cases h
        | some i =>
          rw [hread] at h
          dsimp only
          rw [follow_append, follow_nameSteps]
          cases hnamed : v.named name with
          | none => exact querySegments_of_unnamed _ hnamed
          | some w =>
            rw [querySegments_index hnamed hstar, hread, Option.bind_some, follow]
            dsimp only [step?]
            cases w.item? i with
            | none => rfl
            | some u => exact ih (Option.map_eq_none_iff.mp h) u

/-! ## What a query ends with -/

/-- The course of what follows the root. -/
def coursePath (path : String) : List Step := course (segments (Text.trimBoth path.toList).tail)

/-- Nothing is found exactly if the document does not lead along the course; of a malformed path
this holds as of any other one from the root. -/
theorem query_ok_none_iff (v : Json) : v.query path = .ok none ↔
    TestCase.isRooted path = true ∧ ∀ w, ¬v.Leads (coursePath path) w := by
  cases hrooted : TestCase.isRooted path with
  | false =>
    rw [query_of_unrooted hrooted]
    exact iff_of_false (by rintro ⟨⟩) (by rintro ⟨⟨⟩, _⟩)
  | true =>
    have hleads : (∀ w, ¬v.Leads (coursePath path) w) ↔ v.follow (coursePath path) = none := by
      rw [Option.eq_none_iff_forall_ne_some]
      exact forall_congr' fun w => not_congr follow_eq_some_iff.symm
    rw [hleads, eq_self_iff_true, true_and]
    cases hunread : unreadPath path with
    | none =>
      rw [query_of_root (root_of_isRooted hrooted), querySegments_of_read _ hunread,
        Except.ok.injEq]
      rfl
    | some steps =>
      -- The course ends in front of the index, so who comes to its end meets the index.
      obtain ⟨err, herr⟩ := query_of_unread hrooted hunread
      rw [herr v, coursePath, course_of_unread hunread]
      cases v.follow steps with
      | none => exact iff_of_true rfl rfl
      | some w => exact iff_of_false (by rintro ⟨⟩) (by rintro ⟨⟩)

/-- All documents that are refused are refused with the same error. -/
theorem query_error_unique {err err' : PathError} (h : v.query path = .error err)
    (h' : w.query path = .error err') :
    err = err' := by
  cases hrooted : TestCase.isRooted path with
  | false =>
    rw [query_of_unrooted hrooted] at h h'
    exact (Except.error.inj h).symm.trans (Except.error.inj h')
  | true =>
    cases hunread : unreadPath path with
    | none => exact absurd h (query_ne_error hrooted hunread v err)
    | some steps =>
      obtain ⟨found, hfound⟩ := query_of_unread hrooted hunread
      rw [hfound] at h h'
      split at h
      · cases h
      · split at h'
        · cases h'
        · exact (Except.error.inj h).symm.trans (Except.error.inj h')

/-! ## Malformed paths that are found out or not -/

/-- The path starts at the root, and every index in it is a star or is read. -/
def WellFormed (path : String) : Prop :=
  TestCase.isRooted path = true ∧
    ∀ seg ∈ segments (Text.trimBoth path.toList).tail, ∀ index ∈ seg.index,
      index = ['*'] ∨ (readIndex index).isSome = true

/-- The first index that is not read stands behind a name or another index. -/
def Hidden (path : String) : Prop :=
  TestCase.isRooted path = true ∧ ∃ s steps, unreadPath path = some (s :: steps)

/-- If every index is a star or is read, there is none that is not read. -/
theorem unread_of_indices
    (h : ∀ seg ∈ segs, ∀ index ∈ seg.index, index = ['*'] ∨ (readIndex index).isSome = true) :
    unread segs = none := by
  induction segs with
  | nil => rfl
  | cons seg rest ih =>
    obtain ⟨name, index⟩ := seg
    obtain ⟨hindex, hrest⟩ := List.forall_mem_cons.mp h
    cases index with
    | none => rw [unread, ih hrest, Option.map_none]
    | some index =>
      rw [unread]
      split
      · rfl
      · next hstar =>
        obtain ⟨i, hread⟩ := Option.isSome_iff_exists.mp ((hindex index rfl).resolve_left hstar)
        rw [hread, ih hrest]
        rfl

/-- A path that is well formed is refused on no document. -/
theorem query_of_wellFormed (h : WellFormed path) (v : Json) :
    v.query path = .ok (v.follow (coursePath path)) :=
  (query_of_root (root_of_isRooted h.1) v).trans (querySegments_of_read _ (unread_of_indices h.2) v)

/-- If no index is hidden, all documents are refused or none is. -/
theorem refuses_of_not_hidden (h : ¬Hidden path) (hrefuses : Refuses path v) (w : Json) :
    Refuses path w := by
  obtain hunrooted | ⟨steps, u, hsteps, -⟩ := hrefuses
  · exact .inl hunrooted
  · cases hrooted : TestCase.isRooted path with
    | false => exact .inl hrooted
    | true =>
      cases steps with
      | nil => exact .inr ⟨[], w, hsteps, .here w⟩
      | cons s steps => exact absurd ⟨hrooted, s, steps, hsteps⟩ h

/-- A hidden index is met on some document, and not on a null. -/
theorem query_of_hidden (h : Hidden path) :
    query .null path = .ok none ∧ ∃ v err, v.Ordered ∧ query v path = .error err := by
  obtain ⟨hrooted, s, steps, hsteps⟩ := h
  refine ⟨(query_ok_none_iff _).mpr ⟨hrooted, fun w hleads => ?_⟩, ?_⟩
  · rw [coursePath, course_of_unread hsteps] at hleads
    cases hleads
  · obtain ⟨err, herr⟩ :=
      (query_error_iff (along (s :: steps))).mpr (.inr ⟨_, .null, hsteps, leads_along _⟩)
    exact ⟨_, err, ordered_along _, herr⟩

/-- Malformed paths and documents.  A query ends with an error exactly if the path does not start at
the root or the document leads to an index of it that is not read, and the error is the same for all
documents.  It finds nothing exactly if the path starts at the root and the document does not lead
along its course, up to that index.  So whether it ends with an error does not depend on the
document, but for paths in which the index is hidden: these are found absent on a null and malformed
on other documents.  A path that is well formed is refused on none. -/
theorem hidden_indices_are_refused_where_documents_lead (path : String) :
    (∀ v, (∃ err, query v path = .error err) ↔ Refuses path v) ∧
    (∀ v w err err', query v path = .error err → query w path = .error err' → err = err') ∧
    (∀ v, query v path = .ok none ↔ TestCase.isRooted path = true ∧
      ∀ w, ¬v.Leads (coursePath path) w) ∧
    (¬Hidden path → ∀ v w, (∃ err, query v path = .error err) ↔ ∃ err, query w path = .error err) ∧
    (Hidden path → query .null path = .ok none ∧ ∃ v err, v.Ordered ∧ query v path = .error err) ∧
    (WellFormed path → ∀ v, query v path = .ok (v.follow (coursePath path))) := by
  refine ⟨query_error_iff, fun v w err err' => query_error_unique, query_ok_none_iff,
    fun h v w => ?_,
    query_of_hidden, query_of_wellFormed⟩
  rw [query_error_iff, query_error_iff]
  exact ⟨fun hv => refuses_of_not_hidden h hv w, fun hw => refuses_of_not_hidden h hw v⟩

/-- An index that is no number, behind the name of a member: without the member it is not found
out. -/
theorem index_is_hidden_behind_missing_member :
    query (.object []) "$.items[x]" = .ok none ∧
    query (.object [("items", .array [])]) "$.items[x]" = .error (.invalidIndex "x" "$.items[x]") :=
  ⟨rfl, rfl⟩

end Json

end Assay
