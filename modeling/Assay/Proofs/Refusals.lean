import Assay.Proofs.Captures
import Assay.Proofs.Paths

/-
  Capture paths that are refused.

  Every test that is loaded has been validated, and validating it looks at the first character of
  each capture path only.  So no such path lacks its root when it is followed, but an index in it
  may be no number (`$.items[x]`), and then it depends on the document whether the path is refused:
  it is on some documents exactly if an index in front of the first star is not read
  (`Json.readablePath`).

  The theorem says this of every validated test and every capture of it, and so where the check at
  loading time falls short of the one that is made when the response has come.

  1. Segments.  Whatever is refused is refused for an index that is not read (`querySegments_error`,
     by induction on the segments).  The other way round a document has to be found on which a path
     is refused: what leads up to the index is put around a null, segment by segment (`wrap` for a
     name, `shift` for an index), and `exists_refused` is the induction.

  2. Paths from the root.  What validation takes for one is one (`root_of_isRooted`), as both trim
     the path first.  `refused_iff` is the result for a single path.

  3. Validated tests.  Their capture paths start at the root (`isRooted_of_validate`).

  The two theorems behind the main one are a test whose paths have no indices, of which none is ever
  refused, and a test that is valid and fails on its path although the body is a document.
-/

namespace Assay

namespace Json

/-! ## Segments that are never refused -/

/-- All indices in front of the first star are read. -/
def readable : List Segment → Bool
  | [] => true
  | ⟨_, none⟩ :: rest => readable rest
  | ⟨_, some index⟩ :: rest => index == ['*'] || ((readIndex index).isSome && readable rest)

/-- Whatever is refused is refused for an index, and is not readable.  Induction on the segments. -/
theorem querySegments_error {path : String} : ∀ {segs : List Segment} {v : Json} {err : PathError},
    querySegments path v segs = .error err →
      (∃ index, err = .invalidIndex index path) ∧ readable segs = false := by
  intro segs
  induction segs with
  | nil => nofun
  | cons seg rest ih =>
    intro v err h
    obtain ⟨name, index⟩ := seg
    cases hnamed : v.named name with
    | none =>
      rw [querySegments_of_unnamed _ hnamed] at h
      cases h
    | some w =>
      cases index with
      | none =>
        rw [querySegments_name hnamed] at h
        exact ih h
      | some index =>
        by_cases hstar : index = ['*']
        · rw [hstar, querySegments_star hnamed] at h
          cases h
        · rw [querySegments_index hnamed hstar] at h
          rw [readable, beq_false_of_ne hstar, Bool.false_or]
          cases hread : readIndex index with
          | none =>
            rw [hread] at h
            exact ⟨⟨_, (Except.error.inj h).symm⟩, rfl⟩
          | some i =>
            rw [hread] at h
            dsimp only at h
            cases hitem : w.item? i with
            | none =>
              rw [hitem] at h
              cases h
            | some u =>
              rw [hitem] at h
              exact ih h

/-! ## Documents that a query runs into -/

/-- A document with a value under the name of a segment. -/
def wrap (name : List Char) (v : Json) : Json :=
  if name.isEmpty then v else .object [(String.ofList name, v)]

/-- The value is found under its name. -/
theorem named_wrap (name : List Char) (v : Json) : (wrap name v).named name = some v := by
  rw [named, wrap]
  split
  · rfl
  · exact if_pos rfl

/-- An array in which a value has a given position. -/
def shift (i : Nat) (v : Json) : Json := .array (List.replicate i .null ++ [v])

/-- The value is found at its position. -/
theorem item_shift (i : Nat) (v : Json) : (shift i v).item? i = some v := by
  show (List.replicate i Json.null ++ [v])[i]? = some v
  rw [List.getElem?_append_right (by rw [List.length_replicate]), List.length_replicate,
    Nat.sub_self]
  rfl

/-- Segments that are not readable are refused on some document.  Induction on the segments: what
leads up to the index is put around the document for the rest. -/
theorem exists_refused (path : String) : ∀ {segs : List Segment}, readable segs = false →
    ∃ v index, querySegments path v segs = .error (.invalidIndex index path) := by
  intro segs
  induction segs with
  | nil => nofun
  | cons seg rest ih =>
    intro h
    obtain ⟨name, index⟩ := seg
    cases index with
    | none =>
      obtain ⟨v, index, hv⟩ := ih h
      exact ⟨wrap name v, index, by rw [querySegments_name (named_wrap name v), hv]⟩
    | some index =>
      rw [readable, Bool.or_eq_false_iff] at h
      have hstar : index ≠ ['*'] := ne_of_beq_false h.1
      cases hread : readIndex index with
      | none =>
        refine ⟨wrap name .null, String.ofList index, ?_⟩
        rw [querySegments_index (named_wrap name .null) hstar, hread]
      | some i =>
        rw [hread, Option.isSome_some, Bool.true_and] at h
        obtain ⟨v, found, hv⟩ := ih h.2
        refine ⟨wrap name (shift i v), found, ?_⟩
        rw [querySegments_index (named_wrap name _) hstar, hread]
        dsimp only
        rw [item_shift]
        exact hv

/-! ## Paths from the root -/

/-- The indices of a path are read, as far as a query can come. -/
def readablePath (path : String) : Bool := readable (segments (Text.trimBoth path.toList).tail)

variable {path : String}

/-- What validation takes for a path from the root is one. -/
theorem root_of_isRooted (h : TestCase.isRooted path = true) :
    Text.trimBoth path.toList = '$' :: (Text.trimBoth path.toList).tail := by
  rw [TestCase.isRooted, decide_eq_true_eq] at h
  obtain ⟨rest, hrest⟩ := List.head?_eq_some_iff.mp h
  rw [Text.trimBoth, hrest, Text.trimRight_cons (by decide)]
  rfl

/-- A path from the root is refused for its indices only, and on some document exactly if it is not
readable. -/
theorem refused_iff (h : TestCase.isRooted path = true) :
    (∀ v err, query v path = .error err → ∃ index, err = .invalidIndex index (Text.trim path)) ∧
    ((∃ v err, query v path = .error err) ↔ readablePath path = false) := by
  have hquery := query_of_root (root_of_isRooted h)
  have herror : ∀ v err, query v path = .error err →
      (∃ index, err = .invalidIndex index (Text.trim path)) ∧ readablePath path = false := by
    intro v err h
    rw [hquery] at h
    exact querySegments_error h
  refine ⟨fun v err h => (herror v err h).1, fun ⟨v, err, h⟩ => (herror v err h).2,
    fun hunread => ?_⟩
  obtain ⟨v, index, hv⟩ := exists_refused (Text.trim path) hunread
  exact ⟨v, _, (hquery v).trans hv⟩

end Json

namespace Executor

/-! ## Validated tests -/

/-- A test that has been validated captures by paths from the root. -/
theorem isRooted_of_validate {t : TestCase} (h : t.validate = .ok ()) :
    ∀ e ∈ t.capture.entries, TestCase.isRooted e.2 = true := by
  rw [TestCase.validate] at h
  split at h
  · cases h
  · split at h
    · cases h
    · next hnone =>
      intro e he
      have := List.find?_eq_none.mp hnone e he
      simpa using this

/-- Captures of validated tests.  A capture path of such a test is refused for an index only, and
there is a document on which it is refused exactly if it is not readable.  When a test comes to
capturing variables, it ends with diagnostics each of which says of one of its paths that there is
nothing under it, or that an index in it is invalid; the latter are about paths that are not
readable. -/
theorem validated_captures_fail_on_indices_only {t : TestCase} (hvalid : t.validate = .ok ()) :
    (∀ e ∈ t.capture.entries,
      (∀ document err, Json.query document e.2 = .error err →
        ∃ index, err = .invalidIndex index (Text.trim e.2)) ∧
      ((∃ document err, Json.query document e.2 = .error err) ↔ Json.readablePath e.2 = false)) ∧
    ∀ {σ : Type} (cfg : Settings) (sv : Services σ) (focusMode : Bool) (s : ExecutorState σ)
      request response
      found document, Capturing cfg sv focusMode t s request response found document →
      ∃ ds, (execute cfg sv focusMode t s).1 = .ofExchange ⟨request.summary, response, ds⟩ ∧
        ∀ d ∈ ds, ∃ e ∈ t.capture.entries,
          d = .anchored captureName e.2 s!"path not found, cannot capture `{e.1}`" ∨
          Json.readablePath e.2 = false ∧ ∃ index, d = .anchored captureName e.2
            (Json.PathError.invalidIndex index (Text.trim e.2)).message := by
  have hrooted := isRooted_of_validate hvalid
  refine ⟨fun e he => Json.refused_iff (hrooted e he), ?_⟩
  intro σ cfg sv focusMode s request response found document hcapturing
  refine ⟨_, execute_of_capturing hcapturing, fun d hd => ?_⟩
  obtain ⟨e, he, hlack⟩ := List.mem_filterMap.mp hd
  obtain ⟨hindex, hrefused⟩ := Json.refused_iff (hrooted e he)
  refine ⟨e, he, ?_⟩
  rw [lack] at hlack
  cases hquery : document.query e.2 with
  | error err =>
    rw [hquery] at hlack
    obtain ⟨index, rfl⟩ := hindex document err hquery
    exact .inr ⟨hrefused.mp ⟨document, _, hquery⟩, index, (Option.some.inj hlack).symm⟩
  | ok value =>
    rw [hquery] at hlack
    cases value with
    | none => exact .inl (Option.some.inj hlack).symm
    | some v => cases hlack

/-- The paths of a test whose paths have no indices are refused on no document. -/
theorem member_paths_are_not_refused : captureTest.validate = .ok () ∧
    ∀ e ∈ captureTest.capture.entries, ∀ document err, Json.query document e.2 ≠ .error err := by
  have hvalid : captureTest.validate = .ok () := by decide +kernel
  refine ⟨hvalid, fun e he document err herr => ?_⟩
  have hread : ∀ e ∈ captureTest.capture.entries, Json.readablePath e.2 = true := by decide +kernel
  have hrefused :=
    ((validated_captures_fail_on_indices_only hvalid).1 e he).2.mp ⟨document, err, herr⟩
  rw [hread e he] at hrefused
  cases hrefused

/-- A test that captures an item by something that is no position. -/
def itemTest : TestCase :=
  { TestCase.ofRequest default "item" (.get "/items") with
    capture := Dict.empty.insert "item" "$.items[x]" }

/-- A response with a list of items. -/
def itemsResponse : Response := { (default : Response) with body := "\x7b\"items\":[]\x7d" }

/-- The test is valid, and yet its path is refused when the response has come: the test fails
although the body is a document. -/
theorem valid_path_is_refused : itemTest.validate = .ok () ∧
    itemTest.capture.entries = [("item", "$.items[x]")] ∧
    itemsResponse.json?.isSome = true ∧
    Json.query (.object [("items", .array [])]) "$.items[x]" =
      .error (.invalidIndex "x" "$.items[x]") ∧
    (execute bareSettings (answering itemsResponse) false itemTest (.initial 0)).1.outcome =
      .failed [.anchored captureName "$.items[x]"
        "invalid array index `x` in JSON path `$.items[x]`"] := by
  refine ⟨by decide +kernel, by decide +kernel, by decide +kernel, rfl, by decide +kernel⟩

end Executor

end Assay
