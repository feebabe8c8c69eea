import Assay.Proofs.Altering
import Assay.Proofs.Matching

/-
  What a comparison with relaxed options overlooks.

  If order does not count, the items of arrays can change places, in either document and at any
  depth.  If values do not count, a leaf can be replaced by another one of its type, as long as no
  marker is involved.

  Both are changes of the kind `Altered`, with items that move (`Json.Reordered`) or with leaves
  that change (`Json.Revalued`), and one induction on the altered expected document is enough for
  them (`matches_altered_iff`): pairs of arrays and pairs of objects match as before if their parts
  do, whatever a change does at the leaves.  A leaf never matches anything but a leaf, so pairs of
  different form match neither before nor after.

  1. Arrays.  Both rules for arrays are put into one (`matches_array_iff`): some bijection pairs
     items that match, and it keeps every item at its place if order counts.  A pairing of the old
     items becomes one of the new items by following the two changes of place, one in each document
     (`matches_array_congr`).

  2. Objects.  The members of two objects with the same names are found at the same places
     (`lookup_of_names`), so the values can be compared place by place (`matches_object_congr`).

  3. Markers.  A leaf of a document without markers falls under no special rule (`IsLeaf.plain`),
     and a change from one such document to another one passes through such leaves only
     (`Altered.unmarked`).

  4. The two options.  Each gives the condition of the induction at the leaves
     (`matches_reordered_iff`, `matches_revalued_iff`).  The other options are arbitrary throughout,
     and so is the engine for patterns.
-/

namespace Assay.Json

variable {o : CompareOptions}

/-! ## Names and types -/

/-- The members of two objects with the same names are found at the same places. -/
theorem lookup_of_names {ms ns : List (String × Json)} (hnames : ms.map Prod.fst = ns.map Prod.fst)
    {name : String} {v : Json} (h : lookup name ms = some v) :
    ∃ i, ∃ (hi : i < ms.length) (hi' : i < ns.length), ms[i].2 = v ∧
    lookup name ns = some ns[i].2 := by
  induction ms generalizing ns with
  | nil => cases h
  | cons m ms ih =>
    cases ns with
    | nil => cases hnames
    | cons n ns =>
      obtain ⟨hname, hrest⟩ := List.cons_eq_cons.mp hnames
      by_cases hm : m.1 = name
      · rw [lookup, if_pos hm] at h
        refine ⟨0, Nat.succ_pos _, Nat.succ_pos _, Option.some.inj h, ?_⟩
        rw [lookup, if_pos (hname ▸ hm)]
        rfl
      · rw [lookup, if_neg hm] at h
        obtain ⟨i, hi, hi', hv, hlookup⟩ := ih hrest h
        refine ⟨i + 1, Nat.succ_lt_succ hi, Nat.succ_lt_succ hi', hv, ?_⟩
        rw [lookup, if_neg (hname ▸ hm), hlookup]
        rfl

/-- A leaf has the type of neither an array nor an object. -/
theorem IsLeaf.typeName_ne {v : Json} (h : v.IsLeaf) :
    v.typeName ≠ "array" ∧ v.typeName ≠ "object" := by
  cases h <;> simp [typeName]

theorem typeName_object_ne (members : List (String × Json)) :
    (Json.object members).typeName ≠ "array" := by
  simp [typeName]

section Changes

variable [PatternEngine]

/-! ## Arrays -/

/-- Both rules for arrays in one: some bijection pairs items that match, and it keeps every item at
its place if order counts. -/
theorem matches_array_iff {es as : List Json} :
    Matches o (.array es) (.array as) ↔ ∃ τ : Fin es.length ≃ Fin as.length,
      (o.ignoreArrayOrder = true ∨ ∀ i, (τ i : Nat) = i) ∧
      ∀ i, Matches o (es.get i) (as.get (τ i)) := by
  cases ho : o.ignoreArrayOrder with
  | true =>
    rw [matches_array_iff_inAnyOrder ho]
    exact exists_congr fun τ => (and_iff_right (.inl rfl)).symm
  | false =>
    rw [matches_array_iff_inOrder ho]
    constructor
    · rintro ⟨hlen, hmatch⟩
      exact ⟨finCongr hlen, .inr fun _ => rfl, fun i => hmatch i i.2⟩
    · rintro ⟨τ, hτ, hmatch⟩
      have hplace := hτ.resolve_left Bool.false_ne_true
      have hlen : es.length = as.length := by simpa using Fintype.card_congr τ
      refine ⟨hlen, fun i hi => ?_⟩
      have hsame : τ ⟨i, hi⟩ = ⟨i, hlen ▸ hi⟩ := Fin.ext (hplace ⟨i, hi⟩)
      rw [← congrArg as.get hsame]
      exact hmatch ⟨i, hi⟩

/-- Arrays match as before if their items do, wherever these have gone.  They may go elsewhere only
if order does not count. -/
theorem matches_array_congr {es es' as as' : List Json} (σ : Fin es.length ≃ Fin es'.length)
    (ρ : Fin as.length ≃ Fin as'.length) (hσ : o.ignoreArrayOrder = true ∨ ∀ i, (σ i : Nat) = i)
    (hρ : o.ignoreArrayOrder = true ∨ ∀ j, (ρ j : Nat) = j)
    (h : ∀ i j, Matches o (es.get i) (as.get j) ↔ Matches o (es'.get (σ i)) (as'.get (ρ j))) :
    Matches o (.array es) (.array as) ↔ Matches o (.array es') (.array as') := by
  rw [matches_array_iff, matches_array_iff]
  -- A pairing of the old items is one of the new items, by following both bijections.
  refine (Equiv.equivCongr σ ρ).exists_congr fun τ => and_congr ?_ ?_
  · -- If order counts, neither bijection moves anything.
    rcases hσ with ho | hσ
    · exact iff_of_true (.inl ho) (.inl ho)
    rcases hρ with ho | hρ
    · exact iff_of_true (.inl ho) (.inl ho)
    refine or_congr_right (σ.forall_congr fun i => ?_)
    rw [Equiv.equivCongr_apply_apply, Equiv.symm_apply_apply, hρ, hσ]
  · refine σ.forall_congr fun i => ?_
    have hgone : Equiv.equivCongr σ ρ τ (σ i) = ρ (τ i) := by
      rw [Equiv.equivCongr_apply_apply, Equiv.symm_apply_apply]
    rw [hgone]
    exact h i (τ i)

/-! ## Objects -/

/-- Objects with the same names match if the values at their places do. -/
theorem Matches.object_of_names {es es' as as' : List (String × Json)}
    (hes : es.map Prod.fst = es'.map Prod.fst) (has : as.map Prod.fst = as'.map Prod.fst)
    (h : ∀ i (_ : i < es.length) (_ : i < es'.length) j (_ : j < as.length) (_ : j < as'.length),
      Matches o es[i].2 as[j].2 → Matches o es'[i].2 as'[j].2)
    (hmatch : Matches o (.object es) (.object as)) : Matches o (.object es') (.object as') := by
  rw [matches_object_iff] at hmatch ⊢
  refine ⟨fun m' hm' => ?_, fun ho => ?_⟩
  · obtain ⟨i, hi', rfl⟩ := List.getElem_of_mem hm'
    have hlength : es.length = es'.length := by simpa using congrArg List.length hes
    have hi : i < es.length := hlength ▸ hi'
    have hname : es[i].1 = es'[i].1 := by
      have hmap := List.getElem_of_eq hes (i := i) (by rwa [List.length_map])
      rwa [List.getElem_map, List.getElem_map] at hmap
    obtain ⟨v, hv, hmatch⟩ := hmatch.1 es[i] (List.getElem_mem hi)
    obtain ⟨j, hj, hj', rfl, hlookup⟩ := lookup_of_names has hv
    exact ⟨as'[j].2, hname ▸ hlookup, h i hi hi' j hj hj' hmatch⟩
  · have hsub : as.map Prod.fst ⊆ es.map Prod.fst := fun name hname => by
      obtain ⟨m, hm, rfl⟩ := List.mem_map.mp hname
      exact List.mem_map.mpr (hmatch.2 ho m hm)
    intro m' hm'
    rw [hes, has] at hsub
    exact List.mem_map.mp (hsub (List.mem_map_of_mem hm'))

/-- Objects match as before if the values of their members do. -/
theorem matches_object_congr {es es' as as' : List (String × Json)}
    (hes : es.map Prod.fst = es'.map Prod.fst) (has : as.map Prod.fst = as'.map Prod.fst)
    (h : ∀ i (_ : i < es.length) (_ : i < es'.length) j (_ : j < as.length) (_ : j < as'.length),
      Matches o es[i].2 as[j].2 ↔ Matches o es'[i].2 as'[j].2) :
    Matches o (.object es) (.object as) ↔ Matches o (.object es') (.object as') :=
  ⟨Matches.object_of_names hes has fun i hi hi' j hj hj' => (h i hi hi' j hj hj').mp,
    Matches.object_of_names hes.symm has.symm fun i hi' hi j hj' hj => (h i hi hi' j hj hj').mpr⟩

/-! ## Altered documents -/

/-- Documents of different types do not match, unless one leaf is a marker for another one. -/
theorem not_matches {expected actual : Json} (htype : expected.typeName ≠ actual.typeName)
    (hleaves : ¬ (expected.IsLeaf ∧ actual.IsLeaf)) : ¬ Matches o expected actual := by
  intro h
  cases h with
  | pattern _ htext => exact hleaves ⟨.string _, by cases htext <;> constructor⟩
  | object => exact htype rfl
  | inOrder => exact htype rfl
  | inAnyOrder => exact htype rfl
  | plain _ hsame _ => exact htype hsame

/-- An array and something else do not match. -/
theorem array_alone {v : Json} (h : v.typeName ≠ "array") (items : List Json) :
    ¬ Matches o v (.array items) ∧ ¬ Matches o (.array items) v := by
  have htype : v.typeName ≠ (Json.array items).typeName := h
  refine ⟨not_matches htype ?_, not_matches htype.symm ?_⟩
  · exact fun hleaves => nomatch hleaves.2
  · exact fun hleaves => nomatch hleaves.1

/-- An object and something else do not match. -/
theorem object_alone {v : Json} (h : v.typeName ≠ "object") (members : List (String × Json)) :
    ¬ Matches o v (.object members) ∧ ¬ Matches o (.object members) v := by
  have htype : v.typeName ≠ (Json.object members).typeName := h
  refine ⟨not_matches htype ?_, not_matches htype.symm ?_⟩
  · exact fun hleaves => nomatch hleaves.2
  · exact fun hleaves => nomatch hleaves.1

/-- Altered documents match as before if altered leaves do, and if items change places only where
order does not count.  Induction on the altered expected document, for all actual ones. -/
theorem matches_altered_iff {change change' : Json → Json → Prop} {moves : Prop}
    (hmoves : moves → o.ignoreArrayOrder = true)
    (hleaf : ∀ {e e' a a' : Json}, e.IsLeaf → e'.IsLeaf → a.IsLeaf → a'.IsLeaf → change e e' →
      change' a a' →
      (Matches o e a ↔ Matches o e' a'))
    {e e' : Json} (he : Altered change moves e e') :
    ∀ {a a' : Json}, Altered change' moves a a' → (Matches o e a ↔ Matches o e' a') := by
  induction he with
  | leaf hv hw hchange =>
    intro a a' ha
    cases ha with
    | leaf hv' hw' hchange' => exact hleaf hv hw hv' hw' hchange hchange'
    | array =>
      exact iff_of_false (array_alone hv.typeName_ne.1 _).1 (array_alone hw.typeName_ne.1 _).1
    | object =>
      exact iff_of_false (object_alone hv.typeName_ne.2 _).1 (object_alone hw.typeName_ne.2 _).1
  | array σ hσ _ ih =>
    intro a a' ha
    cases ha with
    | leaf hv hw =>
      exact iff_of_false (array_alone hv.typeName_ne.1 _).2 (array_alone hw.typeName_ne.1 _).2
    | array ρ hρ hitems =>
      exact matches_array_congr σ ρ (hσ.imp_left hmoves) (hρ.imp_left hmoves)
        fun i j => ih i (hitems j)
    | object =>
      exact iff_of_false (array_alone (typeName_object_ne _) _).2
        (array_alone (typeName_object_ne _) _).2
  | object hnames _ ih =>
    intro a a' ha
    cases ha with
    | leaf hv hw =>
      exact iff_of_false (object_alone hv.typeName_ne.2 _).2 (object_alone hw.typeName_ne.2 _).2
    | array =>
      exact iff_of_false (array_alone (typeName_object_ne _) _).1
        (array_alone (typeName_object_ne _) _).1
    | object hnames' hmembers =>
      exact matches_object_congr hnames hnames' fun i hi hi' j hj hj' => ih i hi hi'
        (hmembers j hj hj')

end Changes

/-! ## Documents without markers -/

/-- No string of the document is a marker. -/
def Unmarked (v : Json) : Prop := ∀ s ∈ v.strings, patternOf? s = none

instance (v : Json) : Decidable v.Unmarked :=
  inferInstanceAs (Decidable (∀ s ∈ v.strings, patternOf? s = none))

/-- The items of an array without markers have none. -/
theorem Unmarked.item {items : List Json} (h : Unmarked (.array items)) {v : Json}
    (hv : v ∈ items) :
    v.Unmarked := by
  intro s hs
  refine h s ?_
  rw [strings, stringsOfItems_eq_flatMap]
  exact List.mem_flatMap.mpr ⟨v, hv, hs⟩

/-- The values of an object without markers have none. -/
theorem Unmarked.member {members : List (String × Json)} (h : Unmarked (.object members))
    {m : String × Json} (hm : m ∈ members) : m.2.Unmarked := by
  intro s hs
  refine h s ?_
  rw [strings, stringsOfMembers_eq_flatMap]
  exact List.mem_flatMap.mpr ⟨m, hm, hs⟩

/-- A leaf that is no marker falls under no special rule. -/
theorem IsLeaf.plain {e a : Json} (h : e.IsLeaf) (hunmarked : e.Unmarked) : Plain e a := by
  refine ⟨fun p heq => ?_, fun es _ heq => ?_, fun es _ heq => ?_⟩
  · have hnone := hunmarked (marker p) (heq ▸ List.mem_singleton_self _)
    rw [patternOf?_eq_some_iff.mpr rfl] at hnone
    cases hnone
  · cases heq.1 ▸ h
  · cases heq.1 ▸ h

/-- What is altered without markers is altered at leaves without markers. -/
theorem Altered.unmarked {change : Json → Json → Prop} {moves : Prop} {v w : Json}
    (h : Altered change moves v w) (hv : v.Unmarked) (hw : w.Unmarked) :
    Altered (fun v w => v.Unmarked ∧ w.Unmarked ∧ change v w) moves v w := by
  induction h with
  | leaf hleaf hleaf' hchange => exact .leaf hleaf hleaf' ⟨hv, hw, hchange⟩
  | array σ hσ _ ih =>
    exact .array σ hσ fun i => ih i (hv.item (List.get_mem _ i)) (hw.item (List.get_mem _ (σ i)))
  | object hnames _ ih =>
    exact .object hnames fun i hi hi' =>
      ih i hi hi' (hv.member (List.getElem_mem hi)) (hw.member (List.getElem_mem hi'))

/-! ## Relaxed options -/

/-- The items of some arrays have changed places, at any depth. -/
def Reordered : Json → Json → Prop := Altered (· = ·) True

/-- Some leaves have become others of their types, at any depth. -/
def Revalued : Json → Json → Prop := Altered (fun v w => v.typeName = w.typeName) False

section Relaxed

variable [PatternEngine]

/-- If order does not count, nothing depends on the places of items. -/
theorem matches_reordered_iff (ho : o.ignoreArrayOrder = true) {e e' a a' : Json}
    (he : e.Reordered e') (ha : a.Reordered a') : Matches o e a ↔ Matches o e' a' :=
  matches_altered_iff (fun _ => ho) (fun _ _ _ _ he ha => by rw [he, ha]) he ha

/-- If values do not count, nothing depends on the leaves but their types. -/
theorem matches_revalued_iff (ho : o.ignoreValues = true) {e e' a a' : Json}
    (hunmarked : e.Unmarked) (hunmarked' : e'.Unmarked) (he : e.Revalued e') (ha : a.Revalued a') :
    Matches o e a ↔ Matches o e' a' := by
  have hcounts : ¬ o.ignoreValues = false := by simp [ho]
  refine matches_altered_iff (fun h => h.elim) ?_ (he.unmarked hunmarked hunmarked') ha
  rintro e e' a a' hleaf hleaf' - - ⟨hu, hu', htype⟩ htype'
  rw [matches_plain_iff (hleaf.plain hu), matches_plain_iff (hleaf'.plain hu'), htype, htype']
  exact and_congr_right fun _ => iff_of_true (fun h => absurd h hcounts) fun h => absurd h hcounts

/-- Documents that match as before are compared as before. -/
theorem matchesDocument_eq_of_iff {e e' a a' : Json} (h : Matches o e a ↔ Matches o e' a') :
    matchesDocument o e' a' = matchesDocument o e a := by
  rw [Bool.eq_iff_iff, matchesDocument, matchesDocument, List.isEmpty_iff, List.isEmpty_iff,
    compare_eq_nil_iff, compare_eq_nil_iff, h]

/-- Relaxed options hold at every depth.  If order does not count, then whether two documents match
stays the same whatever arrays of either one are reordered.  If values do not count, it stays the
same whatever leaves of either one become others of their types, as long as the expected document
has no markers before and after.  The other options are arbitrary. -/
theorem relaxed_options_hold_at_every_depth (o : CompareOptions)
    {expected expected' actual actual' : Json} :
    (o.ignoreArrayOrder = true → expected.Reordered expected' → actual.Reordered actual' →
      matchesDocument o expected' actual' = matchesDocument o expected actual) ∧
    (o.ignoreValues = true → expected.Unmarked → expected'.Unmarked → expected.Revalued expected' →
      actual.Revalued actual' →
      matchesDocument o expected' actual' = matchesDocument o expected actual) := by
  refine ⟨fun ho he ha => ?_, fun ho hu hu' he ha => ?_⟩
  · exact matchesDocument_eq_of_iff (matches_reordered_iff ho he ha)
  · exact matchesDocument_eq_of_iff (matches_revalued_iff ho hu hu' he ha)

end Relaxed

/-! ### Nested arrays -/

/-- Items are put in another order, in which they are altered. -/
theorem Altered.permuted {change : Json → Json → Prop} {vs us ws : List Json} (hperm : vs.Perm us)
    (h : List.Forall₂ (Altered change True) us ws) :
    Altered change True (.array vs) (.array ws) := by
  classical
  let σ : Fin vs.length ≃ Fin us.length :=
    Equiv.ofBijective hperm.idxBij ⟨hperm.idxBij_injective, hperm.idxBij_surjective⟩
  refine .array (σ.trans (finCongr h.length_eq)) (.inl trivial) fun i => ?_
  have hitem : us.get (σ i) = vs.get i := hperm.getElem_idxBij_eq_getElem i
  rw [← hitem]
  exact h.get (σ i).2 (h.length_eq ▸ (σ i).2)

/-- An array with another one in it. -/
def nested : Json := .array [.string "a", .array [.null, .bool true]]

/-- The items of both arrays in another order. -/
def nestedReordered : Json := .array [.array [.bool true, .null], .string "a"]

/-- Other leaves of the same types. -/
def nestedRevalued : Json := .array [.string "b", .array [.null, .bool false]]

/-- The items of both arrays have changed places. -/
theorem reordered_nested : nested.Reordered nestedReordered := by
  have hinner : Reordered (.array [.null, .bool true]) (.array [.bool true, .null]) :=
    Altered.permuted (List.Perm.swap ..)
      (.cons (.leaf (.bool _) (.bool _) rfl) (.cons (.leaf .null .null rfl) .nil))
  exact Altered.permuted (List.Perm.swap ..)
    (.cons hinner (.cons (.leaf (.string _) (.string _) rfl) .nil))

/-- Leaves in both arrays have changed. -/
theorem revalued_nested : nested.Revalued nestedRevalued := by
  have hinner : Revalued (.array [.null, .bool true]) (.array [.null, .bool false]) :=
    Altered.items (.cons (.leaf .null .null rfl) (.cons (.leaf (.bool _) (.bool _) rfl) .nil))
  exact Altered.items (.cons (.leaf (.string _) (.string _) rfl) (.cons hinner .nil))

/-- Neither values nor order count. -/
def relaxed : CompareOptions := ⟨true, true, false⟩

/-- Items that move in both arrays, and leaves that change in both. -/
theorem nested_arrays_match_as_before :
    (relaxed.ignoreArrayOrder = true ∧ nested.Reordered nestedReordered ∧
      matchesDocument relaxed nestedReordered nestedReordered =
        matchesDocument relaxed nested nested) ∧
    (relaxed.ignoreValues = true ∧ nested.Unmarked ∧ nestedRevalued.Unmarked ∧
      nested.Revalued nestedRevalued ∧
      matchesDocument relaxed nestedRevalued nestedRevalued =
        matchesDocument relaxed nested nested) := by
  have hunmarked : nested.Unmarked := by unfold Unmarked; decide
  have hunmarked' : nestedRevalued.Unmarked := by unfold Unmarked; decide
  refine ⟨⟨rfl, reordered_nested, ?_⟩, rfl, hunmarked, hunmarked', revalued_nested, ?_⟩
  · exact (relaxed_options_hold_at_every_depth relaxed).1 rfl reordered_nested reordered_nested
  · exact (relaxed_options_hold_at_every_depth relaxed).2 rfl hunmarked hunmarked' revalued_nested
      revalued_nested

end Assay.Json
