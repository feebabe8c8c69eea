import Assay.Proofs.Arranging
import Assay.Proofs.Relaxing

/-
  Matching as a relation.

  Without markers the expected document is a document like any other, and one can ask how matching
  behaves when documents change sides.  It can be chained: an actual document that is used as the
  expected one of a second comparison passes on what it matched (`Matches.trans`).  Every ordered
  document matches itself (`Matches.refl`).  An actual object may have members that nobody expects,
  which is all that keeps matching from being symmetric; if nothing unexpected is allowed, then it
  is (`Matches.symm`).

  Seen from the options, a comparison lets more through the more it overlooks.
  `CompareOptions.Relaxed` says that a change of the options only switches off what counts, and
  `relaxing_keeps_matches` that these are just the changes under which every match stays one.
  Markers do no harm here, since no option touches them.

  Structure of the proofs:

  1. Leaves, for which matching is equality up to the two zeros of a double (`IsLeaf.same_iff`).  So
     it is an equivalence there, and for each property there is a lemma about leaves.

  2. Arrays, of whose items something is known.  A pairing is read backwards for symmetry and two
     are composed for transitivity (`Matches.symm_array`, `Matches.trans_array`); whether order
     counts makes no difference to the argument, as `matches_array_iff` has one bijection for both
     cases.

  3. Objects.  Members are looked up twice, once on each side (`Matches.trans_object`).  For
     symmetry each member has to be found under its name, and this is why the documents have to be
     ordered (`Matches.symm_object`).

  4. Induction on the expected document for reflexivity, symmetry and chains, and on the rules of
     `Matches` for the options, where the only rule that changes is the one for arrays in order.
-/

namespace Assay

/-! ## Leaves -/

namespace Json

/-- A number is the same as itself. -/
theorem Number.same_refl (n : Number) : n.same n = true := by
  cases n <;> simp [Number.same, Double.same]

/-- Which number is asked first does not matter. -/
theorem Number.same_comm (m n : Number) : m.same n = n.same m := by
  cases m <;> cases n <;> simp [Number.same, Double.same, eq_comm]

/-- Numbers of one value are the same. -/
theorem Number.same_trans {k m n : Number} (h : k.same m = true) (h' : m.same n = true) :
    k.same n = true := by
  cases k <;> cases m <;> cases n <;> simp_all [Number.same, Double.same]

/-- A leaf is the same as another document if it is that document, or if both are numbers of one
value. -/
theorem IsLeaf.same_iff {v w : Json} (h : v.IsLeaf) :
    v.same w = true ↔ v = w ∨ ∃ m n, v = .number m ∧ w = .number n ∧ m.same n = true := by
  constructor
  · intro hsame
    cases h with
    | null => cases w <;> simp_all [same]
    | bool b => cases w <;> simp_all [same]
    | string s => cases w <;> simp_all [same]
    | number m =>
      cases w with
      | number n => exact .inr ⟨m, n, rfl, rfl, hsame⟩
      | _ => cases hsame
  · rintro (rfl | ⟨m, n, rfl, rfl, hsame⟩)
    · cases h with
      | null => rfl
      | bool b => exact beq_self_eq_true b
      | string s => exact beq_self_eq_true s
      | number n => exact n.same_refl
    · exact hsame

/-- Which leaf is asked first does not matter. -/
theorem IsLeaf.same_symm {v w : Json} (h : v.IsLeaf) (h' : w.IsLeaf) (hsame : v.same w = true) :
    w.same v = true := by
  rw [h.same_iff] at hsame
  rw [h'.same_iff]
  rcases hsame with rfl | ⟨m, n, rfl, rfl, hmn⟩
  · exact .inl rfl
  · rw [Number.same_comm] at hmn
    exact .inr ⟨n, m, rfl, rfl, hmn⟩

/-- Leaves that are the same as a third one are the same. -/
theorem IsLeaf.same_trans {u v w : Json} (h : u.IsLeaf) (h' : v.IsLeaf) (huv : u.same v = true)
    (hvw : v.same w = true) : u.same w = true := by
  rw [h.same_iff] at huv ⊢
  rw [h'.same_iff] at hvw
  rcases huv with rfl | ⟨k, m, rfl, rfl, hkm⟩
  · exact hvw
  · rcases hvw with rfl | ⟨m', n, hm, rfl, hmn⟩
    · exact .inr ⟨k, m, rfl, rfl, hkm⟩
    · obtain rfl := Json.number.inj hm
      exact .inr ⟨k, n, rfl, rfl, Number.same_trans hkm hmn⟩

/-- What has the type of a leaf is one. -/
theorem IsLeaf.of_typeName {v w : Json} (h : v.IsLeaf) (htype : v.typeName = w.typeName) :
    w.IsLeaf := by
  cases w with
  | null => exact .null
  | bool b => exact .bool b
  | number n => exact .number n
  | string s => exact .string s
  | array items => exact absurd htype h.typeName_ne.1
  | object members => exact absurd htype h.typeName_ne.2

section Relation

variable [PatternEngine] {o : CompareOptions}

/-- A leaf that is no marker matches what is of its type and, if values count, the same. -/
theorem IsLeaf.matches_iff {e a : Json} (h : e.IsLeaf) (hu : e.Unmarked) :
    Matches o e a ↔ e.typeName = a.typeName ∧ (o.ignoreValues = false → e.same a = true) :=
  matches_plain_iff (h.plain hu)

/-- A leaf matches itself. -/
theorem Matches.refl_leaf {v : Json} (h : v.IsLeaf) (hu : v.Unmarked) : Matches o v v := by
  rw [h.matches_iff hu]
  exact ⟨rfl, fun _ => h.same_iff.mpr (.inl rfl)⟩

/-- Leaves match the other way round. -/
theorem Matches.symm_leaf {e a : Json} (h : e.IsLeaf) (hu : e.Unmarked) (hu' : a.Unmarked)
    (hmatch : Matches o e a) : Matches o a e := by
  rw [h.matches_iff hu] at hmatch
  obtain ⟨htype, hsame⟩ := hmatch
  have h' : a.IsLeaf := h.of_typeName htype
  rw [h'.matches_iff hu']
  exact ⟨htype.symm, fun ho => h.same_symm h' (hsame ho)⟩

/-- Matching of leaves can be chained. -/
theorem Matches.trans_leaf {e m a : Json} (h : e.IsLeaf) (hu : e.Unmarked) (hu' : m.Unmarked)
    (hem : Matches o e m) (hma : Matches o m a) : Matches o e a := by
  rw [h.matches_iff hu] at hem ⊢
  obtain ⟨htype, hsame⟩ := hem
  have h' : m.IsLeaf := h.of_typeName htype
  rw [h'.matches_iff hu'] at hma
  obtain ⟨htype', hsame'⟩ := hma
  exact ⟨htype.trans htype', fun ho => h.same_trans h' (hsame ho) (hsame' ho)⟩

/-! ## Arrays -/

/-- An array matches arrays only. -/
theorem Matches.array_inv {es : List Json} {v : Json} (h : Matches o (.array es) v) :
    ∃ as, v = .array as := by
  cases v with
  | array as => exact ⟨as, rfl⟩
  | _ => exact absurd h (array_alone (by simp [typeName]) es).2

/-- An array matches itself if its items do. -/
theorem Matches.refl_array {vs : List Json} (ih : ∀ v ∈ vs, Matches o v v) :
    Matches o (.array vs) (.array vs) := by
  rw [matches_array_iff]
  refine ⟨Equiv.refl _, .inr fun _ => rfl, fun i => ?_⟩
  exact ih _ (List.get_mem vs i)

/-- A pairing that is read backwards pairs the same items. -/
theorem Matches.symm_array {es as : List Json}
    (ih : ∀ e ∈ es, ∀ a ∈ as, Matches o e a → Matches o a e)
    (h : Matches o (.array es) (.array as)) : Matches o (.array as) (.array es) := by
  rw [matches_array_iff] at h ⊢
  obtain ⟨σ, hσ, hmatch⟩ := h
  refine ⟨σ.symm, ?_, fun j => ?_⟩
  · rcases hσ with ho | hσ
    · exact .inl ho
    · right
      intro j
      rw [← hσ (σ.symm j), Equiv.apply_symm_apply]
  · have hj := hmatch (σ.symm j)
    rw [Equiv.apply_symm_apply] at hj
    exact ih _ (List.get_mem es _) _ (List.get_mem as j) hj

/-- Two pairings in a row pair the outer items. -/
theorem Matches.trans_array {es ms as : List Json}
    (ih : ∀ e ∈ es, ∀ m ∈ ms, ∀ a, Matches o e m → Matches o m a → Matches o e a)
    (h : Matches o (.array es) (.array ms)) (h' : Matches o (.array ms) (.array as)) :
    Matches o (.array es) (.array as) := by
  rw [matches_array_iff] at h h' ⊢
  obtain ⟨σ, hσ, hmatch⟩ := h
  obtain ⟨τ, hτ, hmatch'⟩ := h'
  refine ⟨σ.trans τ, ?_, fun i => ?_⟩
  · rcases hσ with ho | hσ
    · exact .inl ho
    rcases hτ with ho | hτ
    · exact .inl ho
    right
    intro i
    rw [Equiv.trans_apply, hτ, hσ]
  · exact ih _ (List.get_mem es i) _ (List.get_mem ms (σ i)) _ (hmatch i) (hmatch' (σ i))

/-! ## Objects -/

/-- An object matches objects only. -/
theorem Matches.object_inv {es : List (String × Json)} {v : Json} (h : Matches o (.object es) v) :
    ∃ as, v = .object as := by
  cases v with
  | object as => exact ⟨as, rfl⟩
  | _ => exact absurd h (object_alone (by simp [typeName]) es).2

/-- An object matches itself if its values do. -/
theorem Matches.refl_object {ms : List (String × Json)} (hnames : (ms.map Prod.fst).Nodup)
    (ih : ∀ m ∈ ms, Matches o m.2 m.2) : Matches o (.object ms) (.object ms) := by
  rw [matches_object_iff]
  constructor
  · intro m hm
    exact ⟨m.2, (lookup_eq_some_iff hnames).mpr hm, ih m hm⟩
  · intro _ m hm
    exact ⟨m, hm, rfl⟩

/-- If nothing unexpected is allowed, each side has the names of the other one. -/
theorem Matches.symm_object {es as : List (String × Json)} (ho : o.disallowExtraFields = true)
    (hnames : (as.map Prod.fst).Nodup)
    (ih : ∀ e ∈ es, ∀ a ∈ as, Matches o e.2 a.2 → Matches o a.2 e.2)
    (h : Matches o (.object es) (.object as)) : Matches o (.object as) (.object es) := by
  rw [matches_object_iff] at h ⊢
  obtain ⟨hmembers, hextra⟩ := h
  constructor
  · intro a ha
    obtain ⟨w, hw⟩ := Option.isSome_iff_exists.mp (isSome_lookup.mpr (hextra ho a ha))
    have hmem : (a.1, w) ∈ es := mem_of_lookup hw
    obtain ⟨v, hv, hmatch⟩ := hmembers _ hmem
    have hfound : lookup a.1 as = some a.2 := (lookup_eq_some_iff hnames).mpr ha
    obtain rfl : v = a.2 := Option.some.inj (hv.symm.trans hfound)
    exact ⟨w, hw, ih _ hmem a ha hmatch⟩
  · intro _ e he
    obtain ⟨v, hv, -⟩ := hmembers e he
    exact ⟨(e.1, v), mem_of_lookup hv, rfl⟩

/-- What is expected is found in the middle, and from there in the actual object. -/
theorem Matches.trans_object {es ms as : List (String × Json)}
    (ih : ∀ e ∈ es, ∀ m ∈ ms, ∀ a, Matches o e.2 m.2 → Matches o m.2 a → Matches o e.2 a)
    (h : Matches o (.object es) (.object ms)) (h' : Matches o (.object ms) (.object as)) :
    Matches o (.object es) (.object as) := by
  rw [matches_object_iff] at h h' ⊢
  obtain ⟨hmembers, hextra⟩ := h
  obtain ⟨hmembers', hextra'⟩ := h'
  constructor
  · intro e he
    obtain ⟨v, hv, hev⟩ := hmembers e he
    have hmem : (e.1, v) ∈ ms := mem_of_lookup hv
    obtain ⟨w, hw, hvw⟩ := hmembers' _ hmem
    exact ⟨w, hw, ih e he _ hmem w hev hvw⟩
  · intro ho a ha
    obtain ⟨m, hm, hma⟩ := hextra' ho a ha
    obtain ⟨e, he, hem⟩ := hextra ho m hm
    exact ⟨e, he, hem.trans hma⟩

/-! ## Documents -/

/-- An ordered document without markers matches itself, whatever the options.  Induction on the
document. -/
theorem Matches.refl {v : Json} : v.Ordered → v.Unmarked → Matches o v v := by
  induction v with
  | null => exact fun _ hu => .refl_leaf .null hu
  | bool b => exact fun _ hu => .refl_leaf (.bool b) hu
  | number n => exact fun _ hu => .refl_leaf (.number n) hu
  | string s => exact fun _ hu => .refl_leaf (.string s) hu
  | array vs ih =>
    intro hordered hu
    have hitems := orderedItems_iff.mp hordered
    exact .refl_array fun v hv => ih v hv (hitems v hv) (hu.item hv)
  | object ms ih =>
    intro hordered hu
    obtain ⟨hnames, hvalues⟩ := hordered
    rw [orderedMembers_iff] at hvalues
    exact .refl_object (hnames.imp String.ne_of_lt) fun m hm => ih m hm (hvalues m hm)
      (hu.member hm)

/-- Documents without markers match the other way round if nothing unexpected is allowed.  Induction
on the expected document; the actual one is ordered, so that each of its members is found under its
name. -/
theorem Matches.symm (ho : o.disallowExtraFields = true) {e : Json} :
    ∀ {a : Json}, e.Unmarked → a.Unmarked → a.Ordered → Matches o e a → Matches o a e := by
  induction e with
  | null => exact fun hu hu' _ h => h.symm_leaf .null hu hu'
  | bool b => exact fun hu hu' _ h => h.symm_leaf (.bool b) hu hu'
  | number n => exact fun hu hu' _ h => h.symm_leaf (.number n) hu hu'
  | string s => exact fun hu hu' _ h => h.symm_leaf (.string s) hu hu'
  | array es ih =>
    intro a hu hu' hordered h
    obtain ⟨as, rfl⟩ := h.array_inv
    have hitems := orderedItems_iff.mp hordered
    refine h.symm_array fun e he a ha => ?_
    exact ih e he (hu.item he) (hu'.item ha) (hitems a ha)
  | object es ih =>
    intro a hu hu' hordered h
    obtain ⟨as, rfl⟩ := h.object_inv
    obtain ⟨hnames, hvalues⟩ := hordered
    rw [orderedMembers_iff] at hvalues
    refine h.symm_object ho (hnames.imp String.ne_of_lt) fun e he a ha => ?_
    exact ih e he (hu.member he) (hu'.member ha) (hvalues a ha)

/-- Matching can be chained, if the two documents on the expected side have no markers.  Induction
on the first one. -/
theorem Matches.trans {e : Json} :
    ∀ {m a : Json}, e.Unmarked → m.Unmarked → Matches o e m → Matches o m a → Matches o e a := by
  induction e with
  | null => exact fun hu hu' h h' => h.trans_leaf .null hu hu' h'
  | bool b => exact fun hu hu' h h' => h.trans_leaf (.bool b) hu hu' h'
  | number n => exact fun hu hu' h h' => h.trans_leaf (.number n) hu hu' h'
  | string s => exact fun hu hu' h h' => h.trans_leaf (.string s) hu hu' h'
  | array es ih =>
    intro m a hu hu' h h'
    obtain ⟨ms, rfl⟩ := h.array_inv
    obtain ⟨as, rfl⟩ := h'.array_inv
    refine h.trans_array (fun e he m hm a => ?_) h'
    exact ih e he (hu.item he) (hu'.item hm)
  | object es ih =>
    intro m a hu hu' h h'
    obtain ⟨ms, rfl⟩ := h.object_inv
    obtain ⟨as, rfl⟩ := h'.object_inv
    refine h.trans_object (fun e he m hm a => ?_) h'
    exact ih e he (hu.member he) (hu'.member hm)

/-- The comparison lets through what matches. -/
theorem matchesDocument_iff {e a : Json} : matchesDocument o e a = true ↔ Matches o e a := by
  rw [matchesDocument, List.isEmpty_iff, compare_eq_nil_iff]

/-- Nothing is reported of documents that match. -/
theorem diagnose_eq_nil_iff {checker : String} {e a : Json} :
    diagnose checker o e a = [] ↔ Matches o e a := by
  rw [diagnose, diagnoseAt, List.map_eq_nil_iff, compare_eq_nil_iff]

/-- Matching as a relation between documents without markers.  It is transitive, whatever the
options: what matches a document in the middle matches what this one was expected from.  If nothing
unexpected is allowed, then it makes no difference either which of two ordered documents is the
expected one. -/
theorem matching_is_transitive_and_symmetric (o : CompareOptions) :
    (∀ expected middle actual : Json, expected.Unmarked → middle.Unmarked →
      matchesDocument o expected middle = true → matchesDocument o middle actual = true →
      matchesDocument o expected actual = true) ∧
    (o.disallowExtraFields = true → ∀ expected actual : Json, expected.Ordered → actual.Ordered →
      expected.Unmarked → actual.Unmarked →
      (matchesDocument o expected actual = true ↔ matchesDocument o actual expected = true)) := by
  constructor
  · intro expected middle actual hu hu' h h'
    rw [matchesDocument_iff] at h h' ⊢
    exact h.trans hu hu' h'
  · intro ho expected actual hordered hordered' hu hu'
    rw [matchesDocument_iff, matchesDocument_iff]
    constructor
    · exact Matches.symm ho hu hu' hordered'
    · exact Matches.symm ho hu' hu hordered

end Relation

/-- An item with a zero, of either sign, and one without a value. -/
def zeroItem (negative : Bool) : Json := .object [("n", .number (.double (Double.zero negative)))]

/-- The order of arrays does not count, and nothing unexpected is allowed. -/
def setwise : CompareOptions := ⟨false, true, true⟩

/-- Three lists of the same items, with zeros of other signs and in other orders, match along a
chain and backwards. -/
theorem lists_match_along_a_chain :
    let expected : Json := .array [zeroItem false, .null, zeroItem true]
    let middle : Json := .array [.null, zeroItem true, zeroItem true]
    let actual : Json := .array [zeroItem false, zeroItem false, .null]
    (expected.Unmarked ∧ middle.Unmarked ∧ matchesDocument setwise expected middle = true ∧
      matchesDocument setwise middle actual = true ∧
      matchesDocument setwise expected actual = true) ∧
    (setwise.disallowExtraFields = true ∧ expected.Ordered ∧ actual.Ordered ∧ actual.Unmarked ∧
      matchesDocument setwise actual expected = true) := by
  intro expected middle actual
  have hu : expected.Unmarked := by unfold Unmarked; decide
  have hu' : middle.Unmarked := by unfold Unmarked; decide
  have hu'' : actual.Unmarked := by unfold Unmarked; decide
  have hordered : expected.Ordered := by
    simp [expected, zeroItem, Ordered, OrderedItems, OrderedMembers]
  have hordered' : actual.Ordered := by
    simp [actual, zeroItem, Ordered, OrderedItems, OrderedMembers]
  have hfirst : matchesDocument setwise expected middle = true := by decide +kernel
  have hsecond : matchesDocument setwise middle actual = true := by decide +kernel
  obtain ⟨htrans, hsymm⟩ := matching_is_transitive_and_symmetric setwise
  have hchain := htrans expected middle actual hu hu' hfirst hsecond
  exact ⟨⟨hu, hu', hfirst, hsecond, hchain⟩, rfl, hordered, hordered', hu'',
    (hsymm rfl expected actual hordered hordered' hu hu'').mp hchain⟩

end Json

/-! ## Options -/

/-- The second options overlook whatever the first ones do, and they allow extra members if those
do: values or order have been switched off, or extra members switched on, and nothing else. -/
structure CompareOptions.Relaxed (o o' : CompareOptions) : Prop where
  values : o.ignoreValues = true → o'.ignoreValues = true
  order : o.ignoreArrayOrder = true → o'.ignoreArrayOrder = true
  extra : o'.disallowExtraFields = true → o.disallowExtraFields = true

namespace Json

variable [PatternEngine] {o o' : CompareOptions}

/-- What matches still matches when the options are relaxed.  Induction on the rules: each of them
applies again, but that items in order are paired by the identity once order does not count. -/
theorem Matches.relaxed (h : o.Relaxed o') {e a : Json} (hmatch : Matches o e a) :
    Matches o' e a := by
  induction hmatch with
  | pattern hr htext hm => exact .pattern hr htext hm
  | object hthere _ hextra ih => exact .object hthere ih fun ho' => hextra (h.extra ho')
  | inOrder hlen _ _ ih =>
    cases ho' : o'.ignoreArrayOrder with
    | false => exact .inOrder hlen ho' ih
    | true => exact .inAnyOrder (finCongr hlen) ho' fun i => ih i i.2
  | inAnyOrder σ ho _ ih => exact .inAnyOrder σ (h.order ho) ih
  | plain hp htype hsame =>
    refine .plain hp htype fun ho' => hsame ?_
    cases ho : o.ignoreValues with
    | false => rfl
    | true => exact absurd (h.values ho) (by simp [ho'])

/-- Two truth values match if values do not count. -/
theorem matchesDocument_truths (o : CompareOptions) :
    matchesDocument o (.bool true) (.bool false) = o.ignoreValues := by
  obtain ⟨values, order, extra⟩ := o
  cases values <;> cases order <;> cases extra <;> rfl

/-- Two items in another order match if order does not count. -/
theorem matchesDocument_swapped (o : CompareOptions) :
    matchesDocument o (.array [.null, .bool true]) (.array [.bool true, .null]) =
      o.ignoreArrayOrder := by
  obtain ⟨values, order, extra⟩ := o
  cases values <;> cases order <;> cases extra <;> rfl

/-- Nothing matches something if that is allowed. -/
theorem matchesDocument_extra (o : CompareOptions) :
    matchesDocument o (.object []) (.object [("n", .null)]) = !o.disallowExtraFields := by
  obtain ⟨values, order, extra⟩ := o
  cases values <;> cases order <;> cases extra <;> rfl

/-- Relaxing the options never turns a match into a mismatch, with or without markers: whatever
matches under some options matches under relaxed ones.  No other change of the options has this
property. -/
theorem relaxing_keeps_matches (o o' : CompareOptions) :
    (∀ expected actual : Json,
      matchesDocument o expected actual = true → matchesDocument o' expected actual = true) ↔
      o.Relaxed o' := by
  constructor
  · intro h
    -- For each option there are two documents that match or not as it says.
    refine ⟨fun hvalues => ?_, fun horder => ?_, fun hextra' => ?_⟩
    · rw [← matchesDocument_truths] at hvalues ⊢
      exact h _ _ hvalues
    · rw [← matchesDocument_swapped] at horder ⊢
      exact h _ _ horder
    · cases hextra : o.disallowExtraFields with
      | true => rfl
      | false =>
        have hallowed : matchesDocument o (.object []) (.object [("n", .null)]) = true := by
          rw [matchesDocument_extra, hextra]
          rfl
        have hallowed' := h _ _ hallowed
        rw [matchesDocument_extra, hextra'] at hallowed'
        cases hallowed'
  · intro h expected actual hmatch
    rw [matchesDocument_iff] at hmatch ⊢
    exact hmatch.relaxed h

end Json

end Assay
