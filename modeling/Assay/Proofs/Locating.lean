import Assay.Proofs.Matching
import Assay.Proofs.Paths

/-
  Where mismatches are.

  The path of a diagnostic is to say where two documents differ.  `Json.Differs` says for every
  cause what is found in the two documents at the place of a mismatch, and every mismatch that the
  comparison reports is of this kind (`Json.Located`, by induction on the expected document).
  Written as a path, a place is found again by a query, unless an item of an array inside an array
  is on the way (`Step.Separate`): two indices next to each other are more than a query reads.

  Two things are asked of the documents: each name can be part of a path, and each item has a
  position (`Json.Navigable`).  The expected one is ordered as well, so that each of its members is
  found under its name.  The comparison goes item by item; without order there is no place to speak
  of.

  1. Documents with places.  In a navigable document every step that leads somewhere can be part of
     a path (`Navigable.step`, `Navigable.plain`).

  2. Mismatches.  `Located o place e a m rest` says that the mismatch `m` of two documents that
     stand at `place` is `rest` further on.  There are three ways to get one: here (`Located.here`),
     one step further on, where one of the documents has nothing (`Located.step`), and further on
     inside two parts that stand under the same step (`Located.under`).  Each part of the comparison
     is of one of these ways (`located_of_mem_comparePattern`, `located_of_mem_compareLeaves`,
     `located_of_mem_objects`, `located_of_mem_arrays`), and `located_of_mem_compare` is the
     induction.

  3. Paths.  A place is written step by step, and what a query with this path finds is what both
     documents have there (`query_of_separate`); otherwise both refuse it (`query_of_not_separate`).

  None of this depends on the engine for patterns, of which only the answer is reported.
-/

namespace Assay

namespace Json

/-! ## Documents with places -/

mutual
/-- The names of all members can be part of a path, and all items have a position. -/
def Navigable : Json → Prop
  | .array items => items.length ≤ indexLimit ∧ NavigableItems items
  | .object members => NavigableMembers members
  | _ => True
/-- Every document of the list is navigable. -/
def NavigableItems : List Json → Prop
  | [] => True
  | v :: rest => Navigable v ∧ NavigableItems rest
/-- Every name can be part of a path, and every value is navigable. -/
def NavigableMembers : List (String × Json) → Prop
  | [] => True
  | (key, v) :: rest => Step.PlainName key ∧ Navigable v ∧ NavigableMembers rest
end

/-- The items of a navigable array are navigable. -/
theorem navigable_of_mem {items : List Json} (h : NavigableItems items) :
    ∀ v ∈ items, v.Navigable := by
  induction items with
  | nil => exact fun v hv => absurd hv List.not_mem_nil
  | cons w rest ih => exact List.forall_mem_cons.mpr ⟨h.1, ih h.2⟩

/-- The members of a navigable object have plain names and navigable values. -/
theorem navigable_of_lookup {key : String} {v : Json} {members : List (String × Json)}
    (h : NavigableMembers members) (hv : lookup key members = some v) :
    Step.PlainName key ∧ v.Navigable := by
  induction members with
  | nil => cases hv
  | cons m rest ih =>
    obtain ⟨k, w⟩ := m
    obtain ⟨hname, hvalue, hrest⟩ := h
    rw [lookup] at hv
    split at hv
    · next hk =>
      cases hv
      exact ⟨hk ▸ hname, hvalue⟩
    · exact ih hrest hv

/-- In a navigable document a step that leads somewhere can be part of a path. -/
theorem Navigable.step {v w : Json} {s : Step} (h : v.Navigable) (hs : v.step? s = some w) :
    s.Plain ∧ w.Navigable := by
  cases s with
  | member key =>
    cases v with
    | object members => exact navigable_of_lookup h hs
    | null => cases hs
    | bool b => cases hs
    | number n => cases hs
    | string t => cases hs
    | array items => cases hs
  | item i =>
    cases v with
    | array items =>
      obtain ⟨hi, -⟩ := List.getElem?_eq_some_iff.mp hs
      exact ⟨Nat.lt_of_lt_of_le hi h.1, navigable_of_mem h.2 w (List.mem_of_getElem? hs)⟩
    | null => cases hs
    | bool b => cases hs
    | number n => cases hs
    | string t => cases hs
    | object members => cases hs

/-- So can all steps of a place.  Induction on the place. -/
theorem Navigable.plain {place : List Step} : ∀ {v : Json}, v.Navigable →
    (v.follow place).isSome = true → ∀ s ∈ place, s.Plain := by
  induction place with
  | nil => exact fun _ _ s hs => absurd hs List.not_mem_nil
  | cons s rest ih =>
    intro v hv hfollow
    obtain ⟨w, hstep, hon⟩ := isSome_follow_cons.mp hfollow
    obtain ⟨hplain, hw⟩ := hv.step hstep
    exact List.forall_mem_cons.mpr ⟨hplain, ih hw hon⟩

/-! ## Mismatches and their places -/

/-- What two documents have at the place of a mismatch. -/
inductive Differs [PatternEngine] (o : CompareOptions) :
    Option Json → Option Json → MismatchCause → Prop where
  /-- An expected value is not there. -/
  | missing (e : Json) : Differs o (some e) none .missing
  /-- A value that nobody expects is there, and that counts. -/
  | unexpected (a : Json) : o.disallowExtraFields = true → Differs o none (some a) .unexpected
  /-- Arrays have different lengths. -/
  | lengths {es as : List Json} : es.length ≠ as.length →
      Differs o (some (.array es)) (some (.array as)) (.lengths es.length as.length)
  /-- Values have different types. -/
  | types {e a : Json} : e.typeName ≠ a.typeName →
      Differs o (some e) (some a) (.types e.typeName a.typeName)
  /-- Values of one type differ, and values count. -/
  | values {e a : Json} : e.typeName = a.typeName → o.ignoreValues = false → e.same a = false →
      Differs o (some e) (some a) (.values e a)
  /-- A marker is to be matched by something that has no text. -/
  | noText {p : String} {a : Json} : (∀ text, ¬ HasText a text) →
      Differs o (some (.string (marker p))) (some a) (.noText p a.typeName)
  /-- The text of a value does not match the pattern of its marker. -/
  | noMatch {p text : String} {a : Json} : HasText a text → testPattern p text = .ok false →
      Differs o (some (.string (marker p))) (some a) (.noMatch p a)
  /-- The pattern of a marker is none. -/
  | badPattern {p text : String} {a : Json} {err : Regex.Error} : HasText a text →
      testPattern p text = .error err →
      Differs o (some (.string (marker p))) (some a) (.badPattern p err)

/-- There is something in one of the documents at least. -/
theorem Differs.isSome_or [PatternEngine] {o : CompareOptions} {e a : Option Json}
    {cause : MismatchCause} (h : Differs o e a cause) : e.isSome = true ∨ a.isSome = true := by
  cases h with
  | unexpected => exact .inr rfl
  | _ => exact .inl rfl

/-- A mismatch that two documents have, as they stand at a place: some steps further on they differ,
and both have what these steps lead through. -/
structure Located [PatternEngine] (o : CompareOptions) (place : List Step) (e a : Json)
    (m : Mismatch) (rest : List Step) : Prop where
  place : m.place = place ++ rest
  differs : Differs o (e.follow rest) (a.follow rest) m.cause
  expected : (e.follow rest.dropLast).isSome = true
  actual : (a.follow rest.dropLast).isSome = true

/-- A mismatch for a member that nobody expects. -/
theorem mem_unexpectedMembers {es as : List (String × Json)}
    (h : m ∈ unexpectedMembers place es as) :
    ∃ x ∈ as, lookup x.1 es = none ∧ m = ⟨place ++ [.member x.1], .unexpected⟩ := by
  obtain ⟨x, hx, rfl⟩ := List.mem_map.mp h
  obtain ⟨hmem, hnone⟩ := List.mem_filter.mp hx
  exact ⟨x, hmem, Option.isNone_iff_eq_none.mp hnone, rfl⟩

section Parts

variable [PatternEngine] {o : CompareOptions} {place : List Step} {e a : Json} {m : Mismatch}

/-- The documents themselves differ. -/
theorem Located.here {cause : MismatchCause} (h : Differs o (some e) (some a) cause) :
    Located o place e a ⟨place, cause⟩ [] :=
  ⟨(List.append_nil _).symm, h, rfl, rfl⟩

/-- One of the documents lacks what a step leads to in the other one. -/
theorem Located.step {s : Step} {cause : MismatchCause}
    (h : Differs o (e.step? s) (a.step? s) cause) :
    Located o place e a ⟨place ++ [s], cause⟩ [s] where
  place := rfl
  differs := by
    rw [follow_singleton, follow_singleton]
    exact h
  expected := rfl
  actual := rfl

/-- What a step leads to differs. -/
theorem Located.under {s : Step} {e' a' : Json} {rest : List Step}
    (h : Located o (place ++ [s]) e' a' m rest) (he : e.step? s = some e')
    (ha : a.step? s = some a') :
    Located o place e a m (s :: rest) where
  place := by rw [h.place, List.append_assoc, List.singleton_append]
  differs := by
    rw [follow, follow, he, ha]
    exact h.differs
  expected := by
    cases rest with
    | nil => rfl
    | cons t rest => exact isSome_follow_cons.mpr ⟨e', he, h.expected⟩
  actual := by
    cases rest with
    | nil => rfl
    | cons t rest => exact isSome_follow_cons.mpr ⟨a', ha, h.actual⟩

theorem located_of_mem_comparePattern {p : String} (h : m ∈ comparePattern place p a) :
    ∃ rest, Located o place (.string (marker p)) a m rest := by
  refine ⟨[], ?_⟩
  rw [comparePattern] at h
  cases htext : a.testableText? with
  | none =>
    rw [htext] at h
    rw [List.mem_singleton.mp h]
    refine .here (.noText fun text ht => ?_)
    rw [hasText_iff, htext] at ht
    cases ht
  | some text =>
    rw [htext] at h
    dsimp only at h
    have ht : HasText a text := hasText_iff.mpr htext
    cases hresult : testPattern p text with
    | error err =>
      rw [hresult] at h
      rw [List.mem_singleton.mp h]
      exact .here (.badPattern ht hresult)
    | ok matched =>
      rw [hresult] at h
      cases matched with
      | true => cases h
      | false =>
        rw [List.mem_singleton.mp h]
        exact .here (.noMatch ht hresult)

theorem located_of_mem_compareLeaves (h : m ∈ compareLeaves o place e a) :
    ∃ rest, Located o place e a m rest := by
  refine ⟨[], ?_⟩
  rw [compareLeaves] at h
  split at h
  · next htype =>
    rw [List.mem_singleton.mp h]
    exact .here (.types htype)
  · next htype =>
    split at h
    · next hvalues =>
      rw [Bool.and_eq_true, Bool.not_eq_true', Bool.not_eq_true'] at hvalues
      rw [List.mem_singleton.mp h]
      exact .here (.values (not_not.mp htype) hvalues.1 hvalues.2)
    · cases h

/-- A mismatch under the members of an object: one of them is missing, or its value differs. -/
theorem mem_compareMembers {es as : List (String × Json)} (h : m ∈ compareMembers o place es as) :
    ∃ x ∈ es, (lookup x.1 as = none ∧ m = ⟨place ++ [.member x.1], .missing⟩) ∨
      ∃ v, lookup x.1 as = some v ∧ m ∈ compare o (place ++ [.member x.1]) x.2 v := by
  induction es with
  | nil => cases h
  | cons x rest ih =>
    obtain ⟨key, value⟩ := x
    rw [compareMembers, List.mem_append] at h
    rcases h with h | h
    · refine ⟨(key, value), List.mem_cons_self, ?_⟩
      cases hv : lookup key as with
      | none =>
        rw [hv] at h
        exact .inl ⟨rfl, List.mem_singleton.mp h⟩
      | some v =>
        rw [hv] at h
        exact .inr ⟨v, rfl, h⟩
    · obtain ⟨x, hx, hm⟩ := ih h
      exact ⟨x, List.mem_cons_of_mem _ hx, hm⟩

/-- A mismatch between items: it is one between those at some position.  Induction on the expected
items; the position of the first one grows. -/
theorem mem_compareItems {es as : List Json} {i : Nat} (h : m ∈ compareItems o place i es as) :
    ∃ k e a, es[k]? = some e ∧ as[k]? = some a ∧ m ∈ compare o (place ++ [.item (i + k)]) e a := by
  induction es generalizing i as with
  | nil => exact absurd (show m ∈ [] from h) List.not_mem_nil
  | cons e es ih =>
    cases as with
    | nil => exact absurd (show m ∈ [] from h) List.not_mem_nil
    | cons a as =>
      rw [compareItems, List.mem_append] at h
      rcases h with h | h
      · exact ⟨0, e, a, rfl, rfl, h⟩
      · obtain ⟨k, e', a', he, ha, hm⟩ := ih h
        exact ⟨k + 1, e', a', he, ha, by rwa [Nat.add_right_comm] at hm⟩

/-- Two objects differ at places, if the values of the expected one do. -/
theorem located_of_mem_objects {es as : List (String × Json)} (hordered : (Json.object es).Ordered)
    (ih : ∀ x ∈ es, ∀ place actual m, m ∈ compare o place x.2 actual →
      ∃ rest, Located o place x.2 actual m rest)
    (h : m ∈ compare o place (.object es) (.object as)) :
    ∃ rest, Located o place (.object es) (.object as) m rest := by
  have hstep : ∀ ms key, (Json.object ms).step? (.member key) = lookup key ms := fun _ _ => rfl
  have hfound : ∀ x ∈ es, lookup x.1 es = some x.2 := fun x hx =>
    (lookup_eq_some_iff (hordered.1.imp String.ne_of_lt)).mpr hx
  rw [compare, List.mem_append] at h
  rcases h with h | h
  · obtain ⟨x, hx, ⟨hnone, rfl⟩ | ⟨v, hv, hm⟩⟩ := mem_compareMembers h
    · refine ⟨_, .step ?_⟩
      rw [hstep, hstep, hfound x hx, hnone]
      exact .missing x.2
    · obtain ⟨rest, hrest⟩ := ih x hx _ v m hm
      exact ⟨_, hrest.under ((hstep es x.1).trans (hfound x hx)) ((hstep as x.1).trans hv)⟩
  · split at h
    · next hextra =>
      obtain ⟨x, hx, hnone, rfl⟩ := mem_unexpectedMembers h
      obtain ⟨v, hv⟩ := Option.isSome_iff_exists.mp (isSome_lookup.mpr ⟨x, hx, rfl⟩)
      refine ⟨_, .step ?_⟩
      rw [hstep, hstep, hnone, hv]
      exact .unexpected v hextra
    · cases h

/-- Two arrays differ at places, if the items of the expected one do. -/
theorem located_of_mem_arrays {es as : List Json} (horder : o.ignoreArrayOrder = false)
    (ih : ∀ x ∈ es, ∀ place actual m, m ∈ compare o place x actual →
      ∃ rest, Located o place x actual m rest)
    (h : m ∈ compare o place (.array es) (.array as)) :
    ∃ rest, Located o place (.array es) (.array as) m rest := by
  rw [compare] at h
  split at h
  · next hlen =>
    rw [List.mem_singleton.mp h]
    exact ⟨[], .here (.lengths hlen)⟩
  · rw [if_neg (by rw [horder]; exact Bool.false_ne_true)] at h
    obtain ⟨k, e, a, he, ha, hm⟩ := mem_compareItems h
    rw [Nat.zero_add] at hm
    obtain ⟨rest, hrest⟩ := ih e (List.mem_of_getElem? he) _ a m hm
    have he' : (Json.array es).step? (.item k) = some e := he
    have ha' : (Json.array as).step? (.item k) = some a := ha
    exact ⟨_, hrest.under he' ha'⟩

end Parts

/-- Every mismatch has its place.  Induction on the expected document. -/
theorem located_of_mem_compare [PatternEngine] {o : CompareOptions}
    (horder : o.ignoreArrayOrder = false) (expected : Json) :
    expected.Ordered → ∀ place actual m, m ∈ compare o place expected actual →
      ∃ rest, Located o place expected actual m rest := by
  have hplain : ∀ {e a : Json}, Plain e a → ∀ place m, m ∈ compare o place e a →
      ∃ rest, Located o place e a m rest := by
    intro e a hp place m hm
    rw [compare_of_plain hp] at hm
    exact located_of_mem_compareLeaves hm
  induction expected with
  | null =>
    refine fun _ place actual => hplain (plain_of_leaf ?_ ?_ ?_) place <;> intro _ h <;> cases h
  | bool b =>
    refine fun _ place actual => hplain (plain_of_leaf ?_ ?_ ?_) place <;> intro _ h <;> cases h
  | number n =>
    refine fun _ place actual => hplain (plain_of_leaf ?_ ?_ ?_) place <;> intro _ h <;> cases h
  | string s =>
    intro _ place actual m hm
    cases hp : patternOf? s with
    | some p =>
      rw [compare, hp] at hm
      rw [patternOf?_eq_some_iff.mp hp]
      exact located_of_mem_comparePattern hm
    | none =>
      refine hplain ⟨fun p heq => ?_, fun _ _ heq => ?_, fun _ _ heq => ?_⟩ place m hm
      · rw [patternOf?_eq_some_iff.mpr (Json.string.inj heq)] at hp
        cases hp
      · cases heq.1
      · cases heq.1
  | object es ih =>
    intro hordered place actual m hm
    by_cases h : ∃ as, actual = .object as
    · obtain ⟨as, rfl⟩ := h
      have hvalues := orderedMembers_iff.mp hordered.2
      exact located_of_mem_objects hordered (fun x hx => ih x hx (hvalues x hx)) hm
    · refine hplain ⟨fun p heq => ?_, fun _ as heq => h ⟨as, heq.2⟩, fun _ _ heq => ?_⟩ place m hm
      · cases heq
      · cases heq.1
  | array es ih =>
    intro hordered place actual m hm
    by_cases h : ∃ as, actual = .array as
    · obtain ⟨as, rfl⟩ := h
      have hitems := orderedItems_iff.mp hordered
      exact located_of_mem_arrays horder (fun x hx => ih x hx (hitems x hx)) hm
    · refine hplain ⟨fun p heq => ?_, fun _ _ heq => ?_, fun _ as heq => h ⟨as, heq.2⟩⟩ place m hm
      · cases heq
      · cases heq.1

/-! ## The paths of diagnostics -/

/-- Where diagnostics point.  The comparison of an expected document with an actual one, both
navigable and arrays item by item, gives a diagnostic unless they match, and every diagnostic has
the path of a place at which the two have what its cause says.  If no index stands directly behind
another one in it, then a query with this path gives just what the documents have there; otherwise
both refuse it because of an invalid index. -/
theorem diagnostics_point_at_differences [PatternEngine] (checker : String) (o : CompareOptions)
    (horder : o.ignoreArrayOrder = false) (expected actual : Json) (hordered : expected.Ordered)
    (hexpected : expected.Navigable) (hactual : actual.Navigable) :
    (diagnose checker o expected actual = [] ↔ Matches o expected actual) ∧
    ∀ d ∈ diagnose checker o expected actual, ∃ place cause,
      let path := Step.join "$" place
      d = .anchored checker path cause.message ∧
      Differs o (expected.follow place) (actual.follow place) cause ∧
      (Step.Separate place → expected.query path = .ok (expected.follow place) ∧
        actual.query path = .ok (actual.follow place)) ∧
      (¬ Step.Separate place → (∃ index, expected.query path = .error (.invalidIndex index path)) ∧
        ∃ index, actual.query path = .error (.invalidIndex index path)) := by
  refine ⟨List.map_eq_nil_iff.trans (compare_eq_nil_iff o expected [] actual), fun d hd => ?_⟩
  obtain ⟨m, hm, rfl⟩ := List.mem_map.mp hd
  obtain ⟨rest, hlocated⟩ := located_of_mem_compare horder expected hordered [] actual m hm
  have hplace : m.place = rest := hlocated.place
  have hplain : ∀ s ∈ rest, s.Plain := by
    rcases hlocated.differs.isSome_or with h | h
    · exact hexpected.plain h
    · exact hactual.plain h
  refine ⟨rest, m.cause, ?_, hlocated.differs, fun h => ⟨?_, ?_⟩, fun h => ⟨?_, ?_⟩⟩
  · rw [Mismatch.diagnostic, hplace]
  · exact query_of_separate hplain h expected
  · exact query_of_separate hplain h actual
  · exact query_of_not_separate hplain h hlocated.expected
  · exact query_of_not_separate hplain h hlocated.actual

/-- A list of items, of which the first one is to have the given code. -/
def itemsDocument (code : String) : Json :=
  .object [("items", .array [.object [("sku", .string code)]])]

/-- Such a list can be navigated. -/
theorem navigable_itemsDocument (code : String) : (itemsDocument code).Navigable := by
  have hitems : Step.PlainName "items" := by simp [Step.PlainName, Text.isBlank]
  have hsku : Step.PlainName "sku" := by simp [Step.PlainName, Text.isBlank]
  simp [itemsDocument, Navigable, NavigableMembers, NavigableItems, indexLimit, hitems, hsku]

/-- An item with another code than expected: its diagnostic points at the code. -/
theorem different_code_is_pointed_at :
    CompareOptions.strict.ignoreArrayOrder = false ∧ (itemsDocument "a").Ordered ∧
    (itemsDocument "a").Navigable ∧ (itemsDocument "b").Navigable ∧
    diagnose "body" .strict (itemsDocument "a") (itemsDocument "b") =
      [.anchored "body" "$.items[0].sku" "expected \"a\", got \"b\""] ∧
    (itemsDocument "a").query "$.items[0].sku" = .ok (some (.string "a")) ∧
    (itemsDocument "b").query "$.items[0].sku" = .ok (some (.string "b")) ∧
    ∃ place cause, Step.join "$" place = "$.items[0].sku" ∧
      Differs .strict ((itemsDocument "a").follow place) ((itemsDocument "b").follow place)
        cause := by
  have hordered : (itemsDocument "a").Ordered := by
    simp [itemsDocument, Ordered, OrderedMembers, OrderedItems]
  have hdiagnosed : diagnose "body" .strict (itemsDocument "a") (itemsDocument "b") =
      [.anchored "body" "$.items[0].sku" "expected \"a\", got \"b\""] := by decide +kernel
  refine ⟨rfl, hordered, navigable_itemsDocument _, navigable_itemsDocument _, hdiagnosed, rfl, rfl,
    ?_⟩
  obtain ⟨-, hpoints⟩ := diagnostics_point_at_differences "body" .strict rfl (itemsDocument "a")
    (itemsDocument "b") hordered (navigable_itemsDocument _) (navigable_itemsDocument _)
  obtain ⟨place, cause, hpath, hdiffers, -⟩ := hpoints _ (hdiagnosed ▸ List.mem_singleton_self _)
  exact ⟨place, cause, (Option.some.inj (congrArg Diagnostic.path hpath)).symm, hdiffers⟩

/-- A number in an array that is an item of an array. -/
def nestedDocument (n : UInt64) : Json := .array [.array [.word n]]

/-- The difference between two such numbers is reported at a path that a query refuses. -/
theorem index_behind_index_is_refused :
    CompareOptions.strict.ignoreArrayOrder = false ∧ (nestedDocument 1).Ordered ∧
    (nestedDocument 1).Navigable ∧ (nestedDocument 2).Navigable ∧
    diagnose "body" .strict (nestedDocument 1) (nestedDocument 2) =
      [.anchored "body" "$[0][0]" "expected 1, got 2"] ∧
    (nestedDocument 1).query "$[0][0]" = .error (.invalidIndex "0][0" "$[0][0]") ∧
    (nestedDocument 2).query "$[0][0]" = .error (.invalidIndex "0][0" "$[0][0]") := by
  refine ⟨rfl, ?_, ?_, ?_, ?_, ?_, ?_⟩
  · simp [nestedDocument, word, Ordered, OrderedItems]
  · simp [nestedDocument, word, Navigable, NavigableItems, indexLimit]
  · simp [nestedDocument, word, Navigable, NavigableItems, indexLimit]
  · decide +kernel
  · rfl
  · rfl

end Json

end Assay
