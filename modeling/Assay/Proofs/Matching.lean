import Assay.Check.Structure
import Assay.Proofs.Json
import Assay.Proofs.Pairing

/-
  When an actual document matches an expected one.

  `Json.Matches` says it by rules, without any search: one rule for a marker, one for two objects,
  two for two arrays (position by position, or by some pairing), and one for everything else.  No
  pair of documents falls under two of them, so the rules can be read backwards
  (`matches_marker_iff` and the lemmas behind it).  The comparison of `Check.Structure` finds no
  mismatch exactly for the documents that are related by these rules, whatever the options and
  whatever the engine for patterns (`PatternEngine`): compiling a pattern and testing a text are
  functions that are only passed on.

  1. Rules.  `Matches.pattern` asks that the pattern compiles and matches the text of the actual
     value; `Matches.object` asks for every expected member and, if extra members are not allowed,
     for nothing else; `Matches.inOrder` and `Matches.inAnyOrder` ask for as many items and a
     pairing of them, the second one for any bijection; `Matches.plain` is about types and values.

  2. Parts.  Each function of the comparison reports nothing exactly if its part of a rule holds
     (the lemmas that end with eq_nil_iff).  The one with an argument is the comparison without
     order: it looks for a pairing by augmenting paths, and reports the items that stay alone.  That
     no item stays alone exactly if some bijection pairs items that match
     (`unpairedItems_eq_nil_iff`) comes from the completeness of that search
     (`Pairing.unserved_eq_nil_iff`).

  3. The comparison.  By induction on the expected document, at any place (`compare_eq_nil_iff`).
     The induction hypothesis is about items and about values of members, so that both rules for
     arrays can use it.

  The theorem at the end says the same of the two functions that the checkers call.
-/

namespace Assay

/-! ## Markers -/

/-- The marker of a pattern. -/
def marker (pattern : String) : String := patternOpening ++ pattern ++ ")"

/-- A pattern is read off exactly its marker. -/
theorem patternOf?_eq_some_iff {s p : String} : patternOf? s = some p ↔ s = marker p := by
  have hback : ∀ t r : List Char, Text.stripBack [')'] t = some r ↔ t = r ++ [')'] := by
    intro t r
    rw [Text.stripBack, Option.map_eq_some_iff]
    constructor
    · rintro ⟨u, hu, rfl⟩
      have := congrArg List.reverse (Text.stripFront_eq_some.1 hu)
      simpa using this
    · rintro rfl
      exact ⟨r.reverse, Text.stripFront_eq_some.2 (by simp), List.reverse_reverse r⟩
  have hchars : s = marker p ↔ s.toList = patternOpening.toList ++ (p.toList ++ [')']) := by
    rw [← String.toList_inj, marker, String.toList_append, String.toList_append, List.append_assoc]
    rfl
  rw [hchars]
  simp only [patternOf?, Option.bind_eq_bind, Option.bind_eq_some_iff, Text.stripFront_eq_some,
    hback, Option.pure_def, Option.some.injEq]
  constructor
  · rintro ⟨t, hs, r, rfl, rfl⟩
    rw [hs, String.toList_ofList]
  · intro hs
    exact ⟨p.toList ++ [')'], hs, p.toList, rfl, String.ofList_toList⟩

/-! ## The rules -/

namespace Json

/-- The text that stands for a value: strings, numbers and truth values have one. -/
inductive HasText : Json → String → Prop where
  | string (s : String) : HasText (.string s) s
  | number (n : Json.Number) : HasText (.number n) (Json.number n).compact
  | bool (b : Bool) : HasText (.bool b) (Json.bool b).compact

/-- Two documents that no special rule is about: the expected one is no marker, and they are neither
two objects nor two arrays. -/
structure Plain (expected actual : Json) : Prop where
  marker : ∀ p, expected ≠ .string (marker p)
  objects : ∀ es as, ¬ (expected = .object es ∧ actual = .object as)
  arrays : ∀ es as, ¬ (expected = .array es ∧ actual = .array as)

/-- An actual document matches an expected one. -/
inductive Matches [PatternEngine] (o : CompareOptions) : Json → Json → Prop where
  /-- A marker stands for every value whose text its pattern matches. -/
  | pattern {p text : String} {r : PatternEngine.Compiled} {actual : Json} :
      PatternEngine.compile p = .ok r → HasText actual text → PatternEngine.isMatch r text = true →
      Matches o (.string (marker p)) actual
  /-- Every expected member is there and matches, and no other one is there if that is forbidden. -/
  | object {es as : List (String × Json)} :
      (∀ m ∈ es, (lookup m.1 as).isSome = true) →
      (∀ m ∈ es, ∀ v, lookup m.1 as = some v → Matches o m.2 v) →
      (o.disallowExtraFields = true → ∀ m ∈ as, ∃ e ∈ es, e.1 = m.1) →
      Matches o (.object es) (.object as)
  /-- Arrays of one length match position by position. -/
  | inOrder {es as : List Json} (hlen : es.length = as.length) :
      o.ignoreArrayOrder = false →
      (∀ i (hi : i < es.length), Matches o es[i] (as.get ⟨i, hlen ▸ hi⟩)) →
      Matches o (.array es) (.array as)
  /-- Where order does not count, they match if some bijection pairs items that match. -/
  | inAnyOrder {es as : List Json} (σ : Fin es.length ≃ Fin as.length) :
      o.ignoreArrayOrder = true → (∀ i, Matches o es[i] as[σ i]) →
      Matches o (.array es) (.array as)
  /-- Anything else matches what is of its type and, if values count, equal to it. -/
  | plain {expected actual : Json} :
      Plain expected actual → expected.typeName = actual.typeName →
      (o.ignoreValues = false → expected.same actual = true) → Matches o expected actual

/-! ## The rules read backwards -/

section Inversion

variable [PatternEngine] {o : CompareOptions}

/-- A marker is matched exactly by the values whose text its pattern matches. -/
theorem matches_marker_iff {p : String} {actual : Json} :
    Matches o (.string (marker p)) actual ↔
      ∃ r text, PatternEngine.compile p = .ok r ∧ HasText actual text ∧
        PatternEngine.isMatch r text = true := by
  constructor
  · intro h
    generalize he : Json.string (marker p) = e at h
    cases h with
    | pattern hr ht hm =>
      -- Two markers are equal only if their patterns are.
      have hp := patternOf?_eq_some_iff.2 (Json.string.inj he).symm
      rw [patternOf?_eq_some_iff.2 rfl] at hp
      rw [Option.some.inj hp] at hr
      exact ⟨_, _, hr, ht, hm⟩
    | object => cases he
    | inOrder => cases he
    | inAnyOrder => cases he
    | plain hp => exact absurd he.symm (hp.marker p)
  · rintro ⟨r, text, hr, ht, hm⟩
    exact .pattern hr ht hm

/-- An object is matched exactly by an object with its members and, if extra members are not
allowed, no others. -/
theorem matches_object_iff {es as : List (String × Json)} :
    Matches o (.object es) (.object as) ↔
      (∀ m ∈ es, ∃ v, lookup m.1 as = some v ∧ Matches o m.2 v) ∧
        (o.disallowExtraFields = true → ∀ m ∈ as, ∃ e ∈ es, e.1 = m.1) := by
  constructor
  · intro h
    cases h with
    | object hthere hmatch hextra =>
      refine ⟨fun m hm => ?_, hextra⟩
      obtain ⟨v, hv⟩ := Option.isSome_iff_exists.1 (hthere m hm)
      exact ⟨v, hv, hmatch m hm v hv⟩
    | plain hp => exact absurd ⟨rfl, rfl⟩ (hp.objects es as)
  · rintro ⟨hmembers, hextra⟩
    refine .object (fun m hm => ?_) (fun m hm v hv => ?_) hextra
    · obtain ⟨v, hv, -⟩ := hmembers m hm
      exact Option.isSome_iff_exists.2 ⟨v, hv⟩
    · obtain ⟨w, hw, hmatch⟩ := hmembers m hm
      rw [hw] at hv
      exact Option.some.inj hv ▸ hmatch

/-- If order counts, an array is matched exactly by an array that matches item by item. -/
theorem matches_array_iff_inOrder (ho : o.ignoreArrayOrder = false) {es as : List Json} :
    Matches o (.array es) (.array as) ↔
      ∃ hlen : es.length = as.length,
        ∀ i (hi : i < es.length), Matches o es[i] (as.get ⟨i, hlen ▸ hi⟩) := by
  constructor
  · intro h
    cases h with
    | inOrder hlen _ hmatch => exact ⟨hlen, hmatch⟩
    | inAnyOrder _ ho' => rw [ho] at ho'; cases ho'
    | plain hp => exact absurd ⟨rfl, rfl⟩ (hp.arrays es as)
  · rintro ⟨hlen, hmatch⟩
    exact .inOrder hlen ho hmatch

/-- If order does not count, an array is matched exactly by an array with a pairing of items that
match. -/
theorem matches_array_iff_inAnyOrder (ho : o.ignoreArrayOrder = true) {es as : List Json} :
    Matches o (.array es) (.array as) ↔
      ∃ σ : Fin es.length ≃ Fin as.length, ∀ i, Matches o es[i] as[σ i] := by
  constructor
  · intro h
    cases h with
    | inOrder _ ho' => rw [ho] at ho'; cases ho'
    | inAnyOrder σ _ hmatch => exact ⟨σ, hmatch⟩
    | plain hp => exact absurd ⟨rfl, rfl⟩ (hp.arrays es as)
  · rintro ⟨σ, hmatch⟩
    exact .inAnyOrder σ ho hmatch

/-- Plain documents match exactly if they are of one type and, if values count, the same. -/
theorem matches_plain_iff {expected actual : Json} (hp : Plain expected actual) :
    Matches o expected actual ↔ expected.typeName = actual.typeName ∧
      (o.ignoreValues = false → expected.same actual = true) := by
  constructor
  · intro h
    cases h with
    | pattern => exact absurd rfl (hp.marker _)
    | object => exact absurd ⟨rfl, rfl⟩ (hp.objects _ _)
    | inOrder => exact absurd ⟨rfl, rfl⟩ (hp.arrays _ _)
    | inAnyOrder => exact absurd ⟨rfl, rfl⟩ (hp.arrays _ _)
    | plain _ htype hsame => exact ⟨htype, hsame⟩
  · rintro ⟨htype, hsame⟩
    exact .plain hp htype hsame

end Inversion

/-! ## What the parts of the comparison report -/

section Parts

/-- A value has a text exactly if a pattern can be tested on it. -/
theorem hasText_iff {v : Json} {text : String} : HasText v text ↔ v.testableText? = some text := by
  constructor
  · rintro (_ | _ | _) <;> rfl
  · intro h
    cases v with
    | string s => cases h; exact .string text
    | number n => cases h; exact .number n
    | bool b => cases h; exact .bool b
    | null => cases h
    | array items => cases h
    | object members => cases h

variable {o : CompareOptions} {place : List Step}

/-- Plain documents differ in type, or in value if values count, or not at all. -/
theorem compareLeaves_eq_nil_iff {expected actual : Json} :
    compareLeaves o place expected actual = [] ↔ expected.typeName = actual.typeName ∧
      (o.ignoreValues = false → expected.same actual = true) := by
  rw [compareLeaves]
  by_cases htype : expected.typeName = actual.typeName
  · cases hv : o.ignoreValues <;> cases hs : expected.same actual <;> simp [htype]
  · simp [htype]

/-- No member of an object is one too many. -/
theorem unexpectedMembers_eq_nil_iff {es as : List (String × Json)} :
    unexpectedMembers place es as = [] ↔ ∀ m ∈ as, ∃ e ∈ es, e.1 = m.1 := by
  rw [unexpectedMembers, List.map_eq_nil_iff, List.filter_eq_nil_iff]
  refine forall₂_congr fun m _ => ?_
  rw [Option.isNone_iff_eq_none, ← ne_eq, ← Option.isSome_iff_ne_none, isSome_lookup]

/-- The actual items that an expected item matches, by their places. -/
def candidates (rows : List (List Bool)) (columns i : Nat) : List Nat :=
  (List.range columns).filter fun j => (rows.getD i []).getD j false

/-- Expected items stay alone exactly if rows stay without a column. -/
theorem unpairedItems_eq_nil {es : List Json} {rows : List (List Bool)} {columns : Nat} :
    unpairedItems place es rows columns = [] ↔
      Pairing.unserved (candidates rows columns) es.length columns = [] := by
  show (Pairing.unserved (candidates rows columns) es.length columns).filterMap _ = [] ↔ _
  rw [List.filterMap_eq_nil_iff]
  constructor
  · intro h
    refine List.eq_nil_iff_forall_not_mem.2 fun i hi => ?_
    have hlt : i < es.length := List.mem_range.1 (List.mem_filter.1 hi).1
    have := h i hi
    rw [List.getElem?_eq_getElem hlt] at this
    cases this
  · intro h i hi
    rw [h] at hi
    cases hi

variable [PatternEngine]

/-- A value is as its marker wants it to be. -/
theorem comparePattern_eq_nil_iff {p : String} {actual : Json} :
    comparePattern place p actual = [] ↔
      ∃ r text, PatternEngine.compile p = .ok r ∧ HasText actual text ∧
        PatternEngine.isMatch r text = true := by
  simp only [hasText_iff]
  rw [comparePattern]
  cases htext : actual.testableText? with
  | none => simp
  | some text =>
    simp only [testPattern]
    cases hr : PatternEngine.compile p with
    | error e => simp [Except.map]
    | ok r => cases hm : PatternEngine.isMatch r text <;> simp [Except.map, hm]

/-- No member of an object is missing or differs. -/
theorem compareMembers_eq_nil_iff {es as : List (String × Json)} :
    compareMembers o place es as = [] ↔
      ∀ m ∈ es, ∃ v, lookup m.1 as = some v ∧ compare o (place ++ [.member m.1]) m.2 v = [] := by
  induction es with
  | nil => simp [compareMembers]
  | cons m rest ih =>
    obtain ⟨key, value⟩ := m
    rw [compareMembers, List.append_eq_nil_iff, ih, List.forall_mem_cons]
    cases hv : lookup key as with
    | none => simp
    | some v => simp

/-- No item of an array differs from the one at its place.  Induction on the expected items; the
place of the first one grows. -/
theorem compareItems_eq_nil_iff {es as : List Json} (hlen : es.length = as.length) (i : Nat) :
    compareItems o place i es as = [] ↔ ∀ k (hk : k < es.length),
      compare o (place ++ [.item (i + k)]) es[k] (as.get ⟨k, hlen ▸ hk⟩) = [] := by
  induction es generalizing as i with
  | nil => simp [compareItems]
  | cons e es ih =>
    cases as with
    | nil => cases hlen
    | cons a as =>
      rw [compareItems, List.append_eq_nil_iff, ih (Nat.succ.inj hlen)]
      constructor
      · rintro ⟨hhead, htail⟩ k hk
        cases k with
        | zero => exact hhead
        | succ k =>
          have := htail k (Nat.lt_of_succ_lt_succ hk)
          rwa [Nat.add_right_comm] at this
      · intro h
        refine ⟨h 0 (Nat.succ_pos _), fun k hk => ?_⟩
        rw [Nat.add_right_comm]
        exact h (k + 1) (Nat.succ_lt_succ hk)

/-- The rows of a comparison without order: which expected item matches which actual one. -/
theorem matchRows_eq (es as : List Json) :
    matchRows o es as = es.map fun e => as.map fun a => (compare o [] e a).isEmpty := by
  induction es with
  | nil => rw [matchRows, List.map_nil]
  | cons e es ih => rw [matchRows, ih, List.map_cons]

theorem mem_candidates {es as : List Json} {i j : Nat} (hi : i < es.length) (hj : j < as.length) :
    j ∈ candidates (matchRows o es as) as.length i ↔ compare o [] es[i] as[j] = [] := by
  rw [candidates, List.mem_filter, List.mem_range, matchRows_eq]
  simp [hi, hj, List.getD_eq_getElem?_getD]

/-- No expected item stays alone exactly if some bijection pairs items that match. -/
theorem unpairedItems_eq_nil_iff {es as : List Json} (hlen : es.length = as.length) :
    unpairedItems place es (matchRows o es as) as.length = [] ↔
      ∃ σ : Fin es.length ≃ Fin as.length, ∀ i, compare o [] es[i] as[σ i] = [] := by
  have hbound : ∀ i, ∀ j ∈ candidates (matchRows o es as) as.length i, j < as.length :=
    fun i j hj => List.mem_range.1 (List.mem_filter.1 hj).1
  rw [unpairedItems_eq_nil, Pairing.unserved_eq_nil_iff hbound]
  constructor
  · rintro ⟨g, hinj, hg⟩
    -- Between sets of one size an injection is a bijection.
    have hbij : Function.Bijective g :=
      (Fintype.bijective_iff_injective_and_card g).2 ⟨hinj, by simp [hlen]⟩
    exact ⟨Equiv.ofBijective g hbij, fun i => (mem_candidates i.2 (g i).2).1 (hg i)⟩
  · rintro ⟨σ, hσ⟩
    exact ⟨σ, σ.injective, fun i => (mem_candidates i.2 (σ i).2).2 (hσ i)⟩

end Parts

/-! ## The comparison -/

/-- Documents of which the expected one is no string and no container. -/
theorem plain_of_leaf {expected actual : Json} (hs : ∀ s, expected ≠ .string s)
    (hm : ∀ es, expected ≠ .object es) (hi : ∀ es, expected ≠ .array es) : Plain expected actual :=
  ⟨fun p => hs (marker p), fun es _ h => hm es h.1, fun es _ h => hi es h.1⟩

variable [PatternEngine]

/-- Plain documents are compared as leaves. -/
theorem compare_of_plain {expected actual : Json} (hp : Plain expected actual) (o : CompareOptions)
    (place : List Step) :
    compare o place expected actual = compareLeaves o place expected actual := by
  cases expected with
  | null => rw [compare] <;> nofun
  | bool b => rw [compare] <;> nofun
  | number n => rw [compare] <;> nofun
  | string s =>
    rw [compare]
    cases h : patternOf? s with
    | none => rfl
    | some p => exact absurd (congrArg Json.string (patternOf?_eq_some_iff.1 h)) (hp.marker p)
  | object es =>
    rw [compare]
    · nofun
    · exact fun es' as he ha => hp.objects es' as ⟨he, ha⟩
    · nofun
  | array es =>
    rw [compare]
    · nofun
    · nofun
    · exact fun es' as he ha => hp.arrays es' as ⟨he, ha⟩

/-- Comparing plain documents follows the rule for them. -/
theorem compare_eq_nil_iff_of_plain {expected actual : Json} (hp : Plain expected actual)
    {o : CompareOptions} {place : List Step} :
    compare o place expected actual = [] ↔ Matches o expected actual := by
  rw [compare_of_plain hp, compareLeaves_eq_nil_iff, matches_plain_iff hp]

/-- Two objects follow their rule if the values of the expected one follow theirs. -/
theorem compare_object_eq_nil_iff {o : CompareOptions} {es as : List (String × Json)}
    (ih : ∀ m ∈ es, ∀ place actual, compare o place m.2 actual = [] ↔ Matches o m.2 actual)
    (place : List Step) :
    compare o place (.object es) (.object as) = [] ↔ Matches o (.object es) (.object as) := by
  rw [compare, List.append_eq_nil_iff, compareMembers_eq_nil_iff, matches_object_iff]
  refine and_congr (forall₂_congr fun m hm => ?_) ?_
  · simp only [ih m hm]
  · cases o.disallowExtraFields with
    | false => simp
    | true => simpa using unexpectedMembers_eq_nil_iff

/-- Two arrays follow their rules if the items of the expected one follow theirs. -/
theorem compare_array_eq_nil_iff {o : CompareOptions} {es as : List Json}
    (ih : ∀ v ∈ es, ∀ place actual, compare o place v actual = [] ↔ Matches o v actual)
    (place : List Step) :
    compare o place (.array es) (.array as) = [] ↔ Matches o (.array es) (.array as) := by
  have hitem : ∀ i (hi : i < es.length) place actual,
      compare o place es[i] actual = [] ↔ Matches o es[i] actual :=
    fun i hi => ih es[i] (List.getElem_mem hi)
  rw [compare]
  cases ho : o.ignoreArrayOrder with
  | true =>
    rw [matches_array_iff_inAnyOrder ho]
    by_cases hlen : es.length = as.length
    · rw [if_neg (not_not.2 hlen), if_pos rfl, unpairedItems_eq_nil_iff hlen]
      exact exists_congr fun σ => forall_congr' fun i => hitem i i.2 [] as[σ i]
    · rw [if_pos hlen]
      refine iff_of_false (List.cons_ne_nil _ _) ?_
      rintro ⟨σ, -⟩
      exact hlen (by simpa using Fintype.card_congr σ)
  | false =>
    rw [matches_array_iff_inOrder ho]
    by_cases hlen : es.length = as.length
    · rw [if_neg (not_not.2 hlen), if_neg Bool.false_ne_true, compareItems_eq_nil_iff hlen,
        exists_prop_of_true hlen]
      exact forall₂_congr fun i hi => hitem i hi _ _
    · rw [if_pos hlen]
      refine iff_of_false (List.cons_ne_nil _ _) ?_
      rintro ⟨h, -⟩
      exact hlen h

/-- A comparison at any place finds nothing exactly if the documents match.  Induction on the
expected document. -/
theorem compare_eq_nil_iff (o : CompareOptions) (expected : Json) :
    ∀ (place : List Step) (actual : Json),
      compare o place expected actual = [] ↔ Matches o expected actual := by
  induction expected with
  | null =>
    intro place actual
    refine compare_eq_nil_iff_of_plain (plain_of_leaf ?_ ?_ ?_) <;> nofun
  | bool b =>
    intro place actual
    refine compare_eq_nil_iff_of_plain (plain_of_leaf ?_ ?_ ?_) <;> nofun
  | number n =>
    intro place actual
    refine compare_eq_nil_iff_of_plain (plain_of_leaf ?_ ?_ ?_) <;> nofun
  | string s =>
    intro place actual
    cases hp : patternOf? s with
    | some p =>
      rw [compare, hp, patternOf?_eq_some_iff.1 hp, matches_marker_iff]
      exact comparePattern_eq_nil_iff
    | none =>
      refine compare_eq_nil_iff_of_plain ⟨fun p heq => ?_, by nofun, by nofun⟩
      rw [patternOf?_eq_some_iff.2 (Json.string.inj heq)] at hp
      cases hp
  | object es ih =>
    intro place actual
    by_cases h : ∃ as, actual = .object as
    · obtain ⟨as, rfl⟩ := h
      exact compare_object_eq_nil_iff ih place
    · exact compare_eq_nil_iff_of_plain ⟨by nofun, fun _ as heq => h ⟨as, heq.2⟩, by nofun⟩
  | array es ih =>
    intro place actual
    by_cases h : ∃ as, actual = .array as
    · obtain ⟨as, rfl⟩ := h
      exact compare_array_eq_nil_iff ih place
    · exact compare_eq_nil_iff_of_plain ⟨by nofun, by nofun, fun _ as heq => h ⟨as, heq.2⟩⟩

/-- The comparison reports nothing, whoever asks for it, exactly if the documents match by the
rules. -/
theorem comparison_agrees_with_rules (o : CompareOptions) (expected actual : Json) :
    (∀ checker, diagnose checker o expected actual = [] ↔ Matches o expected actual) ∧
      (matchesDocument o expected actual = true ↔ Matches o expected actual) := by
  refine ⟨fun checker => ?_, ?_⟩
  · rw [diagnose, diagnoseAt, List.map_eq_nil_iff, compare_eq_nil_iff]
  · rw [matchesDocument, List.isEmpty_iff, compare_eq_nil_iff]

end Json

end Assay
