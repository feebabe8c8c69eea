import Assay.Check.Assertions
import Assay.Proofs.Expecting

/-
  Small letters inside a larger text.

  To ignore case, the body of a response and the text that is looked for in it are both put into
  small letters, each by itself.  The small form of a character is its own, wherever it stands, but
  for one: a capital sigma has another small form at the end of a word.  So the text may lose its
  place: it occurs in the body, and its small form does not occur in that of the body.

  The theorem of this module says which texts this can happen to.  A text is `Settled` if none of
  its capital sigmas can change its form by what surrounds the text; for settled texts, and for no
  others, ignoring case only lets more through.

  1. What a sigma looks at.  It looks for a cased letter before it and one after it, over the
     characters that are skipped.  Each side of it has a letter that decides, or has none as far as
     the text goes (`Text.base`, `caseOf`), and then what surrounds the text decides.  If the sides
     are `Decided`, then nothing around them matters (`isFinal_of_decided`); if not, a cased letter
     on one of the sides makes a difference (`exists_other_of_not_decided`).

  2. Small letters in context.  `lowerWithin` is the small form of a text between two others, and it
     can be cut anywhere (`lowerWithin_append`).  Its length does not depend on the context
     (`length_lowerWithin`).

  3. Settled texts have the same small form everywhere (`lowerWithin_of_settled`, by induction on
     what is left of the text).

  4. Texts that are not settled.  One more letter around such a text changes its small form
     (`lowerWithin_ne_of_sigma`).  That the old form does not occur in the new text at some other
     place is the only difficulty: a piece that is one letter shorter is the front or ends like the
     text, and the letter can be chosen such that it does not fit (`exists_letter`).  `settled_iff`
     puts both halves together.
-/

namespace Assay

namespace Text

/-! ## What a sigma looks at -/

/-- The first character that is not skipped. -/
def base (s : List Char) : Option Char := s.find? fun c => !Unicode.caseIgnorable.has c

/-- Whether that character is a cased letter, if there is one. -/
def caseOf (s : List Char) : Option Bool := (base s).map Unicode.cased.has

/-- A cased letter lies ahead exactly if the letter that decides is cased. -/
theorem casedAhead_eq (s : List Char) : casedAhead s = (caseOf s == some true) := by
  induction s with
  | nil => rfl
  | cons c rest ih =>
    rw [casedAhead, caseOf, base, List.dropWhile_cons, List.find?_cons]
    cases hskip : Unicode.caseIgnorable.has c with
    | true => exact ih
    | false => cases hcased : Unicode.cased.has c <;> simp [hcased]

theorem caseOf_nil : caseOf [] = none := rfl

/-- A letter in the first text decides, and if there is none, one in the second. -/
theorem caseOf_append (s t : List Char) : caseOf (s ++ t) = (caseOf s).or (caseOf t) := by
  rw [caseOf, base, List.find?_append, caseOf, caseOf, base, base]
  cases s.find? fun c => !Unicode.caseIgnorable.has c <;> rfl

/-- A capital sigma between two sides is final: there is a cased letter before it and none after
it. -/
def isFinal (before after : Option Bool) : Bool := before == some true && !(after == some true)

/-- What stands around the two sides does not matter. -/
def Decided (before after : Option Bool) : Prop :=
  before = some false ∨ after = some true ∨ before = some true ∧ after = some false

/-- If the sides are decided, then what stands further away changes nothing. -/
theorem isFinal_of_decided {before after : Option Bool} (h : Decided before after)
    (farBefore farAfter : Option Bool) :
    isFinal (before.or farBefore) (after.or farAfter) = isFinal before after := by
  rcases h with rfl | rfl | ⟨rfl, rfl⟩
  · rfl
  · cases before <;> cases farBefore <;> simp [isFinal]
  · rfl

/-- On one of the two sides a cased letter makes a difference. -/
theorem exists_other_of_not_decided {before after : Option Bool} (h : ¬Decided before after) :
    isFinal before (after.or (some true)) ≠ isFinal before after ∨
      isFinal (before.or (some true)) after ≠ isFinal before after := by
  rcases before with _ | _ | _ <;> rcases after with _ | _ | _ <;> simp_all [Decided, isFinal]

/-! ## Small letters in context -/

/-- The small form of a character, a capital sigma being final or not. -/
def lowerAs (final : Bool) (c : Char) : List Char :=
  if c.toNat = 0x3A3 then if final then [charAt 0x3C2] else [charAt 0x3C3] else lowerChar c

/-- The small form of a text that stands between two others; the one before it is in reverse. -/
def lowerWithin (before : List Char) : List Char → List Char → List Char
  | [], _ => []
  | c :: rest, after =>
    lowerAs (isFinal (caseOf before) (caseOf (rest ++ after))) c ++
      lowerWithin (c :: before) rest after

/-- Small letters from some place on are those of a text with nothing behind it. -/
theorem lowerFrom_eq (before s : List Char) : lowerFrom before s = lowerWithin before s [] := by
  induction s generalizing before with
  | nil => rfl
  | cons c rest ih =>
    rw [lowerFrom, lowerWithin, ih, casedAhead_eq, casedAhead_eq, List.append_nil]
    rfl

/-- Small letters of two texts, each in the context of the other. -/
theorem lowerWithin_append (before a b after : List Char) : lowerWithin before (a ++ b) after =
    lowerWithin before a (b ++ after) ++ lowerWithin (a.reverse ++ before) b after := by
  induction a generalizing before with
  | nil => rfl
  | cons c a ih =>
    rw [List.cons_append, lowerWithin, lowerWithin, ih, List.append_assoc, List.append_assoc,
      List.reverse_cons, List.append_assoc]
    rfl

/-- Every character has as many small letters in one form as in the other. -/
theorem length_lowerAs (c : Char) (final final' : Bool) :
    (lowerAs final c).length = (lowerAs final' c).length := by
  rw [lowerAs, lowerAs]
  split
  · cases final <;> cases final' <;> rfl
  · rfl

/-- The small form is equally long in every context. -/
theorem length_lowerWithin (s before after before' after' : List Char) :
    (lowerWithin before s after).length = (lowerWithin before' s after').length := by
  induction s generalizing before before' with
  | nil => rfl
  | cons c rest ih =>
    rw [lowerWithin, lowerWithin, List.length_append, List.length_append,
      ih (c :: before) (c :: before'), length_lowerAs c _ _]

/-! ## Settled texts -/

/-- Every capital sigma of the text has the form that it has in every larger text. -/
def Settled (s : List Char) : Prop :=
  ∀ front back c, s = front ++ c :: back → c.toNat = 0x3A3 →
  Decided (caseOf front.reverse) (caseOf back)

/-- A text without a capital sigma is settled. -/
theorem settled_of_no_sigma {s : List Char} (h : ∀ c ∈ s, c.toNat ≠ 0x3A3) : Settled s := by
  rintro front back c rfl hc
  exact absurd hc (h c (List.mem_append_right front List.mem_cons_self))

/-- The small form of a settled text is the same wherever it stands.  Induction on what is left of
it. -/
theorem lowerWithin_of_settled {s : List Char} (h : Settled s) (before after : List Char) :
    lowerWithin before s after = toLower s := by
  -- Over every way to split the text, for a sigma looks back at all that stands in front of it.
  suffices ∀ back front, s = front ++ back →
      lowerWithin (front.reverse ++ before) back after = lowerWithin front.reverse back [] by
    rw [toLower, lowerFrom_eq]
    exact this s [] rfl
  intro back
  induction back with
  | nil => exact fun _ _ => rfl
  | cons c back ih =>
    intro front hs
    have hrest := ih (front ++ [c]) (by rw [hs, List.append_assoc]; rfl)
    rw [List.reverse_append] at hrest
    rw [lowerWithin, lowerWithin, List.append_nil, caseOf_append, caseOf_append]
    refine congrArg₂ (· ++ ·) ?_ hrest
    by_cases hc : c.toNat = 0x3A3
    · rw [isFinal_of_decided (h front back c hs hc)]
    · rw [lowerAs, lowerAs, if_neg hc, if_neg hc]

/-- The small form of a settled text occurs where the text does. -/
theorem toLower_infix_of_settled {s t : List Char} (h : Settled s) (hin : s <:+: t) :
    toLower s <:+: toLower t := by
  obtain ⟨front, back, rfl⟩ := hin
  refine ⟨lowerWithin [] front (s ++ back), lowerWithin (s.reverse ++ front.reverse) back [], ?_⟩
  have hlower : toLower (front ++ s ++ back) = lowerWithin [] (front ++ (s ++ back)) [] := by
    rw [toLower, lowerFrom_eq, List.append_assoc]
  rw [hlower, lowerWithin_append, lowerWithin_append, lowerWithin_of_settled h, List.append_nil,
    List.append_nil, List.append_assoc]

/-! ## Texts that are not settled -/

/-- The two forms of a capital sigma are different. -/
theorem lowerAs_injective {c : Char} (hc : c.toNat = 0x3A3) {final final' : Bool}
    (h : lowerAs final c = lowerAs final' c) : final = final' := by
  rw [lowerAs, lowerAs, if_pos hc, if_pos hc] at h
  cases final <;> cases final'
  · rfl
  · exact absurd h (by decide)
  · exact absurd h (by decide)
  · rfl

/-- A text changes its small form if one of its sigmas does. -/
theorem lowerWithin_ne_of_sigma {front back before after : List Char} {c : Char}
    (hc : c.toNat = 0x3A3)
    (h : isFinal ((caseOf front.reverse).or (caseOf before)) ((caseOf back).or (caseOf after)) ≠
      isFinal (caseOf front.reverse) (caseOf back)) :
    lowerWithin before (front ++ c :: back) after ≠ toLower (front ++ c :: back) := by
  intro heq
  rw [toLower, lowerFrom_eq, lowerWithin_append, lowerWithin_append] at heq
  have hsigma := (List.append_inj heq (length_lowerWithin front _ _ _ _)).2
  rw [lowerWithin, lowerWithin] at hsigma
  have hforms := lowerAs_injective hc (List.append_inj hsigma (length_lowerAs c _ _)).1
  rw [List.append_nil, List.append_nil, caseOf_append, caseOf_append] at hforms
  exact h hforms

/-- A piece that is one letter shorter than the text is its front, or ends like it. -/
theorem eq_or_getLast_of_piece {x y : List Char} {w : Char} (hlength : x.length = y.length)
    (h : x <:+: y ++ [w]) :
    x = y ∨ x.getLast? = some w := by
  obtain ⟨l, r, h⟩ := h
  have hcount := congrArg List.length h
  simp only [List.length_append, List.length_singleton] at hcount
  cases r with
  | nil =>
    rw [List.append_nil] at h
    rcases List.eq_nil_or_concat' x with rfl | ⟨x, z, rfl⟩
    · exact .inl (List.length_eq_zero_iff.mp hlength.symm).symm
    · rw [← List.append_assoc] at h
      cases (List.append_inj' h rfl).2
      exact .inr List.getLast?_concat
  | cons z r =>
    have hl : l = [] := List.length_eq_zero_iff.mp (by rw [List.length_cons] at hcount; omega)
    rw [hl, List.nil_append] at h
    exact .inl (List.append_inj h hlength).1

/-- The same for a letter in front. -/
theorem eq_or_head_of_piece {x y : List Char} {w : Char} (hlength : x.length = y.length)
    (h : x <:+: w :: y) :
    x = y ∨ x.head? = some w := by
  have hreverse : x.reverse <:+: y.reverse ++ [w] := by
    rw [← List.reverse_cons]
    exact List.reverse_infix.mpr h
  rcases eq_or_getLast_of_piece (by rw [List.length_reverse, List.length_reverse, hlength])
    hreverse with heq | hlast
  · exact .inl (List.reverse_injective heq)
  · exact .inr (List.getLast?_reverse ▸ hlast)

/-- There are cased letters with a small form that is their own, and one of them is different from
any given character. -/
theorem exists_letter (d : Option Char) :
    ∃ w, caseOf [w] = some true ∧ (∀ final, lowerAs final w = [w]) ∧ d ≠ some w := by
  have ha : caseOf ['a'] = some true ∧ ∀ final, lowerAs final 'a' = ['a'] := by decide +kernel
  have hb : caseOf ['b'] = some true ∧ ∀ final, lowerAs final 'b' = ['b'] := by decide +kernel
  by_cases h : d = some 'a'
  · refine ⟨'b', hb.1, hb.2, ?_⟩
    rw [h]
    decide
  · exact ⟨'a', ha.1, ha.2, h⟩

/-- A text has as many small letters alone as in a context. -/
theorem length_toLower (s before after : List Char) :
    (toLower s).length = (lowerWithin before s after).length := by
  rw [toLower, lowerFrom_eq]
  exact length_lowerWithin s _ _ _ _

theorem toLower_letter_behind {w : Char} (hform : ∀ final, lowerAs final w = [w]) (s : List Char) :
    toLower (s ++ [w]) = lowerWithin [] s [w] ++ [w] := by
  rw [toLower, lowerFrom_eq, lowerWithin_append, lowerWithin, hform]
  rfl

theorem toLower_letter_before {w : Char} (hform : ∀ final, lowerAs final w = [w]) (s : List Char) :
    toLower (w :: s) = w :: lowerWithin [w] s [] := by
  rw [toLower, lowerFrom_eq, lowerWithin, hform]
  rfl

/-- The small form of a text that is not settled does not occur in that of some text around it. -/
theorem exists_around_of_not_settled {s : List Char} (h : ¬Settled s) :
    ∃ t, s <:+: t ∧ ¬toLower s <:+: toLower t := by
  simp only [Settled, not_forall] at h
  obtain ⟨front, back, c, rfl, hc, hundecided⟩ := h
  generalize hs : front ++ c :: back = s
  rcases exists_other_of_not_decided hundecided with hafter | hbefore
  · obtain ⟨w, hcase, hform, hlast⟩ := exists_letter (toLower s).getLast?
    refine ⟨s ++ [w], (List.prefix_append s [w]).isInfix, fun hin => ?_⟩
    rw [toLower_letter_behind hform] at hin
    -- The old form is too long to occur behind the first place, unless it ends in the letter.
    refine (eq_or_getLast_of_piece (length_toLower s _ _) hin).elim (fun heq => ?_) hlast
    subst hs
    refine lowerWithin_ne_of_sigma hc ?_ heq.symm
    rwa [hcase, caseOf_nil, Option.or_none]
  · obtain ⟨w, hcase, hform, hfirst⟩ := exists_letter (toLower s).head?
    refine ⟨w :: s, (List.suffix_cons w s).isInfix, fun hin => ?_⟩
    rw [toLower_letter_before hform] at hin
    refine (eq_or_head_of_piece (length_toLower s _ _) hin).elim (fun heq => ?_) hfirst
    subst hs
    refine lowerWithin_ne_of_sigma hc ?_ heq.symm
    rwa [hcase, caseOf_nil, Option.or_none]

/-- The small form of a text occurs in that of every text around it exactly if the text is
settled. -/
theorem settled_iff {s : List Char} : Settled s ↔ ∀ t, s <:+: t → toLower s <:+: toLower t := by
  refine ⟨fun h t hin => toLower_infix_of_settled h hin, fun h => ?_⟩
  by_contra hunsettled
  obtain ⟨t, hin, hnot⟩ := exists_around_of_not_settled hunsettled
  exact hnot (h t hin)

end Text

namespace Check.Assertions

variable {text : String} {r : Response}

/-! ## Assertions on a text in the body -/

/-- The assertion holds exactly if the text occurs in the body, both in small letters if case is
ignored. -/
theorem bodyContains_holds_iff {ignoreCase : Bool} :
    evaluate (.bodyContains text ignoreCase) r = .ok none ↔
    if ignoreCase then Text.toLower text.toList <:+: Text.toLower r.body.toList
    else text.toList <:+: r.body.toList := by
  rw [evaluate_ok_none_iff, failure, Except.ok.injEq, complaint_eq_none_iff]
  cases ignoreCase with
  | false => exact Text.contains_iff
  | true =>
    show Text.contains _ _ = true ↔ _
    rw [Text.contains_iff, Text.lower, Text.lower, String.toList_ofList, String.toList_ofList]
    rfl

/-- Ignoring case.  For a text that is settled, and for no other text, an assertion that the body
contains it still holds of all responses when case is ignored.  A text is settled if there is no
capital sigma in it. -/
theorem ignoring_case_relaxes_settled_texts (text : String) :
    ((∀ r, evaluate (.bodyContains text false) r = .ok none →
        evaluate (.bodyContains text true) r = .ok none) ↔
      Text.Settled text.toList) ∧
    ((∀ c ∈ text.toList, c.toNat ≠ 0x3A3) → Text.Settled text.toList) := by
  refine ⟨?_, Text.settled_of_no_sigma⟩
  rw [Text.settled_iff]
  constructor
  · intro h t hin
    have hbody := h (responseWith .empty (String.ofList t))
    rw [bodyContains_holds_iff, bodyContains_holds_iff] at hbody
    have hlist : (responseWith .empty (String.ofList t)).body.toList = t := String.toList_ofList
    rw [if_neg Bool.false_ne_true, if_pos rfl, hlist] at hbody
    exact hbody hin
  · intro h r hholds
    rw [bodyContains_holds_iff, if_neg Bool.false_ne_true] at hholds
    rw [bodyContains_holds_iff, if_pos rfl]
    exact h r.body.toList hholds

/-- The text ends in a sigma that is final, and in the body a letter stands behind it. -/
theorem final_sigma_is_missed :
    evaluate (.bodyContains "ΑΣ" false) (responseWith .empty "ΑΣΑ") = .ok none ∧
    evaluate (.bodyContains "ΑΣ" true) (responseWith .empty "ΑΣΑ") ≠ .ok none := by
  rw [ne_eq, bodyContains_holds_iff, bodyContains_holds_iff]
  decide +kernel

end Check.Assertions

end Assay
