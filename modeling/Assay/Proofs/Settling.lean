import Assay.Proofs.Definitions
import Assay.Proofs.Instants
import Assay.Proofs.Resolving
import Assay.Proofs.Results
import Mathlib.Data.List.Chain

/-
  Resolving a text that has been resolved.

  Values are put in where placeholders were, so the text that comes out has seams: a part of the old
  text, a value, the next part.  It is cut into pieces anew when it is resolved again, and a pair of
  braces could come about at a seam.  It does not if no value has an opening brace, since what
  stands in front of a placeholder never ends with half of the opening braces: they would have been
  found one character earlier.  Closing braces in a value do no harm, as nothing in front of them is
  open.

  So a resolved text is settled (`Settled`): filling it in again changes nothing, and the names it
  refers to are those that have no value.  This holds for the same resolver, whatever else it has
  resolved before or in between (`resolved_texts_stay`), since values that have been generated have
  no braces (`not_mem_generate`) and are kept.

  1. Doubled characters.  Braces are found where a character is doubled for the first time (`Apart`,
     `splitFirst_of_apart`), and whether they are is seen from neighbours only
     (`stripFront_append`), so a text can be extended at either end.

  2. Pieces of a text that is put together.  `Unopened` is the invariant for what stands in front of
     the next placeholder: no opening braces, and no half of them at the end.  Such texts can be put
     together (`Unopened.append_apart`), and the braces that were first are first again behind them
     (`splitFirst_opening_append`).

  3. Filling in again.  `settled_fillPieces` is the induction on the pieces of the text, with the
     text that has been put together so far in front; a placeholder with a value adds to it, and one
     without a value is kept and starts anew (`Settled.unresolved`).

  4. Resolving again.  The result for filling in (`resolve_resolve`) goes over to resolvers, as
     these do in steps what filling in does at once.
-/

namespace Assay

/-! ## Doubled characters -/

namespace Text

/-- A character does not stand twice in a row. -/
def Apart (c : Char) (s : List Char) : Prop := s.IsChain fun a b => a ≠ c ∨ b ≠ c

variable {c : Char} {s a b : List Char}

/-- Whether a doubled character stands in front is seen from the first two characters. -/
theorem stripFront_doubled {d : Char} :
    stripFront [c, c] (d :: s) = none ↔ ∀ e ∈ s.head?, d ≠ c ∨ e ≠ c := by
  cases s with
  | nil => by_cases hd : c = d <;> simp [stripFront, hd]
  | cons e s =>
    by_cases hd : c = d
    · simp [stripFront, hd, eq_comm]
    · simp [stripFront, hd, Ne.symm hd]

theorem apart_cons {d : Char} :
    Apart c (d :: s) ↔ stripFront [c, c] (d :: s) = none ∧ Apart c s := by
  rw [stripFront_doubled]
  exact List.isChain_cons

/-- What stands behind a character is not seen from what stands before it. -/
theorem stripFront_append {d : Char} (more : List Char) :
    stripFront [c, c] (d :: (a ++ [c])) = none ↔
      stripFront [c, c] (d :: (a ++ c :: more)) = none := by
  rw [stripFront_doubled, stripFront_doubled, List.head?_append, List.head?_append]
  rfl

/-- A doubled character is found where it stands first. -/
theorem splitFirst_of_apart (h : Apart c (a ++ [c])) :
    splitFirst [c, c] (a ++ c :: c :: b) = some (a, b) := by
  induction a with
  | nil => simp [splitFirst, stripFront]
  | cons d a ih =>
    rw [List.cons_append, apart_cons, stripFront_append (c :: b)] at h
    rw [List.cons_append, splitFirst, h.1, ih h.2]
    rfl

/-- Where a doubled character is found, there is none in front. -/
theorem apart_of_splitFirst (h : splitFirst [c, c] s = some (a, b)) : Apart c (a ++ [c]) := by
  induction s generalizing a with
  | nil => cases h
  | cons d s ih =>
    rw [splitFirst] at h
    split at h
    next rest hrest =>
      cases h
      exact List.isChain_singleton c
    next hfront =>
      obtain ⟨⟨x, y⟩, hxy, heq⟩ := Option.map_eq_some_iff.mp h
      obtain ⟨rfl, rfl⟩ := Prod.mk.inj heq
      have hs : s = x ++ c :: c :: y := by rw [eq_of_splitFirst hxy, List.append_assoc]; rfl
      rw [hs] at hfront
      exact apart_cons.mpr ⟨(stripFront_append (c :: y)).mpr hfront, ih hxy⟩

/-- A doubled character is not found exactly if there is none. -/
theorem splitFirst_eq_none_iff : splitFirst [c, c] s = none ↔ Apart c s := by
  induction s with
  | nil => exact iff_of_true rfl List.isChain_nil
  | cons d s ih =>
    rw [apart_cons, ← ih, splitFirst]
    cases hfront : stripFront [c, c] (d :: s) with
    | some rest => simp
    | none => simp

theorem apart_of_not_mem (h : c ∉ s) : Apart c s := by
  induction s with
  | nil => exact List.isChain_nil
  | cons d s ih =>
    rw [List.mem_cons, not_or] at h
    exact List.isChain_cons.mpr ⟨fun _ _ => .inl (Ne.symm h.1), ih h.2⟩

end Text

/-! ## Pieces of a text that is put together -/

namespace Template

/-- A text in front of a placeholder: it has no opening braces, and does not end with half of
them. -/
def Unopened (s : List Char) : Prop := Text.Apart '{' (s ++ ['{'])

variable {s t before inner raw after : List Char}

theorem unopened_nil : Unopened [] := List.isChain_singleton _

/-- Texts without opening braces can be put together, because none of them ends with half of
them. -/
theorem Unopened.append_apart (hs : Unopened s) (ht : Text.Apart '{' t) :
    Text.Apart '{' (s ++ t) := by
  refine List.IsChain.append hs.left_of_append ht fun x hx y _ => ?_
  exact .inl ((List.isChain_append.mp hs).2.2 x hx '{' rfl |>.resolve_right (· rfl))

theorem Unopened.append (hs : Unopened s) (ht : Unopened t) : Unopened (s ++ t) := by
  rw [Unopened, List.append_assoc]
  exact hs.append_apart ht

theorem unopened_of_not_mem (h : '{' ∉ s) : Unopened s := by
  refine List.IsChain.append (Text.apart_of_not_mem h) (List.isChain_singleton _)
    fun x hx _ _ => .inl ?_
  rintro rfl
  exact h (List.mem_of_getLast? hx)

/-- A text whose first braces are closed. -/
theorem pieces_of_closed (h : Text.splitFirst opening s = some (before, inner))
    (h' : Text.splitFirst closing inner = some (raw, after)) :
    pieces s = .text before :: Piece.ofRaw raw :: pieces after := by
  rw [pieces]
  split
  next heq => rw [h] at heq; cases heq
  next before' inner' heq =>
    rw [h] at heq
    cases heq
    split
    next heq' => rw [h'] at heq'; cases heq'
    next raw' after' heq' =>
      rw [h'] at heq'
      cases heq'
      rfl

/-- A text in which no braces are opened, or the first ones are not closed. -/
theorem pieces_of_unclosed (h : ∀ before inner, Text.splitFirst opening s = some (before, inner) →
    Text.splitFirst closing inner = none) : pieces s = [.text s] := by
  rw [pieces]
  split
  next => rfl
  next before inner heq =>
    split
    next => rfl
    next raw after heq' =>
      rw [h before inner heq] at heq'
      cases heq'

/-- The braces that were first are first again behind other text without opening braces. -/
theorem splitFirst_opening_append (hs : Unopened s)
    (h : Text.splitFirst opening t = some (before, inner)) :
    Text.splitFirst opening (s ++ t) = some (s ++ before, inner) := by
  have ht : t = before ++ '{' :: '{' :: inner := by
    rw [Text.eq_of_splitFirst h, List.append_assoc]
    rfl
  rw [ht, ← List.append_assoc]
  exact Text.splitFirst_of_apart (hs.append (Text.apart_of_splitFirst h))

/-- Braces are closed where they were closed, whatever stands behind. -/
theorem splitFirst_closing_append (h : Text.splitFirst closing inner = some (raw, after))
    (more : List Char) : Text.splitFirst closing (raw ++ closing ++ more) = some (raw, more) := by
  rw [List.append_assoc]
  exact Text.splitFirst_of_apart (Text.apart_of_splitFirst h)

/-! ## Filling in again -/

/-- The names that some pieces refer to, in order. -/
def namesOf (ps : List Piece) : List String :=
  ps.filterMap fun p =>
    match p with
    | .text _ => none
    | .placeholder raw => some (nameOf raw)

variable {value : String → Option String}

/-- A text is settled: filling it in changes nothing, and the names it refers to are the given
ones. -/
structure Settled (value : String → Option String) (names : List String) (s : List Char) :
    Prop where
  text : fillPieces value (pieces s) = s
  names : namesOf (pieces s) = names

theorem ofRaw_of_blank (h : raw.all Text.isBlank = true) :
    Piece.ofRaw raw = .text (opening ++ raw ++ closing) :=
  if_pos h

theorem ofRaw_of_named (h : raw.all Text.isBlank = false) : Piece.ofRaw raw = .placeholder raw :=
  if_neg (by rw [h]; exact Bool.false_ne_true)

/-- A text whose first braces hold the given inside, with other text in front of it. -/
theorem pieces_of_braces {front : List Char} (hfront : Unopened front)
    (h : Text.splitFirst closing inner = some (raw, after)) (rest : List Char) :
    pieces (front ++ (opening ++ raw ++ closing ++ rest)) =
      .text front :: Piece.ofRaw raw :: pieces rest := by
  refine pieces_of_closed ?_ (splitFirst_closing_append h rest)
  rw [List.append_assoc opening, List.append_assoc opening]
  exact Text.splitFirst_of_apart hfront

/-- Braces that hold only blanks are text, and what is behind them is settled. -/
theorem Settled.blank {names : List String} {rest front : List Char}
    (hrest : Settled value names rest) (hfront : Unopened front)
    (h : Text.splitFirst closing inner = some (raw, after)) (hraw : raw.all Text.isBlank = true) :
    Settled value names (front ++ (opening ++ raw ++ closing ++ rest)) := by
  have hpieces := pieces_of_braces hfront h rest
  rw [ofRaw_of_blank hraw] at hpieces
  constructor
  · rw [hpieces, fillPieces_text, fillPieces_text, hrest.text]
  · rw [hpieces]
    exact hrest.names

/-- A placeholder without a value is kept, and what is behind it is settled. -/
theorem Settled.unresolved {names : List String} {rest front : List Char}
    (hrest : Settled value names rest) (hfront : Unopened front)
    (h : Text.splitFirst closing inner = some (raw, after)) (hraw : raw.all Text.isBlank = false)
    (hnone : value (nameOf raw) = none) :
    Settled value (nameOf raw :: names) (front ++ (opening ++ raw ++ closing ++ rest)) := by
  have hpieces := pieces_of_braces hfront h rest
  rw [ofRaw_of_named hraw] at hpieces
  constructor
  · rw [hpieces, fillPieces_text, fillPieces_placeholder, hnone, hrest.text]
    rfl
  · rw [hpieces]
    exact congrArg (nameOf raw :: ·) hrest.names

/-- A text without braces that are opened and closed is settled. -/
theorem settled_of_unclosed (h : ∀ before inner, Text.splitFirst opening s = some (before, inner) →
    Text.splitFirst closing inner = none) : Settled value [] s := by
  constructor
  · rw [pieces_of_unclosed h, fillPieces_text]
    exact List.append_nil s
  · rw [pieces_of_unclosed h]
    rfl

/-- What has been filled in is settled, also behind other text without opening braces.  Induction on
the pieces of the text; behind a value the other text grows, behind braces that have been kept it is
empty. -/
theorem settled_fillPieces (hvalue : ∀ n v, value n = some v → '{' ∉ v.toList) (s : List Char) :
    ∀ front, Unopened front → Settled value ((namesOf (pieces s)).filter fun n => (value n).isNone)
      (front ++ fillPieces value (pieces s)) := by
  fun_induction pieces s with
  | case1 s h =>
    intro front hfront
    have hout : fillPieces value [.text s] = s := List.append_nil s
    -- No braces are opened in the text, and none come about at the seam in front of it.
    have hnone : Text.splitFirst opening (front ++ s) = none :=
      Text.splitFirst_eq_none_iff.mpr (hfront.append_apart (Text.splitFirst_eq_none_iff.mp h))
    rw [hout]
    refine settled_of_unclosed fun before inner hsplit => ?_
    rw [hnone] at hsplit
    cases hsplit
  | case2 s before inner h h' =>
    intro front hfront
    have hout : fillPieces value [.text s] = s := List.append_nil s
    -- The braces that are never closed are still the first ones.
    have hfirst := splitFirst_opening_append hfront h
    rw [hout]
    refine settled_of_unclosed fun before' inner' hsplit => ?_
    rw [hfirst] at hsplit
    cases hsplit
    exact h'
  | case3 s before inner h raw after h' ih =>
    intro front hfront
    have hbefore : Unopened (front ++ before) := hfront.append (Text.apart_of_splitFirst h)
    rw [fillPieces_text, ← List.append_assoc]
    cases hraw : raw.all Text.isBlank with
    | true =>
      rw [ofRaw_of_blank hraw, fillPieces_text]
      exact (ih [] unopened_nil).blank hbefore h' hraw
    | false =>
      rw [ofRaw_of_named hraw, fillPieces_placeholder]
      show Settled value ((nameOf raw :: namesOf (pieces after)).filter fun n => (value n).isNone) _
      cases hv : value (nameOf raw) with
      | none =>
        rw [List.filter_cons_of_pos (by rw [hv]; rfl)]
        exact (ih [] unopened_nil).unresolved hbefore h' hraw hv
      | some v =>
        rw [List.filter_cons_of_neg (by rw [hv]; exact Bool.false_ne_true), ← List.append_assoc]
        exact ih (front ++ before ++ v.toList)
          (hbefore.append (unopened_of_not_mem (hvalue _ v hv)))

end Template

/-! ## Values without braces -/

namespace BuiltIn

theorem not_mem_of_digits {s : List Char} (h : ∀ c ∈ s, c.isDigit = true) : '{' ∉ s :=
  fun hmem => absurd (h '{' hmem) (by decide)

theorem not_mem_toString_nat (n : Nat) : '{' ∉ (toString n).toList :=
  not_mem_of_digits fun _ hc =>
    Nat.isDigit_of_mem_toDigits (by decide) (by decide)
      (String.toList_ofList (l := Nat.toDigits 10 n) ▸ hc)

theorem not_mem_toString_int (n : Int) : '{' ∉ (toString n).toList := by
  cases n with
  | ofNat n => exact not_mem_toString_nat n
  | negSucc n =>
    show '{' ∉ ("-" ++ toString (n + 1)).toList
    rw [String.toList_append, List.mem_append, not_or]
    exact ⟨by decide, not_mem_toString_nat (n + 1)⟩

theorem mem_randomText {c : Char} : ∀ {k n : Nat}, c ∈ randomText k n → c ∈ alphabet := by
  intro k
  induction k with
  | zero => exact fun h => nomatch h
  | succ k ih =>
    intro n h
    rw [randomText, List.mem_cons] at h
    rcases h with rfl | h
    · cases hc : alphabet[n % alphabet.length]? with
      | none => decide
      | some c => exact List.mem_of_getElem? hc
    · exact ih h

end BuiltIn

namespace Instant

theorem not_mem_padded (width n : Nat) : '{' ∉ (padded width n).toList :=
  fun h => absurd (isDigit_padded h) (by decide)

theorem not_mem_yearText (y : Int) : '{' ∉ (yearText y).toList := by
  rw [yearText]
  split
  · exact not_mem_padded 4 y.toNat
  · rw [String.toList_append, List.mem_append, not_or]
    refine ⟨?_, not_mem_padded 4 y.natAbs⟩
    split <;> decide

theorem not_mem_fractionText (nanos : Nat) : '{' ∉ (fractionText nanos).toList := by
  have hpoint (width n : Nat) : '{' ∉ ("." ++ padded width n).toList := by
    rw [String.toList_append, List.mem_append, not_or]
    exact ⟨by decide, not_mem_padded width n⟩
  rw [fractionText]
  split
  · decide
  · split
    · exact hpoint 3 _
    · split
      · exact hpoint 6 _
      · exact hpoint 9 _

theorem not_mem_text (t : Instant) {zone : String} (h : '{' ∉ zone.toList) :
    '{' ∉ (t.text zone).toList := by
  simp only [text, String.toList_append, List.mem_append, not_or]
  exact ⟨⟨⟨⟨⟨⟨⟨⟨⟨⟨⟨⟨not_mem_yearText _, by decide⟩, not_mem_padded _ _⟩, by decide⟩,
    not_mem_padded _ _⟩, by decide⟩, not_mem_padded _ _⟩, by decide⟩, not_mem_padded _ _⟩,
    by decide⟩, not_mem_padded _ _⟩, not_mem_fractionText _⟩, h⟩

end Instant

namespace BuiltIn

/-- No generated value has an opening brace. -/
theorem not_mem_generate (d : Draw) (b : BuiltIn) : '{' ∉ (b.generate d).toList := by
  have hstamp : '{' ∉ d.now.numericOffset.toList := d.now.not_mem_text (by decide)
  cases b with
  | uuid =>
    intro h
    rcases Uuid.of_mem_text h with h | h
    · exact absurd h (by decide)
    · exact absurd h (by decide)
  | timestamp => exact not_mem_toString_int d.now.seconds
  | isoTimestamp => exact hstamp
  | randomInt => exact not_mem_toString_nat (d.integer % 1001)
  | randomString =>
    rw [generate, String.toList_ofList]
    exact fun h => absurd (mem_randomText h) (by decide)
  | randomEmail =>
    rw [generate, String.toList_append, String.toList_ofList, List.mem_append, not_or]
    refine ⟨fun h => ?_, by decide⟩
    have hlower : '{' ∉ alphabet.map Text.asciiLower := by decide
    exact hlower (List.map_subset _ (fun _ => mem_randomText) h)
  | date =>
    rw [generate, String.toList_ofList]
    exact fun h => hstamp (List.takeWhile_sublist _ |>.mem h)

end BuiltIn

/-! ## Resolving again -/

namespace Scopes

/-- The names that get no value are those without one. -/
theorem unresolved_eq (s : Scopes) (text : String) :
    (s.resolve text).unresolved = (Template.names text).filter fun n => (s.value? n).isNone :=
  List.filter_congr fun n _ => s.isNone_lookup n

/-- A text that has been resolved is resolved to itself. -/
theorem resolve_resolve {s : Scopes} (hvalue : ∀ n v, s.value? n = some v → '{' ∉ v.toList)
    (text : String) :
    s.resolve (s.resolve text).text = ⟨(s.resolve text).text, [], (s.resolve text).unresolved⟩ := by
  have hsettled := Template.settled_fillPieces hvalue text.toList [] Template.unopened_nil
  rw [List.nil_append, ← String.toList_ofList (l := Template.fillPieces _ _)] at hsettled
  change Template.Settled _ ((Template.names text).filter _) (s.resolve text).text.toList
    at hsettled
  -- From here on it does not matter how the text has come about.
  generalize (s.resolve text).text = out at hsettled ⊢
  have hnames : Template.names out = (s.resolve text).unresolved := by
    rw [unresolved_eq]
    exact hsettled.names
  have hnone : ∀ n ∈ Template.names out, s.lookup n = none := fun n hn => by
    rw [hnames] at hn
    exact Option.isNone_iff_eq_none.mp (List.mem_filter.mp hn).2
  have htext : Template.fill s.value? out = out := by
    rw [Template.fill, hsettled.text, String.ofList_toList]
  rw [resolve, htext]
  congr 1
  · exact List.filterMap_eq_nil_iff.mpr fun n hn => by rw [hnone n hn]; rfl
  · rw [← hnames]
    exact List.filter_eq_self.mpr fun n hn => by rw [hnone n hn]; rfl

/-- A value comes from one of the dictionaries, or it has been generated. -/
theorem of_value? {s : Scopes} {n v : String} (h : s.value? n = some v) :
    (∃ d ∈ [s.test, s.captured, s.run], d.get? n = some v) ∨ ∃ b, s.generated b = v := by
  obtain ⟨⟨v', scope⟩, hlookup, rfl⟩ := Option.map_eq_some_iff.mp h
  rw [lookup] at hlookup
  split at hlookup
  case isTrue =>
    obtain ⟨b, -, heq⟩ := Option.map_eq_some_iff.mp hlookup
    exact .inr ⟨b, congrArg Prod.fst heq⟩
  case isFalse =>
    have hof : ∀ {d : Dict String} {origin : Scope}, (d.get? n).map (·, origin) = some (v', scope) →
        d.get? n = some v' := fun hd => by
      obtain ⟨w, hw, heq⟩ := Option.map_eq_some_iff.mp hd
      cases heq
      exact hw
    rw [userValue_eq, Option.or_eq_some_iff, Option.or_eq_some_iff] at hlookup
    refine .inl ?_
    rcases hlookup with htest | ⟨-, hcaptured | ⟨-, hrun⟩⟩
    · exact ⟨s.test, by simp, hof htest⟩
    · exact ⟨s.captured, by simp, hof hcaptured⟩
    · exact ⟨s.run, by simp, hof hrun⟩

end Scopes

namespace Resolver

/-- Resolves a text, and what has come of it once more; some other texts before, and some in
between. -/
def resolveTwice (r : Resolver) (earlier meanwhile : List String) (text : String) :
    Resolving (Resolution × Resolution) := do
  let _ ← earlier.mapM r.resolve
  let first ← r.resolve text
  let _ ← meanwhile.mapM r.resolve
  let second ← r.resolve first.text
  return (first, second)

theorem resolveTwice_yields (r : Resolver) (earlier meanwhile : List String) (text : String) :
    (r.resolveTwice earlier meanwhile text).Yields r.supply fun generated =>
      ((r.scopes generated).resolve text,
        (r.scopes generated).resolve ((r.scopes generated).resolve text).text) :=
  (Resolving.yields_mapM r.resolve_yields earlier).bind fun _ =>
    (r.resolve_yields text).bind fun first =>
      (Resolving.yields_mapM r.resolve_yields meanwhile).bind fun _ =>
        (r.resolve_yields first.text).bind fun _ => Resolving.yields_pure _

/-- Resolving a text that has been resolved, with the same resolver, changes nothing: the text
stays, no value is put in, and the names without a value are the same in the same order.  For this
no variable may have an opening brace in its value; the generated values never have one.  The
resolver may have been used before, and in between. -/
theorem resolved_texts_stay {test captured run : Dict String}
    (hplain : ∀ d ∈ [test, captured, run], ∀ name value, d.get? name = some value →
      '{' ∉ value.toList)
    (draws : Nat → BuiltIn.Draw) (earlier meanwhile : List String) (text : String) :
    let r : Resolver := ⟨test, captured, run, fun k b => b.generate (draws k)⟩
    ∃ first second,
      (r.resolveTwice earlier meanwhile text).run' Generated.nothing = some (first, second) ∧
      second.text = first.text ∧ second.resolved = [] ∧ second.unresolved = first.unresolved := by
  intro r
  obtain ⟨generated, hfrom, hrun⟩ := (r.resolveTwice_yields earlier meanwhile text).run'
  have hvalue : ∀ n v, (r.scopes generated).value? n = some v → '{' ∉ v.toList := fun n v hv => by
    rcases Scopes.of_value? hv with ⟨d, hd, hget⟩ | ⟨b, rfl⟩
    · exact hplain d hd n v hget
    · obtain ⟨k, hk⟩ := hfrom b
      show '{' ∉ (generated b).toList
      rw [hk]
      exact BuiltIn.not_mem_generate (draws k) b
  refine ⟨_, _, hrun, ?_⟩
  rw [Scopes.resolve_resolve hvalue text]
  exact ⟨rfl, rfl, rfl⟩

/-- Braces with one too many in front, and behind them braces around a name without a value. -/
def gluedText : String := "\x7b\x7b\x7bname\x7d\x7d\x7b\x7bother\x7d\x7d"

/-- Values that end with half of the closing braces; one of the names starts with a brace. -/
def gluedValues : Dict String := .ofList [("name", "b\x7d"), ("\x7bname", "\x7d")]

/-- The three braces stay apart from what is put in between the others. -/
theorem a_glued_text_stays :
    let r : Resolver := ⟨gluedValues, .empty, .empty, fun k b => b.generate ⟨⟨0, 0⟩, k, k, k⟩⟩
    (∀ d ∈ [gluedValues, .empty, .empty], ∀ name value, d.get? name = some value →
      '{' ∉ value.toList) ∧
    ∃ first second,
      (r.resolveTwice ["$date"] ["$uuid"] gluedText).run' Generated.nothing = some (first, second) ∧
      second.text = first.text ∧ second.resolved = [] ∧ second.unresolved = first.unresolved := by
  have hplain : ∀ d ∈ [gluedValues, .empty, .empty], ∀ name value, d.get? name = some value →
      '{' ∉ value.toList := by
    intro d hd name value hget
    have hentries : ∀ d ∈ [gluedValues, .empty, .empty], ∀ e ∈ d.entries, '{' ∉ e.2.toList := by
      decide
    exact hentries d hd (name, value) (Dict.mem_entries_iff.mpr hget)
  exact ⟨hplain, resolved_texts_stay hplain _ _ _ _⟩

end Resolver

end Assay
