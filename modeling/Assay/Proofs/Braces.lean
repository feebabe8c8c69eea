import Assay.Proofs.Settling

/-
  The placeholders of a text are its leftmost pairs of braces.

  The scanner of templates looks for opening braces from the left, then for closing braces behind
  them, and goes on behind these.  It works with offsets into the bytes of the text, and it is not
  obvious from its code where it finds what, nor that it never cuts a text inside a character.  Here
  the pairs are described without any search, and the scanner is proved to report just these.

  `Template.Paired` says what the pairs of a text are.  The text is made up of pairs, each with what
  stands before it, and a tail.  A pair is `Leftmost` if no braces are opened before it, not even
  half at its end, and none are closed inside it; in the tail nothing is opened and closed
  (`Unpaired`).  The halves at the end matter for three braces in a row: they open at the first one
  and close at the first two.

  1. Uniqueness (`Paired.unique`).  The first pair of a row is where the search finds it
     (`Pair.Leftmost.splitFirst`), so two rows of one text begin with the same pair, and the
     induction goes on behind it.

  2. Existence (`exists_paired`), by induction on the pieces into which the text is scanned: what
     the search finds is a leftmost pair (`leftmost_of_splitFirst`).  The row has all pairs, also
     those that hold only blanks.  The scanner passes over these, and `referencesTo` does the same.

  3. Offsets.  A reference is the name in a pair and the offsets of its first byte and of the one
     behind its last (`Pair.reference`).  Offsets are sums of lengths of what stands in front, so
     they are boundaries of characters, references do not overlap (`pairwise_referencesTo`), and
     each pair stands where its reference says (`stands_reference`).

  The theorem at the end collects this for any text.  That the scanner itself returns these
  references and terminates is part of it.
-/

namespace Assay

/-! ## Doubled characters inside a text -/

namespace Text

variable {c : Char} {s : List Char}

/-- A character is never doubled exactly if its double is not part of the text. -/
theorem apart_iff_not_infix : Apart c s ↔ ¬[c, c] <:+: s := by
  rw [← splitFirst_eq_none_iff, ← occursIn_iff, occursIn]
  cases splitFirst [c, c] s <;> simp

/-- A doubled character starts behind a text, and neither inside it nor at its end. -/
theorem apart_concat_iff : Apart c (s ++ [c]) ↔ ¬[c, c] <:+: s ∧ s.getLast? ≠ some c := by
  rw [← apart_iff_not_infix, Apart, Apart, List.isChain_append]
  constructor
  · rintro ⟨hs, -, hlast⟩
    refine ⟨hs, fun h => ?_⟩
    rcases hlast c h c rfl with hne | hne <;> exact hne rfl
  · rintro ⟨hs, hlast⟩
    refine ⟨hs, List.isChain_singleton c, fun x hx y hy => .inl ?_⟩
    rintro rfl
    exact hlast hx

/-- Nothing is found further to the right than it stands. -/
theorem length_le_of_splitFirst {pattern front back before after : List Char}
    (h : splitFirst pattern (front ++ pattern ++ back) = some (before, after)) :
    before.length ≤ front.length := by
  induction front generalizing before with
  | nil =>
    rw [List.nil_append] at h
    have hfront : stripFront pattern (pattern ++ back) = some back := stripFront_eq_some.mpr rfl
    cases hs : pattern ++ back with
    | nil =>
      obtain ⟨rfl, rfl⟩ := List.append_eq_nil_iff.mp hs
      cases h
      exact Nat.le_refl 0
    | cons d s =>
      rw [hs] at h hfront
      rw [splitFirst, hfront] at h
      cases h
      exact Nat.le_refl 0
  | cons d front ih =>
    rw [List.cons_append, List.cons_append, splitFirst] at h
    split at h
    next => cases h; exact Nat.zero_le _
    next =>
      obtain ⟨⟨x, y⟩, hxy, heq⟩ := Option.map_eq_some_iff.mp h
      obtain ⟨rfl, rfl⟩ := Prod.mk.inj heq
      exact Nat.succ_le_succ (ih hxy)

end Text

namespace Template

/-! ## Rows of pairs -/

/-- A pair of braces: what stands before it since the last one, and what it holds. -/
structure Pair where
  before : List Char
  raw : List Char
  deriving DecidableEq, Repr

/-- The text up to the end of a pair. -/
def Pair.source (p : Pair) : List Char := p.before ++ opening ++ p.raw ++ closing

/-- The text up to the end of the last of some pairs. -/
def sourceOf (pairs : List Pair) : List Char := pairs.flatMap Pair.source

/-- Nothing in a text is opened and closed. -/
def Unpaired (s : List Char) : Prop := ¬∃ a b c, s = a ++ opening ++ b ++ closing ++ c

/-- A pair opens as far to the left as it can, and closes as soon as it can: braces stand neither in
the text before it nor, as far as they close, inside it, not even with a half at the end. -/
structure Pair.Leftmost (p : Pair) : Prop where
  before : ¬opening <:+: p.before ∧ p.before.getLast? ≠ some '{'
  raw : ¬closing <:+: p.raw ∧ p.raw.getLast? ≠ some '}'

/-- A text is a row of leftmost pairs and a tail without any. -/
structure Paired (s : List Char) (pairs : List Pair) (tail : List Char) : Prop where
  text : s = sourceOf pairs ++ tail
  leftmost : ∀ p ∈ pairs, p.Leftmost
  tail : Unpaired tail

variable {s tail before inner raw after : List Char} {pairs : List Pair} {p : Pair}

/-- Nothing is opened and closed exactly if the first braces, if there are any, are not closed. -/
theorem unpaired_iff : Unpaired s ↔
    ∀ before inner, Text.splitFirst opening s = some (before, inner) →
    Text.splitFirst closing inner = none := by
  constructor
  · intro h before inner hopen
    cases hclose : Text.splitFirst closing inner with
    | none => rfl
    | some found =>
      obtain ⟨raw, after⟩ := found
      refine absurd ⟨before, raw, after, ?_⟩ h
      rw [Text.eq_of_splitFirst hopen, Text.eq_of_splitFirst hclose]
      simp only [List.append_assoc]
  · rintro h ⟨a, b, c, rfl⟩
    -- The first braces open no later than these, so whatever is closed behind these is closed
    -- behind them.
    have hassoc : a ++ opening ++ b ++ closing ++ c = a ++ opening ++ (b ++ closing ++ c) := by
      simp only [List.append_assoc]
    rw [hassoc] at h
    have hsome : Text.occursIn opening (a ++ opening ++ (b ++ closing ++ c)) = true :=
      Text.occursIn_iff.mpr ⟨a, _, rfl⟩
    obtain ⟨⟨before, inner⟩, hopen⟩ := Option.isSome_iff_exists.mp hsome
    have hlength := Text.length_le_of_splitFirst hopen
    have hwhole := Text.eq_of_splitFirst hopen
    have hback : b ++ closing ++ c <:+ inner := by
      have hend : b ++ closing ++ c <:+ before ++ opening ++ inner :=
        hwhole ▸ List.suffix_append _ _
      refine List.suffix_of_suffix_length_le hend (List.suffix_append _ _) ?_
      have hlengths := congrArg List.length hwhole
      simp only [List.length_append] at hlengths ⊢
      omega
    have hclose : Text.occursIn closing inner = true :=
      Text.occursIn_iff.mpr (List.IsInfix.trans ⟨b, c, rfl⟩ hback.isInfix)
    rw [Text.occursIn, h before inner hopen] at hclose
    cases hclose

/-- The first pair is where the search finds it. -/
theorem Pair.Leftmost.splitFirst (h : p.Leftmost) (rest : List Char) :
    Text.splitFirst opening (p.source ++ rest) = some (p.before, p.raw ++ closing ++ rest) ∧
      Text.splitFirst closing (p.raw ++ closing ++ rest) = some (p.raw, rest) := by
  have hopen : p.source ++ rest = p.before ++ '{' :: '{' :: (p.raw ++ closing ++ rest) := by
    simp [Pair.source, opening]
  rw [hopen]
  refine ⟨Text.splitFirst_of_apart (Text.apart_concat_iff.mpr h.before), ?_⟩
  rw [List.append_assoc]
  exact Text.splitFirst_of_apart (Text.apart_concat_iff.mpr h.raw)

/-- What the search finds first is a leftmost pair. -/
theorem leftmost_of_splitFirst (h : Text.splitFirst opening s = some (before, inner))
    (h' : Text.splitFirst closing inner = some (raw, after)) : Pair.Leftmost ⟨before, raw⟩ :=
  ⟨Text.apart_concat_iff.mp (Text.apart_of_splitFirst h),
    Text.apart_concat_iff.mp (Text.apart_of_splitFirst h')⟩

/-- Behind the first pair the text is paired in the same way. -/
theorem Paired.rest (h : Paired s (p :: pairs) tail) :
    s = p.source ++ (sourceOf pairs ++ tail) ∧ Paired (sourceOf pairs ++ tail) pairs tail := by
  refine ⟨?_, rfl, fun q hq => h.leftmost q (List.mem_cons_of_mem _ hq), h.tail⟩
  rw [h.text, sourceOf, List.flatMap_cons, List.append_assoc]
  rfl

/-- A text is a row of pairs in one way.  Induction on the row: both rows begin with the pair that
is found. -/
theorem Paired.unique {pairs' : List Pair} {tail' : List Char} (h : Paired s pairs tail)
    (h' : Paired s pairs' tail') : pairs = pairs' ∧ tail = tail' := by
  have hfirst : ∀ {s tail : List Char} {p : Pair} {pairs : List Pair}, Paired s (p :: pairs) tail →
      ¬Unpaired s := by
    intro s tail p pairs h hunpaired
    obtain ⟨rfl, -⟩ := h.rest
    obtain ⟨hopen, hclose⟩ := (h.leftmost p List.mem_cons_self).splitFirst (sourceOf pairs ++ tail)
    cases (unpaired_iff.mp hunpaired _ _ hopen).symm.trans hclose
  have hnil : ∀ {s tail : List Char}, Paired s [] tail → s = tail := fun h => h.text
  induction pairs generalizing s pairs' with
  | nil =>
    obtain rfl := hnil h
    cases pairs' with
    | nil => exact ⟨rfl, hnil h'⟩
    | cons p' pairs' => exact absurd h.tail (hfirst h')
  | cons p pairs ih =>
    cases pairs' with
    | nil =>
      obtain rfl := hnil h'
      exact absurd h'.tail (hfirst h)
    | cons p' pairs' =>
      obtain ⟨hs, hrest⟩ := h.rest
      obtain ⟨hs', hrest'⟩ := h'.rest
      obtain ⟨hopen, hclose⟩ :=
        (h.leftmost p List.mem_cons_self).splitFirst (sourceOf pairs ++ tail)
      obtain ⟨hopen', hclose'⟩ :=
        (h'.leftmost p' List.mem_cons_self).splitFirst (sourceOf pairs' ++ tail')
      rw [← hs] at hopen
      rw [← hs', hopen, Option.some.injEq, Prod.mk.injEq] at hopen'
      obtain ⟨hbefore, hinner⟩ := hopen'
      rw [← hinner, hclose, Option.some.injEq, Prod.mk.injEq] at hclose'
      obtain ⟨hraw, hafter⟩ := hclose'
      obtain ⟨rfl, rfl⟩ := ih hrest (hafter ▸ hrest')
      obtain ⟨before, raw⟩ := p
      obtain ⟨before', raw'⟩ := p'
      cases hbefore
      cases hraw
      exact ⟨rfl, rfl⟩

/-! ## References -/

/-- The reference to a pair behind some others, by offsets. -/
def Pair.reference (front : List Pair) (p : Pair) : Reference :=
  ⟨nameOf p.raw, Text.byteLength (sourceOf front ++ p.before),
    Text.byteLength (sourceOf (front ++ [p]))⟩

/-- The references to those of some pairs that hold a name; `front` are the pairs before them. -/
def referencesTo (front : List Pair) : List Pair → List Reference
  | [] => []
  | p :: rest =>
    if p.raw.all Text.isBlank then referencesTo (front ++ [p]) rest
    else p.reference front :: referencesTo (front ++ [p]) rest

theorem sourceOf_append (front back : List Pair) :
    sourceOf (front ++ back) = sourceOf front ++ sourceOf back :=
  List.flatMap_append

theorem sourceOf_singleton (p : Pair) : sourceOf [p] = p.source :=
  List.flatMap_singleton Pair.source p

/-- The offsets of a pair. -/
theorem offsets_of_pair (front : List Pair) (before raw : List Char) :
    Text.byteLength (sourceOf front ++ before) = Text.byteLength (sourceOf front) +
      Text.byteLength before ∧
    Text.byteLength (sourceOf (front ++ [⟨before, raw⟩])) =
      Text.byteLength (sourceOf front) + Text.byteLength before + 2 + Text.byteLength raw + 2 := by
  refine ⟨Text.byteLength_append _ _, ?_⟩
  rw [sourceOf_append, sourceOf_singleton, Pair.source]
  simp only [Text.byteLength_append, byteLength_opening, byteLength_closing]
  omega

/-- A text is a row of pairs, and its references are those to its pairs.  Induction on the
pieces. -/
theorem exists_paired (s : List Char) : ∃ pairs tail, Paired s pairs tail ∧
    ∀ front, referencesFrom (Text.byteLength (sourceOf front)) (pieces s) =
      referencesTo front pairs := by
  fun_induction pieces s with
  | case1 s h =>
    refine ⟨[], s, ⟨rfl, fun _ hp => absurd hp List.not_mem_nil, ?_⟩, fun _ => rfl⟩
    exact unpaired_iff.mpr fun before inner hopen => by cases h.symm.trans hopen
  | case2 s before inner h h' =>
    refine ⟨[], s, ⟨rfl, fun _ hp => absurd hp List.not_mem_nil, ?_⟩, fun _ => rfl⟩
    refine unpaired_iff.mpr fun before' inner' hopen => ?_
    cases h.symm.trans hopen
    exact h'
  | case3 s before inner h raw after h' ih =>
    obtain ⟨pairs, tail, hpaired, hreferences⟩ := ih
    refine ⟨⟨before, raw⟩ :: pairs, tail, ⟨?_, ?_, hpaired.tail⟩, fun front => ?_⟩
    · rw [Text.eq_of_splitFirst h, Text.eq_of_splitFirst h', hpaired.text, sourceOf, sourceOf,
        List.flatMap_cons, Pair.source]
      simp only [List.append_assoc]
    · intro p hp
      rcases List.mem_cons.mp hp with rfl | hp
      · exact leftmost_of_splitFirst h h'
      · exact hpaired.leftmost p hp
    · obtain ⟨hstart, hstop⟩ := offsets_of_pair front before raw
      have hlater := hreferences (front ++ [⟨before, raw⟩])
      rw [hstop] at hlater
      show referencesFrom (Text.byteLength (sourceOf front) + Text.byteLength before)
        (Piece.ofRaw raw :: pieces after) = _
      rw [referencesFrom_ofRaw, isEmpty_nameOf, hlater, referencesTo, Pair.reference, hstart, hstop]

/-- The references to some pairs are those to the pairs among them that hold a name. -/
theorem mem_referencesTo {front : List Pair} {r : Reference} : r ∈ referencesTo front pairs ↔
    ∃ passed p later, pairs = passed ++ p :: later ∧ p.raw.all Text.isBlank = false ∧
      r = p.reference (front ++ passed) := by
  induction pairs generalizing front with
  | nil => simp [referencesTo]
  | cons p rest ih =>
    have hcases : r ∈ referencesTo front (p :: rest) ↔
        (p.raw.all Text.isBlank = false ∧ r = p.reference front) ∨
        r ∈ referencesTo (front ++ [p]) rest := by
      rw [referencesTo]
      cases p.raw.all Text.isBlank <;> simp
    rw [hcases, ih]
    constructor
    · rintro (⟨hraw, rfl⟩ | ⟨passed, q, later, rfl, hraw, rfl⟩)
      · exact ⟨[], p, rest, rfl, hraw, by rw [List.append_nil]⟩
      · exact ⟨p :: passed, q, later, rfl, hraw, by rw [List.append_assoc]; rfl⟩
    · rintro ⟨passed, q, later, hpairs, hraw, rfl⟩
      cases passed with
      | nil =>
        cases hpairs
        exact .inl ⟨hraw, by rw [List.append_nil]⟩
      | cons p' passed =>
        cases hpairs
        exact .inr ⟨passed, q, later, rfl, hraw, by rw [List.append_assoc]; rfl⟩

/-- One reference stops before the next one starts. -/
theorem pairwise_referencesTo (front : List Pair) (pairs : List Pair) :
    (referencesTo front pairs).Pairwise fun a b => a.stop ≤ b.start := by
  induction pairs generalizing front with
  | nil => exact .nil
  | cons p rest ih =>
    rw [referencesTo]
    split
    · exact ih _
    · refine List.pairwise_cons.mpr ⟨fun r hr => ?_, ih _⟩
      obtain ⟨passed, q, later, -, -, rfl⟩ := mem_referencesTo.mp hr
      show Text.byteLength (sourceOf (front ++ [p])) ≤
        Text.byteLength (sourceOf (front ++ [p] ++ passed) ++ q.before)
      rw [sourceOf_append (front ++ [p]), List.append_assoc, Text.byteLength_append]
      exact Nat.le_add_right _ _

/-- A pair stands where its reference says. -/
theorem stands_reference (front back : List Pair) (tail : List Char) :
    Text.Stands (opening ++ p.raw ++ closing) (sourceOf (front ++ p :: back) ++ tail)
      (p.reference front).start (p.reference front).stop := by
  refine ⟨sourceOf front ++ p.before, sourceOf back ++ tail, ?_, rfl, ?_⟩
  · simp only [sourceOf, List.flatMap_append, List.flatMap_cons, Pair.source, List.append_assoc]
  · show Text.byteLength (sourceOf front ++ p.before) + _ =
      Text.byteLength (sourceOf (front ++ [p]))
    rw [sourceOf_append, sourceOf_singleton, Pair.source]
    simp only [Text.byteLength_append]
    omega

/-- The placeholders of a text are its leftmost pairs of braces.  The text is a row of pairs and a
tail in exactly one way.  The scanner comes to an end without cutting a text inside a character, and
it reports, one behind the other, just the pairs that hold more than blanks.  Each of them stands,
from its first byte to its last, where its reference says, inside the text and at boundaries of
characters; what it holds has no closing braces and does not end with half of them, and trimmed it
is the name, which is not empty. -/
theorem placeholders_are_leftmost_pairs (text : String) : ∃ pairs tail,
    Paired text.toList pairs tail ∧
    (∀ pairs' tail', Paired text.toList pairs' tail' → pairs' = pairs ∧ tail' = tail) ∧
    scan text.toList 0 = some (references text) ∧
    (references text).Pairwise (fun a b => a.stop ≤ b.start) ∧
    (∀ r, r ∈ references text ↔ ∃ front p back, pairs = front ++ p :: back ∧
      p.raw.all Text.isBlank = false ∧ r = p.reference front) ∧
    ∀ r ∈ references text, r.start < r.stop ∧ r.stop ≤ Text.byteLength text.toList ∧ r.name ≠ "" ∧
      ∃ raw, Text.slice? text.toList r.start r.stop = some (opening ++ raw ++ closing) ∧
        ¬closing <:+: raw ∧ raw.getLast? ≠ some '}' ∧ r.name = nameOf raw := by
  obtain ⟨pairs, tail, hpaired, hreferences⟩ := exists_paired text.toList
  have hsame : references text = referencesTo [] pairs := hreferences []
  have hmem : ∀ r, r ∈ references text ↔ ∃ front p back, pairs = front ++ p :: back ∧
      p.raw.all Text.isBlank = false ∧ r = p.reference front := by
    intro r
    rw [hsame, mem_referencesTo]
    rfl
  refine ⟨pairs, tail, hpaired, fun _ _ h => h.unique hpaired, scan_eq_references text,
    ?_, hmem, ?_⟩
  · rw [hsame]
    exact pairwise_referencesTo [] pairs
  · intro r hr
    obtain ⟨front, p, back, rfl, hraw, rfl⟩ := (hmem r).mp hr
    have hstands := stands_reference (p := p) front back tail
    rw [← hpaired.text] at hstands
    obtain ⟨hclosing, hlast⟩ := (hpaired.leftmost p (by simp)).raw
    have hname : (nameOf p.raw).isEmpty = false := by rw [isEmpty_nameOf, hraw]
    refine ⟨?_, ?_, ?_, p.raw, Text.slice?_eq_some_iff.mpr hstands, hclosing, hlast, rfl⟩
    · obtain ⟨_, _, -, -, hstop⟩ := hstands
      rw [Text.byteLength_append, Text.byteLength_append, byteLength_opening] at hstop
      omega
    · obtain ⟨a, b, hs, hstart, hstop⟩ := hstands
      rw [hs, Text.byteLength_append, Text.byteLength_append]
      omega
    · intro hempty
      rw [show nameOf p.raw = "" from hempty] at hname
      cases hname

/-- Three braces open at the first one and close at the first two, and a pair with blanks hides
nothing. -/
example : references "\x7b\x7b\x7ba\x7d\x7d\x7d\x7b\x7b \x7d\x7d\x7b\x7bé\x7d\x7d\x7b\x7b" =
    [⟨"\x7ba", 0, 6⟩, ⟨"é", 12, 18⟩] := by
  decide +kernel

end Template

end Assay
