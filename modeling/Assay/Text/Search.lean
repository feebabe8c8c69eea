/-
  Finding one text inside another.

  `splitFirst` cuts a text at the leftmost occurrence of a pattern; containment, the first position
  and splitting at every occurrence are read off it.  Everything is stated on `List Char`, so that a
  found occurrence is an equation `s = before ++ pattern ++ after`.

  The lemmas behind the definitions say that nothing else is found: `eq_of_splitFirst` that an
  occurrence is one, and `occursIn_iff` that there is an occurrence exactly if one is found.  That
  it is the leftmost one is not needed except for placeholders, where it is shown.  `byteLength` is
  the view in which offsets of a text are counted.
-/

namespace Assay.Text

/-- Drops `pattern` from the front, if it is there. -/
def stripFront : List Char → List Char → Option (List Char)
  | [], s => some s
  | _ :: _, [] => none
  | p :: ps, c :: cs => if p = c then stripFront ps cs else none

/-- Drops `pattern` from the end, if it is there. -/
def stripBack (pattern s : List Char) : Option (List Char) :=
  (stripFront pattern.reverse s.reverse).map List.reverse

/-- Cuts at the leftmost occurrence of `pattern`: what stands before it and what stands after. -/
def splitFirst (pattern : List Char) : List Char → Option (List Char × List Char)
  | [] => if pattern.isEmpty then some ([], []) else none
  | c :: cs =>
    match stripFront pattern (c :: cs) with
    | some after => some ([], after)
    | none => (splitFirst pattern cs).map fun r => (c :: r.1, r.2)

/-- The pattern occurs somewhere in the text. -/
def occursIn (pattern s : List Char) : Bool := (splitFirst pattern s).isSome

/-- `contains text fragment`: the fragment occurs in the text. -/
def contains (text fragment : String) : Bool := occursIn fragment.toList text.toList

/-- `startsWith text front`: the text begins with `front`. -/
def startsWith (text front : String) : Bool := (stripFront front.toList text.toList).isSome

/-- Splits at every occurrence of one character; `n` separators give `n + 1` pieces. -/
def splitAtChar (sep : Char) : List Char → List (List Char)
  | [] => [[]]
  | c :: cs =>
    match splitAtChar sep cs with
    | [] => [[c]]
    | piece :: rest => if c = sep then [] :: piece :: rest else (c :: piece) :: rest

/-- The number of bytes a text takes in UTF-8. -/
def byteLength : List Char → Nat
  | [] => 0
  | c :: cs => c.utf8Size + byteLength cs

/-- The bytes of two texts in a row are those of both. -/
@[simp] theorem byteLength_append (a b : List Char) :
    byteLength (a ++ b) = byteLength a + byteLength b := by
  induction a with
  | nil => simp [byteLength]
  | cons c cs ih => simp [byteLength, ih, Nat.add_assoc]

/-! ## What the searches find -/

theorem stripFront_eq_some {p s r : List Char} : stripFront p s = some r ↔ s = p ++ r := by
  induction p generalizing s with
  | nil => simp [stripFront, eq_comm]
  | cons a ps ih =>
    cases s with
    | nil => simp [stripFront]
    | cons c cs =>
      by_cases h : a = c
      · subst h; simp [stripFront, ih]
      · simp [stripFront, h, Ne.symm h]

/-- A found occurrence really is one: the text is what stands before, the pattern and the rest. -/
theorem eq_of_splitFirst {p s a b : List Char} (h : splitFirst p s = some (a, b)) :
    s = a ++ p ++ b := by
  induction s generalizing a b with
  | nil =>
    unfold splitFirst at h
    split at h
    · next hp => simp only [Option.some.injEq, Prod.mk.injEq] at h; simp_all
    · simp at h
  | cons c cs ih =>
    unfold splitFirst at h
    split at h
    · next after hs =>
      simp only [Option.some.injEq, Prod.mk.injEq] at h
      obtain ⟨rfl, rfl⟩ := h
      simpa using stripFront_eq_some.1 hs
    · obtain ⟨⟨x, y⟩, hxy, he⟩ := Option.map_eq_some_iff.1 h
      simp only [Prod.mk.injEq] at he
      obtain ⟨rfl, rfl⟩ := he
      simp [ih hxy]

/-- An occurrence is found exactly if there is one. -/
theorem occursIn_iff {p s : List Char} : occursIn p s = true ↔ p <:+: s := by
  rw [occursIn, Option.isSome_iff_exists]
  constructor
  · rintro ⟨⟨a, b⟩, h⟩
    exact ⟨a, b, (eq_of_splitFirst h).symm⟩
  · rintro ⟨a, b, rfl⟩
    induction a with
    | nil =>
      rw [List.nil_append]
      cases hs : p ++ b with
      | nil => exact ⟨_, if_pos (by rw [(List.append_eq_nil_iff.mp hs).1]; rfl)⟩
      | cons c s =>
        have hfound : stripFront p (p ++ b) = some b := stripFront_eq_some.mpr rfl
        exact ⟨([], b), by rw [splitFirst, ← hs, hfound]⟩
    | cons c a ih =>
      obtain ⟨⟨x, y⟩, hxy⟩ := ih
      rw [List.cons_append, List.cons_append, splitFirst]
      split
      · exact ⟨_, rfl⟩
      · exact ⟨(c :: x, y), by rw [hxy]; rfl⟩

theorem contains_iff {text fragment : String} :
    contains text fragment = true ↔ fragment.toList <:+: text.toList := occursIn_iff

end Assay.Text
