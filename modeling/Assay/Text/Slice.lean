import Assay.Text.Search
import Assay.Text.Utf8

/-
  Parts of a text by byte offsets.

  An offset counts the bytes of a text in UTF-8.  A text can be cut at an offset only if the bytes
  before it are whole characters: `cutAt?` gives nothing inside a character and nothing behind the
  end, and so do `from?` and `slice?`, which are made of it.

  The bytes of a text tell by themselves where it can be cut: `isBoundary` looks at a single one,
  and `boundaryBefore?` goes back from an offset until it gets to a boundary.

  So cutting never repairs anything: a program that cuts a text at an offset of its own has to know
  that it is a boundary, and here this shows as a result that exists.  `cutAt?_eq_some_iff` and
  `slice?_eq_some_iff` are what is used of these functions; they speak of the parts of a text and
  the bytes that they have, and no more of the search for a place.  `Assay.Proofs.Previews` ties the
  two kinds of boundaries together.
-/

namespace Assay.Text

/-- The text before an offset and the text behind it, if the offset is a boundary of characters. -/
def cutAt? : Nat → List Char → Option (List Char × List Char)
  | 0, s => some ([], s)
  | _ + 1, [] => none
  | n + 1, c :: cs =>
    if c.utf8Size ≤ n + 1 then (cutAt? (n + 1 - c.utf8Size) cs).map fun r => (c :: r.1, r.2)
    else none
termination_by structural _ s => s

/-- The text from an offset on. -/
def from? (s : List Char) (start : Nat) : Option (List Char) := (cutAt? start s).map Prod.snd

/-- The text from one offset up to another one. -/
def slice? (s : List Char) (start stop : Nat) : Option (List Char) :=
  if start ≤ stop then ((from? s start).bind (cutAt? (stop - start))).map Prod.fst else none

/-- The offset of the leftmost occurrence of a pattern. -/
def find? (pattern s : List Char) : Option Nat := (splitFirst pattern s).map fun r => byteLength r.1

/-! ## Boundaries -/

/-- Whether an offset is a boundary of characters: the front, the end, or in front of a byte that
continues no character. -/
def isBoundary (bytes : List UInt8) (n : Nat) : Bool :=
  n == 0 ||
    match bytes[n]? with
    | some b => !isTail b
    | none => n == bytes.length

/-- Goes back from an offset, byte by byte, to a boundary; nothing if it would get below zero. -/
def boundaryBefore? (bytes : List UInt8) : Nat → Option Nat
  | 0 => if isBoundary bytes 0 then some 0 else none
  | n + 1 => if isBoundary bytes (n + 1) then some (n + 1) else boundaryBefore? bytes n

/-! ## What cutting gives -/

/-- The parts make up the text, and the first one has as many bytes as the offset says. -/
theorem cutAt?_eq_some_iff {n : Nat} {s a b : List Char} :
    cutAt? n s = some (a, b) ↔ s = a ++ b ∧ byteLength a = n := by
  induction s generalizing n a with
  | nil =>
    cases n with
    | zero => cases a <;> simp [cutAt?, byteLength]
    | succ n => cases a <;> simp [cutAt?, byteLength]
  | cons c cs ih =>
    have hsize : 0 < c.utf8Size := c.utf8Size_pos
    cases n with
    | zero =>
      cases a with
      | nil => simp [cutAt?, byteLength, eq_comm]
      | cons d ds =>
        have hd : 0 < d.utf8Size := d.utf8Size_pos
        simp only [cutAt?, byteLength, Option.some.injEq, Prod.mk.injEq]
        refine iff_of_false (fun h => List.cons_ne_nil d ds h.1.symm) fun h => ?_
        omega
    | succ n =>
      rw [cutAt?]
      constructor
      · intro h
        split at h
        case isFalse => cases h
        case isTrue hle =>
          obtain ⟨⟨x, y⟩, hcut, heq⟩ := Option.map_eq_some_iff.mp h
          obtain ⟨rfl, rfl⟩ := Prod.mk.inj heq
          obtain ⟨rfl, hx⟩ := ih.mp hcut
          refine ⟨rfl, ?_⟩
          show c.utf8Size + byteLength x = n + 1
          omega
      · rintro ⟨hs, ha⟩
        cases a with
        | nil => cases ha
        | cons d ds =>
          obtain ⟨rfl, hcs⟩ := List.cons.inj hs
          rw [byteLength] at ha
          have hds : cutAt? (n + 1 - c.utf8Size) cs = some (ds, b) := ih.mpr ⟨hcs, by omega⟩
          rw [if_pos (by omega), hds]
          rfl

/-- From an offset on there is what follows a front part of so many bytes. -/
theorem from?_eq_some_iff {s rest : List Char} {start : Nat} :
    from? s start = some rest ↔ ∃ front, s = front ++ rest ∧ byteLength front = start := by
  rw [from?, Option.map_eq_some_iff]
  constructor
  · rintro ⟨⟨front, rest'⟩, hcut, rfl⟩
    exact ⟨front, cutAt?_eq_some_iff.mp hcut⟩
  · rintro ⟨front, hs⟩
    exact ⟨(front, rest), cutAt?_eq_some_iff.mpr hs, rfl⟩

theorem byteLength_of_from? {s rest : List Char} {start : Nat} (h : from? s start = some rest) :
    byteLength s = start + byteLength rest := by
  obtain ⟨front, rfl, rfl⟩ := from?_eq_some_iff.mp h
  exact byteLength_append front rest

/-- A text stands in another one from one byte to another one. -/
def Stands (t s : List Char) (start stop : Nat) : Prop :=
  ∃ a b, s = a ++ t ++ b ∧ byteLength a = start ∧ start + byteLength t = stop

/-- Between two offsets there is what stands there, whole characters. -/
theorem slice?_eq_some_iff {s t : List Char} {start stop : Nat} :
    slice? s start stop = some t ↔ Stands t s start stop := by
  constructor
  · intro h
    rw [slice?] at h
    split at h
    case isFalse => cases h
    case isTrue hle =>
      obtain ⟨⟨t', b⟩, hbind, rfl⟩ := Option.map_eq_some_iff.mp h
      obtain ⟨rest, hfrom, hcut⟩ := Option.bind_eq_some_iff.mp hbind
      obtain ⟨a, rfl, ha⟩ := from?_eq_some_iff.mp hfrom
      obtain ⟨rfl, ht⟩ := cutAt?_eq_some_iff.mp hcut
      refine ⟨a, b, (List.append_assoc a t' b).symm, ha, ?_⟩
      show start + byteLength t' = stop
      omega
  · rintro ⟨a, b, rfl, rfl, rfl⟩
    have hfrom : from? (a ++ t ++ b) (byteLength a) = some (t ++ b) :=
      from?_eq_some_iff.mpr ⟨a, List.append_assoc a t b, rfl⟩
    have hcut : cutAt? (byteLength a + byteLength t - byteLength a) (t ++ b) = some (t, b) :=
      cutAt?_eq_some_iff.mpr ⟨rfl, by omega⟩
    rw [slice?, if_pos (Nat.le_add_right _ _), hfrom, Option.bind_some, hcut]
    rfl

end Assay.Text
