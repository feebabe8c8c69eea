import Assay.Http.Response
import Assay.Proofs.Lines

/-
  Previews of bodies.

  `Text.LongestFront` says what a preview shows without any search: the text up to the last boundary
  of characters within a number of bytes.  A text has only one longest front
  (`LongestFront.unique`), so whatever finds one finds the same.

  There are two ways to it.  `Response.takeBytes` takes characters as long as they fit, and so it is
  at a boundary all the time.  `Response.cutPreview?` starts at the limit, which may be inside a
  character, and goes back byte by byte until it is at a boundary, which is a question about single
  bytes; it has no result if it cuts anywhere else.  Both are proved to give the longest front, so
  going back always ends at a boundary and never fails (`cutPreview?_eq_preview`).

  1. The bytes of characters.  A character has a first byte that continues none, and then only bytes
     that do (`utf8EncodeChar_eq_cons`), in each of the four lengths.

  2. Boundaries.  Behind a character there are the boundaries of the rest (`isBoundary_behind`), and
     inside it there is none (`isBoundary_inside`).  So a text can be cut exactly where its bytes
     show a boundary (`isSome_cutAt?`), and these are the positions of the text (`isBoundary_iff`).

  3. Going back comes to the last boundary, by induction on the offset; at zero there is one
     (`exists_boundaryBefore?`).

  4. Taking characters gives a front that fits (`takeBytes_prefix`, `byteLength_takeBytes_le`) and
     that has every front that fits in it (`prefix_takeBytes`).
-/

namespace Assay

namespace Text

/-! ## The bytes of characters -/

/-- The bytes that continue a character are those from 128 to 191. -/
theorem isTail_ofNat {n : Nat} (h : n < 256) :
    isTail (UInt8.ofNat n) = decide (128 ≤ n ∧ n < 192) := by
  have hn : (UInt8.ofNat n).toNat = n := by
    rw [UInt8.toNat_ofNat']
    exact Nat.mod_eq_of_lt h
  have hlow : (0x80 : UInt8).toNat = 128 := rfl
  have hhigh : (0xBF : UInt8).toNat = 191 := rfl
  simp only [isTail, UInt8.le_iff_toNat_le, hn, hlow, hhigh, Bool.decide_and, Nat.lt_succ_iff]

/-- A character has a first byte that continues none, and then only bytes that do. -/
theorem utf8EncodeChar_eq_cons (c : Char) : ∃ lead tails, String.utf8EncodeChar c = lead :: tails ∧
    isTail lead = false ∧ ∀ b ∈ tails, isTail b = true := by
  have hlead : ∀ n : Nat, n < 128 ∨ 192 ≤ n → n < 256 → isTail (UInt8.ofNat n) = false := by
    intro n hn hlt
    rw [isTail_ofNat hlt, decide_eq_false_iff_not]
    omega
  have htail : ∀ n : Nat, isTail (UInt8.ofNat (n % 64 + 128)) = true := by
    intro n
    rw [isTail_ofNat (by omega), decide_eq_true_eq]
    omega
  unfold String.utf8EncodeChar
  dsimp only
  split_ifs with hone htwo hthree
  · exact ⟨_, _, rfl, hlead _ (by omega) (by omega), List.forall_mem_nil _⟩
  all_goals exact ⟨_, _, rfl, hlead _ (by omega) (by omega),
    by simpa only [List.forall_mem_cons, htail, true_and] using List.forall_mem_nil _⟩

/-- A text has as many bytes as its characters have together. -/
theorem length_flatMap_utf8EncodeChar (s : List Char) :
    (s.flatMap String.utf8EncodeChar).length = byteLength s := by
  induction s with
  | nil => rfl
  | cons c s ih =>
    rw [List.flatMap_cons, List.length_append, String.length_utf8EncodeChar, ih, byteLength]

/-- The number of bytes of a text is that of its characters. -/
theorem utf8ByteSize_ofList (s : List Char) : (String.ofList s).utf8ByteSize = byteLength s := by
  rw [String.utf8ByteSize_ofList]
  induction s with
  | nil => rfl
  | cons c s ih => rw [String.utf8Len, byteLength, ih, Nat.add_comm]

/-- The size of a text is the number of its bytes. -/
theorem utf8ByteSize_eq (s : String) : s.utf8ByteSize = byteLength s.toList := by
  rw [← utf8ByteSize_ofList, String.ofList_toList]

/-! ## Boundaries -/

section Boundaries

variable (c : Char) (s : List Char)

/-- Behind a character there are the boundaries of the rest. -/
theorem isBoundary_behind (n : Nat) :
    isBoundary ((c :: s).flatMap String.utf8EncodeChar) (c.utf8Size + n) =
    isBoundary (s.flatMap String.utf8EncodeChar) n := by
  have hsize : 0 < c.utf8Size := c.utf8Size_pos
  have hget : ((c :: s).flatMap String.utf8EncodeChar)[c.utf8Size + n]? =
      (s.flatMap String.utf8EncodeChar)[n]? := by
    rw [List.flatMap_cons, ← String.length_utf8EncodeChar,
      List.getElem?_append_right (Nat.le_add_right _ _), Nat.add_sub_cancel_left]
  have hpos : (c.utf8Size + n == 0) = false := by
    rw [beq_eq_false_iff_ne]
    omega
  rw [isBoundary, hget, hpos, Bool.false_or, length_flatMap_utf8EncodeChar, byteLength]
  cases n with
  | zero =>
    -- Right behind the character there is the end, or the first byte of another one.
    cases s with
    | nil => exact beq_self_eq_true _
    | cons d s =>
      obtain ⟨lead, tails, hbytes, hlead, -⟩ := utf8EncodeChar_eq_cons d
      rw [List.flatMap_cons, hbytes]
      show (!isTail lead) = true
      rw [hlead]
      rfl
  | succ n =>
    rw [isBoundary, length_flatMap_utf8EncodeChar]
    cases (s.flatMap String.utf8EncodeChar)[n + 1]? with
    | some b => rfl
    | none =>
      show (c.utf8Size + (n + 1) == c.utf8Size + byteLength s) = (n + 1 == byteLength s)
      rw [Bool.eq_iff_iff, beq_iff_eq, beq_iff_eq]
      omega

/-- There is no boundary inside a character. -/
theorem isBoundary_inside {n : Nat} (h : n + 1 < c.utf8Size) :
    isBoundary ((c :: s).flatMap String.utf8EncodeChar) (n + 1) = false := by
  obtain ⟨lead, tails, hbytes, -, htails⟩ := utf8EncodeChar_eq_cons c
  have hlength : tails.length + 1 = c.utf8Size := by
    rw [← String.length_utf8EncodeChar, hbytes, List.length_cons]
  have hn : n < tails.length := by omega
  have hget : ((c :: s).flatMap String.utf8EncodeChar)[n + 1]? = some tails[n] := by
    rw [List.flatMap_cons, hbytes, List.cons_append, List.getElem?_cons_succ,
      List.getElem?_append_left hn, List.getElem?_eq_getElem hn]
  rw [isBoundary, hget]
  show (!isTail tails[n]) = false
  rw [htails _ (List.getElem_mem hn)]
  rfl

end Boundaries

/-- A text can be cut exactly where its bytes show a boundary. -/
theorem isSome_cutAt? (s : List Char) (n : Nat) :
    (cutAt? n s).isSome = isBoundary (s.flatMap String.utf8EncodeChar) n := by
  induction s generalizing n with
  | nil => cases n <;> rfl
  | cons c s ih =>
    cases n with
    | zero => rfl
    | succ n =>
      rw [cutAt?]
      split
      next hle =>
        have hn : n + 1 = c.utf8Size + (n + 1 - c.utf8Size) := by omega
        rw [Option.isSome_map, ih, ← isBoundary_behind, ← hn]
      next hlt => rw [isBoundary_inside c s (by omega), Option.isSome_none]

/-- Behind its front a text is cut into it and the rest. -/
theorem cutAt?_append (front back : String) :
    cutAt? front.utf8ByteSize (front ++ back).toList = some (front.toList, back.toList) :=
  cutAt?_eq_some_iff.mpr ⟨String.toList_append, (utf8ByteSize_eq front).symm⟩

/-- The positions of a text are the sizes of its front parts. -/
theorem isValid_iff_exists_front {s : String} {n : Nat} :
    String.Pos.Raw.IsValid s ⟨n⟩ ↔ ∃ front back, s = front ++ back ∧ front.utf8ByteSize = n := by
  rw [String.Pos.Raw.isValid_iff_exists_append]
  refine exists₂_congr fun front back => and_congr_right fun _ => ?_
  rw [String.Pos.Raw.ext_iff, eq_comm]
  rfl

/-- Single bytes tell where the positions of a text are. -/
theorem isBoundary_iff (s : String) (n : Nat) :
    isBoundary s.toUTF8.toList n = true ↔ String.Pos.Raw.IsValid s ⟨n⟩ := by
  rw [toList_toUTF8, ← isSome_cutAt?, Option.isSome_iff_exists, isValid_iff_exists_front]
  constructor
  · rintro ⟨⟨a, b⟩, hcut⟩
    obtain ⟨hs, ha⟩ := cutAt?_eq_some_iff.mp hcut
    refine ⟨String.ofList a, String.ofList b, ?_, ?_⟩
    · rw [← String.ofList_append, ← hs, String.ofList_toList]
    · rw [utf8ByteSize_ofList, ha]
  · rintro ⟨front, back, rfl, rfl⟩
    exact ⟨_, cutAt?_append front back⟩

/-- Going back comes to the last boundary.  Induction on the offset; at zero there is one. -/
theorem exists_boundaryBefore? (bytes : List UInt8) (n : Nat) :
    ∃ stop, boundaryBefore? bytes n = some stop ∧
    isBoundary bytes stop = true ∧ stop ≤ n ∧ ∀ m ≤ n, isBoundary bytes m = true → m ≤ stop := by
  induction n with
  | zero => exact ⟨0, rfl, rfl, Nat.le_refl 0, fun m hm _ => hm⟩
  | succ n ih =>
    rw [boundaryBefore?]
    cases hn : isBoundary bytes (n + 1) with
    | true => exact ⟨n + 1, rfl, hn, Nat.le_refl _, fun m hm _ => hm⟩
    | false =>
      obtain ⟨stop, hstop, hboundary, hle, hlast⟩ := ih
      refine ⟨stop, hstop, hboundary, Nat.le_succ_of_le hle, fun m hm hb => ?_⟩
      refine hlast m (Nat.le_of_lt_succ (Nat.lt_of_le_of_ne hm ?_)) hb
      rintro rfl
      exact Bool.false_ne_true (hn.symm.trans hb)

/-! ## Longest fronts -/

/-- The front of a text up to the last boundary of characters within a number of bytes.  The
boundaries are the positions of the text. -/
structure LongestFront (s : String) (max : Nat) (front : String) : Prop where
  whole : ∃ back, s = front ++ back
  fits : front.utf8ByteSize ≤ max
  longest : ∀ n ≤ max, String.Pos.Raw.IsValid s ⟨n⟩ → n ≤ front.utf8ByteSize

/-- A text has only one longest front. -/
theorem LongestFront.unique {s front front' : String} {max : Nat} (h : LongestFront s max front)
    (h' : LongestFront s max front') : front = front' := by
  have hle : ∀ {a b : String}, LongestFront s max a → LongestFront s max b →
      a.utf8ByteSize ≤ b.utf8ByteSize := by
    intro a b ha hb
    obtain ⟨back, hs⟩ := ha.whole
    exact hb.longest _ ha.fits (isValid_iff_exists_front.mpr ⟨a, back, hs, rfl⟩)
  have hsize : front.utf8ByteSize = front'.utf8ByteSize := Nat.le_antisymm (hle h h') (hle h' h)
  obtain ⟨back, hs⟩ := h.whole
  obtain ⟨back', hs'⟩ := h'.whole
  have hcut := cutAt?_append front back
  rw [← hs, hs', hsize, cutAt?_append, Option.some.injEq, Prod.mk.injEq] at hcut
  exact String.toList_inj.mp hcut.1.symm

/-- Where going back stops, the text is cut into its longest front and the rest. -/
theorem exists_cutAt?_boundaryBefore? (s : String) (max : Nat) : ∃ stop front back,
    boundaryBefore? s.toUTF8.toList max = some stop ∧
    cutAt? stop s.toList = some (front.toList, back) ∧
      LongestFront s max front := by
  obtain ⟨stop, hstop, hboundary, hle, hlast⟩ := exists_boundaryBefore? s.toUTF8.toList max
  obtain ⟨front, back, rfl, rfl⟩ :=
    isValid_iff_exists_front.mp ((isBoundary_iff s stop).mp hboundary)
  refine ⟨_, front, back.toList, hstop, cutAt?_append front back, ⟨back, rfl⟩, hle,
    fun n hn hvalid => ?_⟩
  exact hlast n hn ((isBoundary_iff _ n).mpr hvalid)

end Text

namespace Response

/-! ## Taking characters -/

variable {max : Nat} {s a : List Char}

/-- What is taken is a front of the text. -/
theorem takeBytes_prefix (max : Nat) (s : List Char) : takeBytes max s <+: s := by
  induction s generalizing max with
  | nil => exact List.nil_prefix
  | cons c s ih =>
    rw [takeBytes]
    split
    · exact (List.prefix_cons_inj c).mpr (ih _)
    · exact List.nil_prefix

/-- What is taken fits. -/
theorem byteLength_takeBytes_le (max : Nat) (s : List Char) :
    Text.byteLength (takeBytes max s) ≤ max := by
  induction s generalizing max with
  | nil => exact Nat.zero_le max
  | cons c s ih =>
    rw [takeBytes]
    split
    next hfits =>
      have hrest := ih (max - c.utf8Size)
      rw [Text.byteLength]
      omega
    next => exact Nat.zero_le max

/-- Every front part that fits is part of what is taken. -/
theorem prefix_takeBytes (h : a <+: s) (hfits : Text.byteLength a ≤ max) :
    a <+: takeBytes max s := by
  induction s generalizing a max with
  | nil => exact h
  | cons c s ih =>
    cases a with
    | nil => exact List.nil_prefix
    | cons d a =>
      obtain ⟨rfl, ha⟩ := List.cons_prefix_cons.mp h
      rw [Text.byteLength] at hfits
      rw [takeBytes, if_pos (by omega)]
      exact (List.prefix_cons_inj d).mpr (ih ha (by omega))

/-- Taking characters gives the longest front. -/
theorem longestFront_takeBytes (s : String) (max : Nat) :
    Text.LongestFront s max (String.ofList (takeBytes max s.toList)) := by
  refine ⟨?_, ?_, fun n hn hvalid => ?_⟩
  · obtain ⟨back, hback⟩ := takeBytes_prefix max s.toList
    exact ⟨String.ofList back, by rw [← String.ofList_append, hback, String.ofList_toList]⟩
  · rw [Text.utf8ByteSize_ofList]
    exact byteLength_takeBytes_le max s.toList
  · obtain ⟨front, back, rfl, rfl⟩ := Text.isValid_iff_exists_front.mp hvalid
    have hprefix : front.toList <+: (front ++ back).toList :=
      ⟨back.toList, String.toList_append.symm⟩
    rw [Text.utf8ByteSize_eq] at hn ⊢
    obtain ⟨more, hmore⟩ := prefix_takeBytes hprefix hn
    rw [Text.utf8ByteSize_ofList, ← hmore, Text.byteLength_append]
    exact Nat.le_add_right _ _

/-! ## Previews -/

variable {r : Response}

/-- A body that fits is shown as it is. -/
theorem preview_of_le (h : r.body.utf8ByteSize ≤ max) : r.preview max = r.body := by
  rw [preview, previewOf, if_pos (Text.utf8ByteSize_eq r.body ▸ h), String.ofList_toList]

/-- Of a longer one its longest front is shown, with an ellipsis. -/
theorem preview_of_lt (h : max < r.body.utf8ByteSize) :
    r.preview max = String.ofList (takeBytes max r.body.toList) ++ "..." := by
  rw [preview, previewOf, if_neg (Nat.not_le.mpr (Text.utf8ByteSize_eq r.body ▸ h)),
    String.ofList_append]

/-- A preview is cut between two characters. -/
theorem cutPreview?_eq_preview (r : Response) (max : Nat) :
    r.cutPreview? max = some (r.preview max) := by
  rw [cutPreview?]
  split
  next hle => rw [preview_of_le hle]
  next hlt =>
    obtain ⟨stop, front, back, hstop, hcut, hfront⟩ := Text.exists_cutAt?_boundaryBefore? r.body max
    rw [hstop, Option.bind_some, hcut, Option.map_some, preview_of_lt (Nat.not_le.mp hlt),
      String.ofList_toList, hfront.unique (longestFront_takeBytes r.body max)]

/-- A preview shows the body if it has at most `max` bytes, and otherwise its longest front within
so many bytes, with an ellipsis.  Going back from the limit always comes to a boundary, never gets
below zero, and the body is never cut inside a character. -/
theorem previews_show_longest_fronts (r : Response) (max : Nat) :
    r.cutPreview? max = some (r.preview max) ∧
    if r.body.utf8ByteSize ≤ max then r.preview max = r.body
    else ∃ front, (∀ other, Text.LongestFront r.body max other ↔ other = front) ∧
      r.preview max = front ++ "..." := by
  refine ⟨cutPreview?_eq_preview r max, ?_⟩
  have hfront := longestFront_takeBytes r.body max
  split
  next hle => exact preview_of_le hle
  next hlt =>
    refine ⟨_, fun other => ⟨fun h => h.unique hfront, ?_⟩, preview_of_lt (Nat.not_le.mp hlt)⟩
    rintro rfl
    exact hfront

/-- A character of three bytes is left out if there is room for two of them, even if it is the first
one. -/
example : previewOf ['é', '€', 'x'] 4 = ['é', '.', '.', '.'] ∧
    previewOf ['€', 'x'] 2 = ['.', '.', '.'] := by
  decide

end Response

end Assay
