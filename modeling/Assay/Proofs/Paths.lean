import Assay.Json.Path
import Assay.Proofs.Reading
import Mathlib.Data.List.Chain

/-
  Paths that are written and paths that are read.

  A place in a document is a list of steps.  `Step.join` writes it as a path, and `Json.query` cuts
  a path into segments and follows those.  A segment is a name with at most one index behind it, so
  the two go together where no index stands directly behind another one (`Step.Separate`): there a
  query gives what the place leads to (`query_of_separate`).  Where one does, the brackets between
  the two are read as part of an index, and a query that arrives there refuses the path
  (`query_of_not_separate`).

  The text is followed from its front, with what has been written so far in front of the first
  piece.

  1. Reading a segment.  The first opening bracket ends its name, and what stands between it and a
     closing one at the end is the index (`ofChars_name`, `ofChars_index`).  An index is read if it
     is the digits of a position (`readIndex_natDigits`), and not if it has any other character
     (`readIndex_of_mem`).

  2. Following segments.  One lemma for each kind of segment: without an index, with a star, with
     another index (`querySegments_name`, `querySegments_star`, `querySegments_index`).

  3. Writing a place.  A name can be part of a path if it is not empty and has none of the
     characters at which a path is cut or trimmed (`PlainName`).

  4. Cutting.  Dots cut a path into pieces, outside brackets.  `glue` puts characters in front of
     the first piece, and with it cutting is described from the left, character by character
     (`splitSegments_cons`) and step by step (`splitSegments_member`, `splitSegments_item`).

  5. Following what has been written.  `querySegments_written` is the induction on the place, with
     the name that stands in front of it as a parameter, and `querySegments_unseparated` is its
     counterpart for two indices in a row.

  6. The root and the dot behind it do not count (`segments_afterRoot`), and nothing is trimmed from
     a path without blanks.
-/

namespace Assay

/-! ## Finding an opening bracket -/

namespace Text

/-- A character that does not occur is not found. -/
theorem splitFirst_of_not_mem {c : Char} {s : List Char} (h : c ∉ s) : splitFirst [c] s = none := by
  induction s with
  | nil => rfl
  | cons d rest ih =>
    rw [List.mem_cons, not_or] at h
    rw [splitFirst, stripFront, if_neg h.1, ih h.2]
    rfl

/-- The first occurrence of a character is found. -/
theorem splitFirst_append {c : Char} {s : List Char} (h : c ∉ s) (rest : List Char) :
    splitFirst [c] (s ++ c :: rest) = some (s, rest) := by
  induction s with
  | nil => simp [splitFirst, stripFront]
  | cons d s ih =>
    rw [List.mem_cons, not_or] at h
    rw [List.cons_append, splitFirst, stripFront, if_neg h.1, ih h.2]
    rfl

end Text

namespace Json

/-! ## Reading a segment -/

/-- Without an opening bracket a segment is a name. -/
theorem ofChars_name {name : List Char} (h : '[' ∉ name) : Segment.ofChars name = ⟨name, none⟩ := by
  rw [Segment.ofChars, Text.splitFirst_of_not_mem h]

/-- What stands between the first opening bracket and a closing one at the end is the index. -/
theorem ofChars_index {name : List Char} (h : '[' ∉ name) (index : List Char) :
    Segment.ofChars (name ++ '[' :: (index ++ [']'])) = ⟨name, some index⟩ := by
  have hlast : (name ++ '[' :: (index ++ [']'])).getLast? = some ']' := by
    rw [← List.cons_append, ← List.append_assoc, List.getLast?_concat]
  rw [Segment.ofChars, Text.splitFirst_append h]
  dsimp only
  rw [if_pos hlast, List.dropLast_concat]

/-- Digits are read as the number that they write, also with zeros in front, as long as it is a
position. -/
theorem readIndex_of_digits {s : List Char} (hs : s ≠ []) (hdigit : ∀ c ∈ s, c.isDigit = true)
    (h : Nat.ofDigitChars 10 s 0 < indexLimit) : readIndex s = some (Nat.ofDigitChars 10 s 0) := by
  have hall : (!s.isEmpty && s.all Char.isDigit) = true := by
    rw [List.isEmpty_eq_false_iff.mpr hs, List.all_eq_true.mpr hdigit]
    rfl
  have hvalue : s.foldl (fun n d => n * 10 + (d.toNat - 48)) 0 = Nat.ofDigitChars 10 s 0 := by
    rw [Nat.ofDigitChars_eq_foldl]
    simp only [Nat.mul_comm 10]
    rfl
  unfold readIndex
  split
  next rest => exact absurd (hdigit '+' List.mem_cons_self) (by decide)
  next =>
    dsimp only
    rw [if_pos hall, hvalue, if_pos h]

/-- The digits of a position are read as the position. -/
theorem readIndex_natDigits {i : Nat} (h : i < indexLimit) :
    readIndex (Number.natDigits i) = some i := by
  obtain ⟨d, ds, hds, -⟩ := natDigits_head i
  have hvalue : Nat.ofDigitChars 10 (Number.natDigits i) 0 = i :=
    Nat.ofDigitChars_toDigits (by decide) (by decide)
  have hread := readIndex_of_digits (hds ▸ List.cons_ne_nil d ds) (fun c hc => isDigit_natDigits hc)
    (hvalue.symm ▸ h)
  rwa [hvalue] at hread

/-- An index is not read if it has a character that is neither a digit nor a plus sign. -/
theorem readIndex_of_mem {s : List Char} {c : Char} (h : c ∈ s) (hdigit : c.isDigit = false)
    (hplus : c ≠ '+') : readIndex s = none := by
  have hrefused : ∀ digits : List Char, c ∈ digits → digits.all Char.isDigit = false := by
    intro digits hmem
    rw [List.all_eq_false]
    exact ⟨c, hmem, by rw [hdigit]; exact Bool.false_ne_true⟩
  unfold readIndex
  split
  next rest =>
    dsimp only
    rw [hrefused rest ((List.mem_cons.mp h).resolve_left hplus), Bool.and_false]
    rfl
  next =>
    dsimp only
    rw [hrefused s h, Bool.and_false]
    rfl

/-- A star is not read. -/
theorem ne_star_of_readIndex {s : List Char} {i : Nat} (h : readIndex s = some i) : s ≠ ['*'] := by
  intro hstar
  rw [hstar, readIndex_of_mem List.mem_cons_self (by decide) (by decide)] at h
  cases h

/-! ## Following segments -/

/-- One step leads to what is there. -/
theorem follow_singleton (v : Json) (s : Step) : v.follow [s] = v.step? s := by
  rw [follow]
  exact Option.bind_fun_some _

/-- The first step leads somewhere, and the others lead on from there. -/
theorem isSome_follow_cons {v : Json} {s : Step} {rest : List Step} :
    (v.follow (s :: rest)).isSome = true ↔ ∃ w, v.step? s = some w ∧
    (w.follow rest).isSome = true := by
  rw [follow, Option.isSome_bind, Option.any_eq_true]

/-- The value under the name of a segment; without a name it is the value itself. -/
def named (v : Json) (name : List Char) : Option Json :=
  if name.isEmpty then some v else v.member? (String.ofList name)

theorem named_nil (v : Json) : v.named [] = some v := rfl

/-- A name that is not empty leads to the member under it. -/
theorem named_toList {key : String} (h : key.toList ≠ []) (v : Json) :
    v.named key.toList = v.member? key := by
  rw [named, List.isEmpty_eq_false_iff.mpr h, String.ofList_toList]
  rfl

variable {path : String} {v w : Json} {name index : List Char} {rest : List Segment}

/-- A document without the name of the next segment has nothing there. -/
theorem querySegments_of_unnamed (seg : Segment) (h : v.named seg.name = none) :
    querySegments path v (seg :: rest) = .ok none := by
  rw [named] at h
  rw [querySegments, h]

/-- A segment without an index leads to the value under its name. -/
theorem querySegments_name (h : v.named name = some w) :
    querySegments path v (⟨name, none⟩ :: rest) = querySegments path w rest := by
  rw [named] at h
  rw [querySegments]
  dsimp only
  rw [h]

/-- A star ends a path. -/
theorem querySegments_star (h : v.named name = some w) :
    querySegments path v (⟨name, some ['*']⟩ :: rest) = .ok (some w) := by
  rw [named] at h
  rw [querySegments]
  dsimp only
  rw [h]
  rfl

/-- Any other index has to be read, and leads to an item of the value under the name. -/
theorem querySegments_index (h : v.named name = some w) (hstar : index ≠ ['*']) :
    querySegments path v (⟨name, some index⟩ :: rest) =
      match readIndex index with
      | none => .error (.invalidIndex (String.ofList index) path)
      | some i =>
        match w.item? i with
        | none => .ok none
        | some u => querySegments path u rest := by
  rw [named] at h
  rw [querySegments]
  dsimp only
  rw [h]
  dsimp only
  split
  next heq => cases heq
  next heq => exact absurd (Option.some.inj heq) hstar
  next heq =>
    obtain rfl := Option.some.inj heq
    rfl

end Json

/-! ## Writing a place -/

namespace Step

/-- A name can be part of a path: it is not empty, and it has none of the characters at which a path
is cut or trimmed. -/
def PlainName (key : String) : Prop :=
  key.toList ≠ [] ∧ ∀ c ∈ key.toList, c ≠ '.' ∧ c ≠ '[' ∧ c ≠ ']' ∧ Text.isBlank c = false

/-- A plain name has no bracket in it. -/
theorem PlainName.no_bracket {key : String} (h : PlainName key) : '[' ∉ key.toList :=
  fun hmem => (h.2 _ hmem).2.1 rfl

/-- A step can be part of a path. -/
def Plain : Step → Prop
  | member key => PlainName key
  | item index => index < Json.indexLimit

/-- The step is an index. -/
def isItem : Step → Bool
  | member _ => false
  | item _ => true

/-- No index stands directly behind another one. -/
def Separate (place : List Step) : Prop := place.IsChain fun s t => (s.isItem && t.isItem) = false

/-- The characters of a step. -/
def chars : Step → List Char
  | member key => '.' :: key.toList
  | item index => '[' :: (Json.Number.natDigits index ++ [']'])

theorem toList_text (s : Step) : s.text.toList = s.chars := by
  cases s with
  | member key => rw [text, chars, String.toList_append]; rfl
  | item index =>
    have hdigits : (toString index).toList = Json.Number.natDigits index := Nat.toList_repr
    rw [text, chars, String.toList_append, String.toList_append, hdigits]
    rfl

/-- A path is its root and the texts of its steps. -/
theorem toList_join (root : String) (place : List Step) :
    (join root place).toList = root.toList ++ place.flatMap chars := by
  rw [join, String.toList_append, String.toList_join, List.flatMap_map]
  simp only [toList_text]

/-- A step that can be part of a path has no blanks. -/
theorem Plain.not_blank {s : Step} (h : s.Plain) {c : Char} (hc : c ∈ s.chars) :
    Text.isBlank c = false := by
  cases s with
  | member key =>
    rcases List.mem_cons.mp hc with rfl | hc
    · decide
    · exact (h.2 c hc).2.2.2
  | item index =>
    rcases List.mem_cons.mp hc with rfl | hc
    · decide
    rcases List.mem_append.mp hc with hc | hc
    · exact Text.isBlank_of_isDigit (Json.isDigit_natDigits hc)
    · rw [List.mem_singleton.mp hc]
      decide

end Step

namespace Json

/-! ## Cutting what has been written -/

/-- Characters in front of the first one of some pieces. -/
def glue (front : List Char) : List (List Char) → List (List Char)
  | [] => [front]
  | piece :: more => (front ++ piece) :: more

/-- Characters in front of others are put in front of the first piece together. -/
theorem glue_glue (a b : List Char) (pieces : List (List Char)) :
    glue a (glue b pieces) = glue (a ++ b) pieces := by
  cases pieces with
  | nil => rfl
  | cons piece more => rw [glue, glue, glue, List.append_assoc]

/-- A dot outside brackets ends a piece, which is empty here. -/
theorem splitSegments_dot (s : List Char) :
    splitSegments false ('.' :: s) = [] :: splitSegments false s := by
  rw [splitSegments]
  rfl

/-- Any other character goes in front of the first piece. -/
theorem splitSegments_cons {inside : Bool} {c : Char} (h : c ≠ '.' ∨ inside = true)
    (s : List Char) :
    splitSegments inside (c :: s) =
      glue [c] (splitSegments (if c = '[' then true else if c = ']' then false else inside) s) := by
  have hcut : (decide (c = '.') && !inside) = false := by
    rcases h with h | h <;> simp [h]
  rw [splitSegments, hcut]
  rfl

/-- There is at least one piece. -/
theorem splitSegments_ne_nil (inside : Bool) (s : List Char) : splitSegments inside s ≠ [] := by
  cases s with
  | nil => exact List.cons_ne_nil _ _
  | cons c rest =>
    rw [splitSegments]
    split
    · exact List.cons_ne_nil _ _
    · dsimp only
      split <;> exact List.cons_ne_nil _ _

/-- Characters that are neither dots nor brackets stay together. -/
theorem splitSegments_append {front : List Char} (h : ∀ c ∈ front, c ≠ '.' ∧ c ≠ '[' ∧ c ≠ ']')
    (inside : Bool) (s : List Char) :
    splitSegments inside (front ++ s) = glue front (splitSegments inside s) := by
  induction front with
  | nil =>
    obtain ⟨piece, more, hpieces⟩ := List.exists_cons_of_ne_nil (splitSegments_ne_nil inside s)
    rw [List.nil_append, hpieces]
    rfl
  | cons c front ih =>
    obtain ⟨hdot, hopen, hclose⟩ := h c List.mem_cons_self
    rw [List.cons_append, splitSegments_cons (.inl hdot), if_neg hopen, if_neg hclose,
      ih fun d hd => h d (List.mem_cons_of_mem c hd), glue_glue]
    rfl

/-- What stands in brackets stays together. -/
theorem splitSegments_bracketed {inner : List Char} (h : ∀ c ∈ inner, c ≠ '.' ∧ c ≠ '[' ∧ c ≠ ']')
    (s : List Char) :
    splitSegments false ('[' :: (inner ++ ']' :: s)) =
      glue ('[' :: (inner ++ [']'])) (splitSegments false s) := by
  rw [splitSegments_cons (.inl (by decide)), if_pos rfl, splitSegments_append h,
    splitSegments_cons (.inl (by decide)), if_neg (by decide), if_pos rfl, glue_glue, glue_glue]
  rfl

/-- A digit is neither a dot nor a bracket. -/
theorem isDigit_no_cut {c : Char} (h : c.isDigit = true) : c ≠ '.' ∧ c ≠ '[' ∧ c ≠ ']' := by
  refine ⟨?_, ?_, ?_⟩ <;>
  · rintro rfl
    cases h

/-- The text of an index stays together. -/
theorem splitSegments_item (i : Nat) (s : List Char) :
    splitSegments false ((Step.item i).chars ++ s) =
      glue (Step.item i).chars (splitSegments false s) := by
  rw [Step.chars, List.cons_append, List.append_assoc, List.singleton_append]
  exact splitSegments_bracketed (fun c hc => isDigit_no_cut (isDigit_natDigits hc)) s

/-- The text of a member starts a new piece. -/
theorem splitSegments_member {key : String} (h : Step.PlainName key) (s : List Char) :
    splitSegments false ((Step.member key).chars ++ s) =
      [] :: glue key.toList (splitSegments false s) := by
  rw [Step.chars, List.cons_append, splitSegments_dot,
    splitSegments_append fun c hc => ⟨(h.2 c hc).1, (h.2 c hc).2.1, (h.2 c hc).2.2.1⟩]

/-! ## Following what has been written -/

/-- The segments of some pieces; empty pieces do not count. -/
def ofPieces (pieces : List (List Char)) : List Segment :=
  (pieces.filter fun p => !p.isEmpty).map Segment.ofChars

theorem ofPieces_nil_cons (more : List (List Char)) : ofPieces ([] :: more) = ofPieces more := rfl

/-- A piece that is not empty is a segment. -/
theorem ofPieces_cons {piece : List Char} (h : piece ≠ []) (more : List (List Char)) :
    ofPieces (piece :: more) = Segment.ofChars piece :: ofPieces more := by
  rw [ofPieces, List.filter_cons_of_pos (by rw [List.isEmpty_eq_false_iff.mpr h]; rfl)]
  rfl

/-- A piece without brackets leads to the value under its name. -/
theorem querySegments_piece (h : '[' ∉ name) (more : List (List Char)) :
    querySegments path v (ofPieces (name :: more)) =
      match v.named name with
      | none => .ok none
      | some w => querySegments path w (ofPieces more) := by
  by_cases hname : name = []
  · rw [hname]
    rfl
  · rw [ofPieces_cons hname, ofChars_name h]
    cases hnamed : v.named name with
    | none => exact querySegments_of_unnamed _ hnamed
    | some w => exact querySegments_name hnamed

/-- A piece with an index in brackets leads to what the index leads to. -/
theorem querySegments_indexed (h : '[' ∉ name) (index : List Char) (more : List (List Char)) :
    querySegments path v (ofPieces ((name ++ '[' :: (index ++ [']'])) :: more)) =
      querySegments path v (⟨name, some index⟩ :: ofPieces more) := by
  rw [ofPieces_cons (by simp), ofChars_index h]

/-- The segments of the text of a place behind a name. -/
def written (name : List Char) (place : List Step) : List Segment :=
  ofPieces (glue name (splitSegments false (place.flatMap Step.chars)))

/-- Behind a name nothing else is written. -/
theorem querySegments_written_nil (h : '[' ∉ name) :
    querySegments path v (written name []) = .ok (v.named name) := by
  rw [written, List.flatMap_nil, splitSegments, glue, List.append_nil, querySegments_piece h]
  cases v.named name <;> rfl

/-- A member behind a name is the name of another segment. -/
theorem querySegments_written_member {key : String} {place : List Step} (h : '[' ∉ name)
    (hkey : Step.PlainName key) :
    querySegments path v (written name (.member key :: place)) =
      match v.named name with
      | none => .ok none
      | some w => querySegments path w (written key.toList place) := by
  rw [written, List.flatMap_cons, splitSegments_member hkey, glue, List.append_nil,
    querySegments_piece h]
  rfl

/-- An index behind a name belongs to its segment, which ends there unless another index follows. -/
theorem querySegments_written_item {i : Nat} {place : List Step} (h : '[' ∉ name)
    (hi : i < indexLimit) (hplain : ∀ s ∈ place, s.Plain)
    (hnext : ∀ s ∈ place.head?, s.isItem = false) :
    querySegments path v (written name (.item i :: place)) =
      match v.named name with
      | none => .ok none
      | some w =>
        match w.item? i with
        | none => .ok none
        | some u => querySegments path u (written [] place) := by
  obtain ⟨more, hmore⟩ : ∃ more, splitSegments false (place.flatMap Step.chars) = [] :: more := by
    cases place with
    | nil => exact ⟨[], rfl⟩
    | cons s rest =>
      cases s with
      | member key =>
        rw [List.flatMap_cons, splitSegments_member (hplain _ List.mem_cons_self)]
        exact ⟨_, rfl⟩
      | item j => cases hnext _ rfl
  have hread := readIndex_natDigits hi
  rw [written, written, List.flatMap_cons, splitSegments_item, glue_glue, hmore, glue,
    List.append_nil, Step.chars, querySegments_indexed h]
  cases hnamed : v.named name with
  | none => exact querySegments_of_unnamed _ hnamed
  | some w =>
    rw [querySegments_index hnamed (ne_star_of_readIndex hread), hread]
    rfl

/-- From the text of an index on a piece has indices only. -/
theorem glue_item {place : List Step} (h : ∀ s ∈ place, s.Plain) (i : Nat) :
    ∃ inner more, glue (Step.item i).chars (splitSegments false (place.flatMap Step.chars)) =
      ('[' :: (inner ++ [']'])) :: more := by
  induction place generalizing i with
  | nil => exact ⟨Number.natDigits i, [], by simp [splitSegments, glue, Step.chars]⟩
  | cons s rest ih =>
    rw [List.flatMap_cons]
    cases s with
    | member key =>
      rw [splitSegments_member (h _ List.mem_cons_self), glue, List.append_nil]
      exact ⟨Number.natDigits i, _, rfl⟩
    | item j =>
      obtain ⟨inner, more, hinner⟩ := ih (fun s hs => h s (List.mem_cons_of_mem _ hs)) j
      rw [splitSegments_item, hinner, glue]
      exact ⟨Number.natDigits i ++ ']' :: '[' :: inner, more, by simp [Step.chars]⟩

/-- If another index follows, the brackets between the two are read as part of an index. -/
theorem querySegments_written_items {i j : Nat} {place : List Step} (h : '[' ∉ name)
    (hplain : ∀ s ∈ place, s.Plain) (hnamed : v.named name = some w) :
    ∃ index, querySegments path v (written name (.item i :: .item j :: place)) =
      .error (.invalidIndex index path) := by
  obtain ⟨inner, more, hinner⟩ := glue_item hplain j
  have hpiece : name ++ (Step.item i).chars ++ '[' :: (inner ++ [']']) =
      name ++ '[' :: ((Number.natDigits i ++ ']' :: '[' :: inner) ++ [']']) := by
    simp [Step.chars]
  have hbracket : ']' ∈ Number.natDigits i ++ ']' :: '[' :: inner := by simp
  have hstar : Number.natDigits i ++ ']' :: '[' :: inner ≠ ['*'] := by
    intro heq
    rw [heq] at hbracket
    exact absurd hbracket (by decide)
  rw [written, List.flatMap_cons, List.flatMap_cons, splitSegments_item, splitSegments_item, hinner,
    glue_glue, glue, hpiece, querySegments_indexed h, querySegments_index hnamed hstar,
    readIndex_of_mem hbracket (by decide) (by decide)]
  exact ⟨_, rfl⟩

/-- The text of a place leads to what the place leads to, also behind a name.  Induction on the
place. -/
theorem querySegments_written (path : String) : ∀ (place : List Step), (∀ s ∈ place, s.Plain) →
    Step.Separate place → ∀ (v : Json) (name : List Char), '[' ∉ name →
      querySegments path v (written name place) =
        .ok ((v.named name).bind fun w => w.follow place) := by
  intro place
  induction place with
  | nil =>
    intro _ _ v name hname
    rw [querySegments_written_nil hname]
    cases v.named name <;> rfl
  | cons s rest ih =>
    intro hplain hseparate v name hname
    obtain ⟨hs, hrest⟩ := List.forall_mem_cons.mp hplain
    obtain ⟨hnext, hapart⟩ := List.isChain_cons.mp hseparate
    cases s with
    | member key =>
      rw [querySegments_written_member hname hs]
      cases v.named name with
      | none => rfl
      | some w =>
        dsimp only
        rw [ih hrest hapart w key.toList hs.no_bracket, named_toList hs.1]
        rfl
    | item i =>
      rw [querySegments_written_item hname hs hrest hnext]
      cases v.named name with
      | none => rfl
      | some w =>
        dsimp only
        rw [Option.bind_some, follow, step?]
        cases w.item? i with
        | none => rfl
        | some u => exact ih hrest hapart u [] List.not_mem_nil

/-- Two indices in a row are refused, if the query arrives there.  Induction on the place. -/
theorem querySegments_unseparated (path : String) : ∀ (place : List Step), (∀ s ∈ place, s.Plain) →
    ¬ Step.Separate place → ∀ (v w : Json) (name : List Char), '[' ∉ name → v.named name = some w →
      (w.follow place.dropLast).isSome = true →
      ∃ index, querySegments path v (written name place) = .error (.invalidIndex index path) := by
  intro place
  induction place with
  | nil => exact fun _ h => absurd List.IsChain.nil h
  | cons s rest ih =>
    intro hplain hseparate v w name hname hnamed hfollow
    obtain ⟨hs, hrest⟩ := List.forall_mem_cons.mp hplain
    cases rest with
    | nil => exact absurd (List.isChain_singleton s) hseparate
    | cons t rest =>
      rw [List.dropLast_cons_cons] at hfollow
      obtain ⟨u, hstep, hon⟩ := isSome_follow_cons.mp hfollow
      have hlater : (s.isItem && t.isItem) = false → ¬ Step.Separate (t :: rest) :=
        fun hapart h => hseparate (List.isChain_cons_cons.mpr ⟨hapart, h⟩)
      cases s with
      | member key =>
        rw [querySegments_written_member hname hs, hnamed]
        exact ih hrest (hlater rfl) w u key.toList hs.no_bracket
          ((named_toList hs.1 w).trans hstep) hon
      | item i =>
        cases t with
        | member key =>
          have hnext : ∀ s ∈ (Step.member key :: rest).head?, s.isItem = false := by
            intro s hs
            rw [← Option.some.inj hs]
            rfl
          rw [querySegments_written_item hname hs hrest hnext, hnamed]
          dsimp only
          rw [show w.item? i = some u from hstep]
          exact ih hrest (hlater rfl) u u [] List.not_mem_nil (named_nil u) hon
        | item j =>
          exact querySegments_written_items hname (fun s hs => hrest s (List.mem_cons_of_mem _ hs))
            hnamed

/-! ## Paths of places -/

/-- The dot that may stand behind the root does not count. -/
theorem segments_afterRoot (s : List Char) : segments (afterRoot s) = segments s := by
  unfold afterRoot
  split
  next rest =>
    show ofPieces _ = ofPieces _
    rw [splitSegments_dot, ofPieces_nil_cons]
  next => rfl

/-- A path from the root is followed segment by segment. -/
theorem query_of_root {path : String} {rest : List Char}
    (h : Text.trimBoth path.toList = '$' :: rest) (v : Json) :
    v.query path = querySegments (Text.trim path) v (segments rest) := by
  rw [query, h, ← segments_afterRoot rest]
  rfl

/-- A path without blanks is followed as it stands. -/
theorem query_of_no_blank {path : String} {rest : List Char} (hpath : path.toList = '$' :: rest)
    (h : ∀ c ∈ rest, Text.isBlank c = false) (v : Json) :
    v.query path = querySegments path v (segments rest) := by
  have htrim : Text.trimBoth path.toList = path.toList := by
    refine Text.trimBoth_of_no_blank fun c hc => ?_
    rw [hpath] at hc
    rcases List.mem_cons.mp hc with rfl | hc
    · decide
    · exact h c hc
  have hwhole : Text.trim path = path := by rw [Text.trim, htrim, String.ofList_toList]
  rw [query_of_root (htrim.trans hpath), hwhole]

section Places

variable {place : List Step}

/-- A query with the path of a place follows the text of the steps. -/
theorem query_join (h : ∀ s ∈ place, s.Plain) (v : Json) :
    v.query (Step.join "$" place) = querySegments (Step.join "$" place) v (written [] place) := by
  have hpath : (Step.join "$" place).toList = '$' :: place.flatMap Step.chars :=
    Step.toList_join "$" place
  have hblank : ∀ c ∈ place.flatMap Step.chars, Text.isBlank c = false := by
    intro c hc
    obtain ⟨s, hs, hc⟩ := List.mem_flatMap.mp hc
    exact (h s hs).not_blank hc
  obtain ⟨piece, more, hpieces⟩ := List.exists_cons_of_ne_nil
    (splitSegments_ne_nil false (place.flatMap Step.chars))
  rw [query_of_no_blank hpath hblank, segments, written, hpieces]
  rfl

/-- A query with the path of a place gives what is there, if no index stands directly behind
another. -/
theorem query_of_separate (h : ∀ s ∈ place, s.Plain) (hseparate : Step.Separate place) (v : Json) :
    v.query (Step.join "$" place) = .ok (v.follow place) := by
  rw [query_join h, querySegments_written _ place h hseparate v [] List.not_mem_nil]
  rfl

/-- If one does, a query that arrives there refuses the path. -/
theorem query_of_not_separate (h : ∀ s ∈ place, s.Plain) (hseparate : ¬ Step.Separate place)
    {v : Json} (hfollow : (v.follow place.dropLast).isSome = true) :
    ∃ index, v.query (Step.join "$" place) =
      .error (.invalidIndex index (Step.join "$" place)) := by
  rw [query_join h]
  exact querySegments_unseparated _ place h hseparate v v [] List.not_mem_nil (named_nil v) hfollow

end Places

end Json

end Assay
