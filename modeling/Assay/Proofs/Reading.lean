import Assay.Json.Pieces
import Assay.Json.Reader
import Assay.Proofs.Arranging

/-
  The compact text of a document is read back.

  What the reader makes of the text of a document is the document with the members of all objects in
  order.  Two things are asked of the document: its numbers are integers, and it is not nested
  deeper than the reader allows (`Json.Readable`).  Doubles are left out because their shortest
  decimal form is another matter.

  Every part of a text is read with something behind it, and the only thing to know about this is
  that it `Closes` the part: nothing, a comma, or the end of the container.  The reader has fuel,
  and one unit for each character of the text is enough.  `Json.ReadsAs text depth v` says all of
  this of a text and a document: with that much fuel, and whatever closes it behind the text, the
  document is read with its members in order.

  1. Numbers.  Their digits are read one by one (`readNumber_natDigits`) and end where anything
     closes.

  2. Strings.  A character is read back from what is written for it (`readString_escaped`), be it
     itself, an escape of one letter, or the hexadecimal digits of a control character; and a string
     is read back up to its closing quotation mark (`readString_escapes`).

  3. Containers.  Items and members are `listed`: texts with commas between them.  `readItems_cons`
     and `readMembers_cons` read one of them and leave the others; `readItems_listed` and
     `readMembers_listed` are the inductions.  They are stated for any text that reads as the item,
     so that the indented text of a document can be read by the same lemmas.

  4. Documents.  `readsBack_of_readable` is the induction on the document, and `parse_compact` is
     about the whole text, behind which there is nothing.
-/

namespace Assay.Json

/-! ## Decimal digits -/

/-- More digits do not make a number smaller. -/
theorem le_ofDigitChars (ds : List Char) : ∀ start, start ≤ Nat.ofDigitChars 10 ds start := by
  induction ds with
  | nil => exact fun start => Nat.le_refl start
  | cons d rest ih =>
    intro start
    rw [Nat.ofDigitChars_cons]
    have hrest := ih (10 * start + (d.toNat - '0'.toNat))
    omega

/-- All digits of a number fit if the number does. -/
theorem fitting_of_lt (ds : List Char) :
    ∀ start, Nat.ofDigitChars 10 ds start < 0x10000000000000000 →
    fitting start ds = (Nat.ofDigitChars 10 ds start, []) := by
  induction ds with
  | nil => exact fun _ _ => rfl
  | cons d rest ih =>
    intro start h
    have hstep : start * 10 + (d.toNat - 48) = 10 * start + (d.toNat - '0'.toNat) := by
      rw [Nat.mul_comm]
      rfl
    rw [Nat.ofDigitChars_cons] at h ⊢
    have hfits := Nat.lt_of_le_of_lt (le_ofDigitChars rest _) h
    rw [fitting, hstep, if_pos hfits, ih _ h]

/-- Only zero starts with the digit zero.  Strong induction on the number. -/
theorem head?_natDigits (n : Nat) : (Number.natDigits n).head? = some '0' → n = 0 := by
  induction n using Nat.strongRecOn with
  | ind n ih =>
    intro h
    rw [Number.natDigits] at h
    rcases Nat.lt_or_ge n 10 with hlt | hge
    · rw [Nat.toDigits_of_lt_base hlt, List.head?_cons, Option.some.injEq] at h
      exact Nat.digitChar_eq_zero.mp h
    · rw [Nat.toDigits_of_base_le (by decide) hge,
        List.head?_append_of_ne_nil _ Nat.toDigits_ne_nil] at h
      have hzero := ih (n / 10) (by omega) h
      omega

/-- A number is written in digits. -/
theorem isDigit_natDigits {n : Nat} {c : Char} (h : c ∈ Number.natDigits n) : c.isDigit = true :=
  Nat.isDigit_of_mem_toDigits (by decide) (by decide) h

/-- The digits of a number start with a digit. -/
theorem natDigits_head (n : Nat) : ∃ d ds, Number.natDigits n = d :: ds ∧ d.isDigit = true := by
  cases hds : Number.natDigits n with
  | nil => exact absurd hds Nat.toDigits_ne_nil
  | cons d ds => exact ⟨d, ds, rfl, isDigit_natDigits (hds ▸ List.mem_cons_self)⟩

/-! ## What stands behind a value -/

/-- Behind a value: nothing, a comma, or the end of the container, which may stand on a line of its
own. -/
inductive Closes : List Char → Prop
  | nil : Closes []
  | comma (rest : List Char) : Closes (',' :: rest)
  | newline (rest : List Char) : Closes ('\n' :: rest)
  | bracket (rest : List Char) : Closes (']' :: rest)
  | brace (rest : List Char) : Closes ('\x7d' :: rest)

/-- The digits of a number end behind it. -/
theorem Closes.digitsOf_append {rest : List Char} (h : Closes rest) (n : Nat) :
    digitsOf (Number.natDigits n ++ rest) = Number.natDigits n := by
  have hrest : rest.takeWhile Char.isDigit = [] := by cases h <;> rfl
  rw [digitsOf, List.takeWhile_append_of_pos fun c hc => isDigit_natDigits hc, hrest,
    List.append_nil]

/-- The digits of a number are read as the number. -/
theorem readNumber_natDigits {n : Nat} (negative : Bool) {i : Number} {rest : List Char}
    (offset : Nat) (hn : n < 0x10000000000000000) (hnegative : negative = true → n ≠ 0)
    (hi : Number.ofInt? (if negative then -n else n) = some i) (h : Closes rest) :
    ∃ o, readNumber ⟨Number.natDigits n ++ rest, offset⟩ negative = .ok (i, ⟨rest, o⟩) := by
  obtain ⟨d, ds, hds, hdigit⟩ := natDigits_head n
  -- A leading zero is the only digit.
  have htaken : (if d = '0' then [d] else digitsOf (d :: (ds ++ rest))) = Number.natDigits n := by
    by_cases hd : d = '0'
    · have hzero : n = 0 := head?_natDigits n (by rw [hds, hd]; rfl)
      rw [if_pos hd, hd, hzero]
      rfl
    · have hall := h.digitsOf_append n
      rw [hds, List.cons_append] at hall
      rw [if_neg hd, hall, hds]
  have hfitting : fitting 0 (Number.natDigits n) = (n, []) := by
    have hvalue : Nat.ofDigitChars 10 (Number.natDigits n) 0 = n :=
      Nat.ofDigitChars_toDigits (by decide) (by decide)
    rw [fitting_of_lt _ _ (by rw [hvalue]; exact hn), hvalue]
  have hdropped : (d :: (ds ++ rest)).drop (Number.natDigits n).length = rest := by
    rw [← List.cons_append, ← hds, List.drop_left]
  have hlone : ¬ (decide (d = '0') && ((ds ++ rest).head?.map Char.isDigit).getD false) = true := by
    intro hnext
    rw [Bool.and_eq_true, decide_eq_true_eq] at hnext
    have hzero : n = 0 := head?_natDigits n (by rw [hds, hnext.1]; rfl)
    have hnil : ds = [] := by
      rw [hzero] at hds
      exact (List.cons.inj hds).2.symm
    have hstop : (rest.head?.map Char.isDigit).getD false = false := by cases h <;> rfl
    rw [hnil, List.nil_append, hstop] at hnext
    exact Bool.false_ne_true hnext.2
  have hinteger : (([] : List Char).isEmpty && !(negative && decide (n = 0))) = true := by
    cases negative with
    | false => rfl
    | true => simp [hnegative rfl]
  rw [hds, List.cons_append, readNumber]
  dsimp only
  rw [if_pos hdigit, htaken, hfitting, hdropped]
  dsimp only
  rw [if_neg hlone, hi]
  cases h <;> exact ⟨_, if_pos hinteger⟩

/-! ## Strings -/

/-- The hexadecimal digits of a control character stand for it. -/
theorem hexValue_hexDigit : ∀ d < 16, hexValue (hexDigit d) = some d := by decide

/-- Four hexadecimal digits are read as a control character. -/
theorem readHex_control {n : Nat} (h : n < 32) (rest : List Char) (offset : Nat) :
    readHex ⟨'0' :: '0' :: hexDigit (n / 16) :: hexDigit (n % 16) :: rest, offset⟩ =
      .ok (n, ⟨rest, offset + 4⟩) := by
  have hhigh : hexValue (hexDigit (n / 16)) = some (n / 16) := hexValue_hexDigit _ (by omega)
  have hlow : hexValue (hexDigit (n % 16)) = some (n % 16) := hexValue_hexDigit _ (by omega)
  have hnear : ¬ Text.byteLength ['0', '0', hexDigit (n / 16), hexDigit (n % 16)] < 4 := by
    have hbyte : ∀ c : Char, 1 ≤ c.utf8Size := Char.utf8Size_pos
    have hfirst := hbyte (hexDigit (n / 16))
    have hsecond := hbyte (hexDigit (n % 16))
    have hzero : '0'.utf8Size = 1 := rfl
    simp only [Text.byteLength, hzero]
    omega
  have hvalue : ((0 * 16 + 0) * 16 + n / 16) * 16 + n % 16 = n := by omega
  have hdigit : hexValue '0' = some 0 := by decide
  unfold readHex
  dsimp only
  split
  · next hfew => exact absurd hfew hnear
  · rw [hdigit, hhigh, hlow]
    dsimp only
    rw [hvalue]

theorem readUnicodeEscape_control {n : Nat} (h : n < 32) (rest : List Char) (offset : Nat) :
    readUnicodeEscape ⟨'0' :: '0' :: hexDigit (n / 16) :: hexDigit (n % 16) :: rest, offset⟩ =
      .ok (Char.ofNat n, ⟨rest, offset + 4⟩) := by
  have htrailing : ¬ (decide (0xDC00 ≤ n) && decide (n ≤ 0xDFFF)) = true := by
    rw [decide_eq_false (by omega : ¬ 0xDC00 ≤ n)]
    exact Bool.false_ne_true
  have hsingle : (decide (n < 0xD800) || decide (0xDBFF < n)) = true := by
    rw [decide_eq_true (by omega : n < 0xD800)]
    rfl
  rw [readUnicodeEscape, readHex_control h]
  show (if _ then _ else if _ then _ else _) = _
  rw [if_neg htrailing, if_pos hsingle]
  rfl

/-- A character is read back from what is written for it. -/
theorem readString_escaped (c : Char) (fuel offset : Nat) (rest acc : List Char) :
    ∃ o, readString (fuel + 1) ⟨escaped c ++ rest, offset⟩ acc =
      readString fuel ⟨rest, o⟩ (c :: acc) := by
  have hback : ∀ n, c.toNat = n → c = Char.ofNat n := fun n hn => hn ▸ (Char.ofNat_toNat c).symm
  unfold escaped
  split
  · subst c
    exact ⟨_, rfl⟩
  split
  · subst c
    exact ⟨_, rfl⟩
  split
  · subst c
    exact ⟨_, rfl⟩
  split
  · subst c
    exact ⟨_, rfl⟩
  split
  · subst c
    exact ⟨_, rfl⟩
  split
  · next h =>
    rw [hback 8 h]
    exact ⟨_, rfl⟩
  split
  · next h =>
    rw [hback 12 h]
    exact ⟨_, rfl⟩
  split
  · next h =>
    obtain ⟨o, ho⟩ : ∃ o, readEscape ⟨'u' :: '0' :: '0' :: hexDigit (c.toNat / 16) ::
        hexDigit (c.toNat % 16) :: rest, offset + 1⟩ = .ok (c, ⟨rest, o⟩) :=
      ⟨_, (readUnicodeEscape_control h rest _).trans (by rw [← hback c.toNat rfl])⟩
    refine ⟨o, ?_⟩
    show (readEscape
      ⟨'u' :: '0' :: '0' :: hexDigit (c.toNat / 16) :: hexDigit (c.toNat % 16) :: rest,
      offset + 1⟩ >>= fun p => readString fuel p.2 (p.1 :: acc)) = _
    rw [ho]
    rfl
  · next hquote hslash _ _ _ _ _ hcontrol =>
    refine ⟨offset + c.utf8Size, ?_⟩
    rw [List.singleton_append, readString]
    split
    · next heq => cases heq
    · next heq => exact absurd (List.cons.inj heq).1 hquote
    · next heq => exact absurd (List.cons.inj heq).1 hslash
    · next heq =>
      cases heq
      rw [if_neg hcontrol]
      rfl

/-- A string is read back up to its closing quotation mark. -/
theorem readString_escapes (rest : List Char) :
    ∀ (s : List Char) (fuel offset : Nat) (acc : List Char),
    (s.flatMap escaped).length < fuel →
    ∃ o, readString fuel ⟨s.flatMap escaped ++ '"' :: rest, offset⟩ acc =
      .ok (String.ofList (acc.reverse ++ s), ⟨rest, o⟩) := by
  intro s
  induction s with
  | nil =>
    intro fuel offset acc h
    obtain ⟨fuel, rfl⟩ := Nat.exists_eq_add_one_of_ne_zero (Nat.ne_zero_of_lt h)
    rw [List.append_nil]
    exact ⟨_, rfl⟩
  | cons c s ih =>
    intro fuel offset acc h
    obtain ⟨fuel, rfl⟩ := Nat.exists_eq_add_one_of_ne_zero (Nat.ne_zero_of_lt h)
    have hlength : 1 ≤ (escaped c).length := by
      unfold escaped
      split_ifs <;> exact Nat.le_add_left 1 _
    rw [List.flatMap_cons, List.length_append] at h
    obtain ⟨o, ho⟩ := readString_escaped c fuel offset (s.flatMap escaped ++ '"' :: rest) acc
    obtain ⟨o', ho'⟩ := ih fuel o (c :: acc) (by omega)
    refine ⟨o', ?_⟩
    rw [List.flatMap_cons, List.append_assoc, ho, ho', List.reverse_cons, List.append_assoc]
    rfl

/-! ## Lists of texts -/

/-- The texts of some things with commas between them, and one in front unless they are the first
ones. -/
def listed {α : Type} (text : α → List Char) (first : Bool) : List α → List Char
  | [] => []
  | a :: rest => (if first then [] else [',']) ++ text a ++ listed text false rest

/-- The text of a member whose value has a text. -/
def memberChars (text : Json → List Char) (m : String × Json) : List Char :=
  quoted m.1.toList ++ ':' :: text m.2

/-- The items of an array are listed. -/
theorem compactItems_eq_listed (items : List Json) :
    compactItems items = listed compactChars true items := by
  induction items with
  | nil => rfl
  | cons v rest ih =>
    cases rest with
    | nil => exact (List.append_nil _).symm
    | cons w rest =>
      rw [compactItems, ih]
      rfl

/-- The members of an object are listed. -/
theorem compactMembers_eq_listed (members : List (String × Json)) :
    compactMembers members = listed (memberChars compactChars) true members := by
  induction members with
  | nil => rfl
  | cons m rest ih =>
    obtain ⟨k, v⟩ := m
    cases rest with
    | nil => exact (List.append_nil _).symm
    | cons m rest =>
      have hmember : ∀ behind, quoted k.toList ++ ':' :: (compactChars v ++ behind) =
          memberChars compactChars (k, v) ++ behind := by
        intro behind
        rw [memberChars, List.append_assoc, List.cons_append]
      rw [compactMembers, ih, hmember]
      rfl

/-- Behind a listed text stands what stands behind the list, or a comma. -/
theorem closes_listed {α : Type} {text : α → List Char} {as : List α} {rest : List Char}
    (h : Closes rest) :
    Closes (listed text false as ++ rest) := by
  cases as with
  | nil => exact h
  | cons a as => exact .comma _

/-! ## Documents that are read back -/

mutual
/-- The numbers of the document are integers, and arrays and objects are nested so deep at most. -/
def Readable : Json → Nat → Prop
  | .number (.double _), _ => False
  | .array _, 0 => False
  | .array items, depth + 1 => ReadableItems items depth
  | .object _, 0 => False
  | .object members, depth + 1 => ReadableMembers members depth
  | _, _ => True
/-- Every document of the list is readable. -/
def ReadableItems : List Json → Nat → Prop
  | [], _ => True
  | v :: rest, depth => Readable v depth ∧ ReadableItems rest depth
/-- The value of every member is readable. -/
def ReadableMembers : List (String × Json) → Nat → Prop
  | [], _ => True
  | (_, v) :: rest, depth => Readable v depth ∧ ReadableMembers rest depth
end

/-- Items are readable if each of them is. -/
theorem readableItems_iff {items : List Json} {depth : Nat} :
    ReadableItems items depth ↔ ∀ v ∈ items, v.Readable depth := by
  induction items with
  | nil => simp [ReadableItems]
  | cons v rest ih => rw [ReadableItems, ih, List.forall_mem_cons]

/-- Members are readable if their values are. -/
theorem readableMembers_iff {members : List (String × Json)} {depth : Nat} :
    ReadableMembers members depth ↔ ∀ m ∈ members, m.2.Readable depth := by
  induction members with
  | nil => simp [ReadableMembers]
  | cons m rest ih => rw [ReadableMembers, ih, List.forall_mem_cons]

theorem ne_of_isDigit {c d : Char} (hc : c.isDigit = true) (hd : d.isDigit = false) : c ≠ d := by
  rintro rfl
  exact Bool.false_ne_true (hd.symm.trans hc)

theorem isSpace_of_isDigit {c : Char} (h : c.isDigit = true) : Cursor.isSpace c = false := by
  simp [Cursor.isSpace, ne_of_isDigit h (by decide : ' '.isDigit = false),
    ne_of_isDigit h (by decide : '\n'.isDigit = false),
    ne_of_isDigit h (by decide : '\t'.isDigit = false),
    ne_of_isDigit h (by decide : '\r'.isDigit = false)]

/-- A text starts with a character that is no blank and ends no array. -/
def Starts (text : List Char) : Prop :=
  ∃ c rest, text = c :: rest ∧ Cursor.isSpace c = false ∧ c ≠ ']'

theorem Starts.length_pos {text : List Char} (h : Starts text) : 0 < text.length := by
  obtain ⟨c, rest, rfl, -⟩ := h
  exact Nat.succ_pos _

/-- The text of a readable document starts so. -/
theorem starts_compactChars {v : Json} {depth : Nat} (h : v.Readable depth) :
    Starts v.compactChars := by
  cases v with
  | null => exact ⟨_, _, rfl, rfl, by decide⟩
  | bool b => cases b <;> exact ⟨_, _, rfl, rfl, by decide⟩
  | string s => exact ⟨_, _, rfl, rfl, by decide⟩
  | array items => exact ⟨_, _, rfl, rfl, by decide⟩
  | object members => exact ⟨_, _, rfl, rfl, by decide⟩
  | number n =>
    cases n with
    | double d => exact h.elim
    | integer i hi =>
      obtain ⟨d, ds, hds, hdigit⟩ := natDigits_head i.natAbs
      by_cases hneg : i < 0
      · exact ⟨'-', _, if_pos hneg, rfl, by decide⟩
      · exact ⟨d, ds, (if_neg hneg).trans hds, isSpace_of_isDigit hdigit,
          ne_of_isDigit hdigit (by decide)⟩

/-- The skipping of blanks stops at once. -/
theorem skipSpace_of_head {c : Char} {rest : List Char} {offset : Nat}
    (h : Cursor.isSpace c = false) :
    Cursor.skipSpace ⟨c :: rest, offset⟩ = ⟨c :: rest, offset⟩ := by
  rw [Cursor.skipSpace, List.takeWhile_cons_of_neg (by rw [h]; exact Bool.false_ne_true)]
  rfl

/-- Only blanks. -/
def Blank (gap : List Char) : Prop := ∀ c ∈ gap, Cursor.isSpace c = true

theorem blank_nil : Blank [] := List.forall_mem_nil _

/-- Blanks are skipped. -/
theorem skipSpace_append {gap : List Char} (h : Blank gap) (rest : List Char) (offset : Nat) :
    Cursor.skipSpace ⟨gap ++ rest, offset⟩ = Cursor.skipSpace ⟨rest, offset + gap.length⟩ := by
  simp only [Cursor.skipSpace, List.takeWhile_append_of_pos h, List.length_append, List.drop_append,
    List.drop_of_length_le (Nat.le_add_right gap.length _), List.nil_append,
    Nat.add_sub_cancel_left, Nat.add_assoc]

/-- A document is read from a text, with fuel for each of its characters. -/
def ReadsAs (text : List Char) (depth : Nat) (v : Json) : Prop :=
  ∀ (fuel offset : Nat) (rest : List Char), text.length ≤ fuel → Closes rest →
    ∃ o, readValue fuel depth ⟨text ++ rest, offset⟩ = .ok (v.arranged, ⟨rest, o⟩)

/-- A document is read back from its compact text. -/
def ReadsBack (depth : Nat) (v : Json) : Prop := ReadsAs v.compactChars depth v

/-- What follows an item is read behind it. -/
theorem readItems_of_item {depth fuel : Nat} {v : Json} {c next : Cursor}
    (h : readValue fuel depth c = .ok (v, next)) :
    (readValue fuel depth c >>= fun x => readItems fuel depth x.2 false >>=
      fun y => pure (x.1 :: y.1, y.2)) =
      (readItems fuel depth next false).map fun r => (v :: r.1, r.2) := by
  rw [h]
  show (readItems fuel depth next false >>= fun y => pure (v :: y.1, y.2)) = _
  cases readItems fuel depth next false <;> rfl

/-- Reads an item behind a comma, and then the others. -/
def readNextItem (fuel depth : Nat) (c : Cursor) : Except FaultAt (List Json × Cursor) := do
  let c ← match c.rest with
    | [] => c.failNext .endInValue
    | ']' :: _ => c.failNext .trailingComma
    | _ :: _ => pure c
  let (v, c) ← readValue fuel depth c
  let (vs, c) ← readItems fuel depth c false
  return (v :: vs, c)

/-- Behind a comma another item is read. -/
theorem readItems_comma (fuel depth offset : Nat) (rest : List Char) :
    readItems (fuel + 1) depth ⟨',' :: rest, offset⟩ false =
      readNextItem fuel depth (Cursor.skipSpace ⟨rest, offset + 1⟩) := by
  rw [readItems, skipSpace_of_head (by decide)]
  rfl

/-- An item is read, and then the others. -/
theorem readItems_cons {gap text : List Char} {v : Json} {depth : Nat} (fuel : Nat) (first : Bool)
    (offset : Nat) {rest : List Char} (hgap : Blank gap) (hstarts : Starts text)
    (hv : ReadsAs text depth v) (hfuel : text.length ≤ fuel) (hrest : Closes rest) :
    ∃ o, readItems (fuel + 1) depth
        ⟨(if first then [] else [',']) ++ (gap ++ text) ++ rest, offset⟩ first =
      (readItems fuel depth ⟨rest, o⟩ false).map fun r => (v.arranged :: r.1, r.2) := by
  obtain ⟨c, cs, hchars, hspace, hbracket⟩ := hstarts
  cases first with
  | true =>
    obtain ⟨o, ho⟩ := hv fuel (offset + gap.length) rest hfuel hrest
    refine ⟨o, ?_⟩
    rw [if_pos rfl, List.nil_append, List.append_assoc, readItems, skipSpace_append hgap]
    rw [hchars, List.cons_append] at ho ⊢
    rw [skipSpace_of_head hspace]
    dsimp only
    split
    · next heq => cases heq
    · next heq => exact absurd (List.cons.inj heq).1 hbracket
    · exact readItems_of_item ho
  | false =>
    obtain ⟨o, ho⟩ := hv fuel (offset + 1 + gap.length) rest hfuel hrest
    refine ⟨o, ?_⟩
    rw [if_neg Bool.false_ne_true, List.singleton_append, List.cons_append, List.append_assoc,
      readItems_comma, skipSpace_append hgap]
    rw [hchars, List.cons_append] at ho ⊢
    rw [skipSpace_of_head hspace, readNextItem]
    dsimp only
    split
    · next heq => cases heq
    · next heq => exact absurd (List.cons.inj heq).1 hbracket
    · exact readItems_of_item ho

/-- Reads a member at its name, and then the others. -/
def readMember (fuel depth : Nat) (acc : List (String × Json)) (c : Cursor) :
    Except FaultAt (List (String × Json) × Cursor) := do
  let (key, c) ← readString c.rest.length ⟨c.rest.drop 1, c.offset + 1⟩ []
  let c := c.skipSpace
  let c ← match c.rest with
    | [] => c.failNext .endInObject
    | ':' :: rest => pure (c.after ':' rest)
    | _ :: _ => c.failNext .expectedColon
  let (v, c) ← readValue fuel depth c
  readMembers fuel depth c false (put key v acc)

/-- Reads a member behind a comma, and then the others. -/
def readNextMember (fuel depth : Nat) (acc : List (String × Json)) (c : Cursor) :
    Except FaultAt (List (String × Json) × Cursor) := do
  let c ← match c.rest with
    | '"' :: _ => pure c
    | '\x7d' :: _ => c.failNext .trailingComma
    | [] => c.failNext .endInValue
    | _ :: _ => c.failNext .keyNotString
  readMember fuel depth acc c

/-- Behind a comma another member is read. -/
theorem readMembers_comma (fuel depth offset : Nat) (acc : List (String × Json))
    (rest : List Char) :
    readMembers (fuel + 1) depth ⟨',' :: rest, offset⟩ false acc =
      readNextMember fuel depth acc (Cursor.skipSpace ⟨rest, offset + 1⟩) := by
  rw [readMembers, skipSpace_of_head (by decide)]
  rfl

/-- A member is its name in quotation marks, a colon, and its value. -/
theorem memberChars_append (text : Json → List Char) (m : String × Json) (rest : List Char) :
    memberChars text m ++ rest =
      '"' :: (m.1.toList.flatMap escaped ++ '"' :: ':' :: (text m.2 ++ rest)) := by
  simp [memberChars, quoted]

/-- A member is read back, and put at its place. -/
theorem readMember_of_member {text : Json → List Char} {m : String × Json} {depth fuel : Nat}
    (offset : Nat) (acc : List (String × Json)) {rest : List Char}
    (hv : ReadsAs (text m.2) depth m.2) (hfuel : (text m.2).length ≤ fuel) (hrest : Closes rest) :
    ∃ o, readMember fuel depth acc ⟨memberChars text m ++ rest, offset⟩ =
      readMembers fuel depth ⟨rest, o⟩ false (put m.1 m.2.arranged acc) := by
  rw [memberChars_append]
  have hlength : (m.1.toList.flatMap escaped).length <
      ('"' :: (m.1.toList.flatMap escaped ++ '"' :: ':' :: (text m.2 ++ rest))).length := by
    simp only [List.length_cons, List.length_append]
    omega
  obtain ⟨o, ho⟩ :=
    readString_escapes (':' :: (text m.2 ++ rest)) m.1.toList _ (offset + 1) [] hlength
  obtain ⟨o', ho'⟩ := hv fuel (o + 1) rest hfuel hrest
  have hcolon : Cursor.skipSpace ⟨':' :: (text m.2 ++ rest), o⟩ = ⟨':' :: (text m.2 ++ rest), o⟩ :=
    skipSpace_of_head (by decide)
  refine ⟨o', ?_⟩
  unfold readMember
  dsimp only [List.drop]
  rw [ho]
  dsimp only [bind, Except.bind]
  rw [hcolon]
  show (readValue fuel depth ⟨text m.2 ++ rest, o + 1⟩ >>= fun x =>
    readMembers fuel depth x.2 false (put (String.ofList m.1.toList) x.1 acc)) = _
  rw [ho', String.ofList_toList]
  rfl

/-- A member is read, and then the others. -/
theorem readMembers_cons {gap : List Char} {text : Json → List Char} {m : String × Json}
    {depth : Nat} (fuel : Nat) (first : Bool) (offset : Nat) (acc : List (String × Json))
    {rest : List Char} (hgap : Blank gap) (hv : ReadsAs (text m.2) depth m.2)
    (hfuel : (text m.2).length ≤ fuel) (hrest : Closes rest) :
    ∃ o, readMembers (fuel + 1) depth
          ⟨(if first then [] else [',']) ++ (gap ++ memberChars text m) ++ rest, offset⟩ first acc =
        readMembers fuel depth ⟨rest, o⟩ false (put m.1 m.2.arranged acc) := by
  have hquote : ∀ o, Cursor.skipSpace ⟨memberChars text m ++ rest, o⟩ =
    ⟨memberChars text m ++ rest, o⟩ := by
    intro o
    rw [memberChars_append]
    exact skipSpace_of_head (by decide)
  cases first with
  | true =>
    obtain ⟨o, ho⟩ := readMember_of_member (offset + gap.length) acc hv hfuel hrest
    refine ⟨o, ?_⟩
    rw [if_pos rfl, List.nil_append, List.append_assoc, readMembers, skipSpace_append hgap, hquote]
    rw [memberChars_append] at ho ⊢
    exact ho
  | false =>
    obtain ⟨o, ho⟩ := readMember_of_member (offset + 1 + gap.length) acc hv hfuel hrest
    refine ⟨o, ?_⟩
    rw [if_neg Bool.false_ne_true, List.singleton_append, List.cons_append, List.append_assoc,
      readMembers_comma, skipSpace_append hgap, hquote]
    rw [memberChars_append] at ho ⊢
    exact ho

/-- The items of an array are read back up to its end.  Induction on the items. -/
theorem readItems_listed {depth : Nat} {gap back : List Char} {text : Json → List Char}
    (rest : List Char) {items : List Json} (hgap : Blank gap) (hback : Blank back)
    (hcloses : Closes (back ++ ']' :: rest)) (hstarts : ∀ v ∈ items, Starts (text v))
    (hitems : ∀ v ∈ items, ReadsAs (text v) depth v) :
    ∀ (fuel offset : Nat) (first : Bool),
    (listed (fun v => gap ++ text v) first items).length < fuel →
    ∃ o, readItems fuel depth
        ⟨listed (fun v => gap ++ text v) first items ++ (back ++ ']' :: rest), offset⟩ first =
      .ok (items.map arranged, ⟨rest, o⟩) := by
  induction items with
  | nil =>
    intro fuel offset first h
    obtain ⟨fuel, rfl⟩ := Nat.exists_eq_add_one_of_ne_zero (Nat.ne_zero_of_lt h)
    rw [listed, List.nil_append, readItems, skipSpace_append hback, skipSpace_of_head (by decide)]
    exact ⟨_, rfl⟩
  | cons v items ih =>
    intro fuel offset first h
    obtain ⟨fuel, rfl⟩ := Nat.exists_eq_add_one_of_ne_zero (Nat.ne_zero_of_lt h)
    rw [listed, List.length_append, List.length_append, List.length_append] at h
    have hpositive := (hstarts v List.mem_cons_self).length_pos
    obtain ⟨o, ho⟩ := readItems_cons fuel first offset hgap (hstarts v List.mem_cons_self)
      (hitems v List.mem_cons_self) (by omega) (closes_listed hcloses)
    obtain ⟨o', ho'⟩ := ih (fun v hv => hstarts v (List.mem_cons_of_mem _ hv))
      (fun v hv => hitems v (List.mem_cons_of_mem _ hv)) fuel o false (by omega)
    refine ⟨o', ?_⟩
    rw [listed, List.append_assoc, ho, ho']
    rfl

/-- The members of an object are read back up to its end, each put at its place.  Induction on the
members. -/
theorem readMembers_listed {depth : Nat} {gap back : List Char} {text : Json → List Char}
    (rest : List Char) {members : List (String × Json)} (hgap : Blank gap) (hback : Blank back)
    (hcloses : Closes (back ++ '\x7d' :: rest))
    (hmembers : ∀ m ∈ members, ReadsAs (text m.2) depth m.2) :
    ∀ (fuel offset : Nat) (first : Bool) (acc : List (String × Json)),
    (listed (fun m => gap ++ memberChars text m) first members).length < fuel →
    ∃ o, readMembers fuel depth
        ⟨listed (fun m => gap ++ memberChars text m) first members ++ (back ++ '\x7d' :: rest),
          offset⟩ first acc =
      .ok ((arrangedMembers members).foldl (fun acc m => put m.1 m.2 acc) acc, ⟨rest, o⟩) := by
  induction members with
  | nil =>
    intro fuel offset first acc h
    obtain ⟨fuel, rfl⟩ := Nat.exists_eq_add_one_of_ne_zero (Nat.ne_zero_of_lt h)
    rw [listed, List.nil_append, readMembers, skipSpace_append hback, skipSpace_of_head (by decide)]
    exact ⟨_, rfl⟩
  | cons m members ih =>
    intro fuel offset first acc h
    obtain ⟨fuel, rfl⟩ := Nat.exists_eq_add_one_of_ne_zero (Nat.ne_zero_of_lt h)
    rw [listed, List.length_append, List.length_append, List.length_append, memberChars, quoted,
      List.length_append, List.length_cons, List.length_cons] at h
    obtain ⟨o, ho⟩ := readMembers_cons fuel first offset acc hgap (hmembers m List.mem_cons_self)
      (by omega) (closes_listed hcloses)
    obtain ⟨o', ho'⟩ := ih (fun m hm => hmembers m (List.mem_cons_of_mem _ hm)) fuel o false
      (put m.1 m.2.arranged acc) (by omega)
    refine ⟨o', ?_⟩
    rw [listed, List.append_assoc, ho, ho']
    rfl

/-- A readable document has a text, so there is fuel for it. -/
theorem exists_fuel {v : Json} {depth fuel : Nat} (h : v.Readable depth)
    (hfuel : v.compactChars.length ≤ fuel) : ∃ f, fuel = f + 1 := by
  have hpositive := (starts_compactChars h).length_pos
  exact ⟨fuel - 1, by omega⟩

/-- An integer is read back. -/
theorem readsBack_integer {i : Int} (hi : -0x8000000000000000 ≤ i ∧ i < 0x10000000000000000)
    (depth : Nat) :
    ReadsBack depth (.number (.integer i hi)) := by
  intro fuel offset rest hfuel hrest
  have hreadable : (Json.number (.integer i hi)).Readable depth := trivial
  obtain ⟨fuel, rfl⟩ := exists_fuel hreadable hfuel
  have hlt : i.natAbs < 0x10000000000000000 := by omega
  have hinteger : Number.ofInt? i = some (.integer i hi) := dif_pos hi
  by_cases hneg : i < 0
  · have htext : compactChars (.number (.integer i hi)) = '-' :: Number.natDigits i.natAbs :=
      if_pos hneg
    have hvalue : (if true then -(i.natAbs : Int) else i.natAbs) = i := by
      rw [if_pos rfl]
      omega
    obtain ⟨o, ho⟩ := readNumber_natDigits true (offset + 1) hlt (fun _ => by omega)
      (by rw [hvalue]; exact hinteger) hrest
    refine ⟨o, ?_⟩
    rw [htext, readValue, List.cons_append, skipSpace_of_head (by decide)]
    show (readNumber ⟨Number.natDigits i.natAbs ++ rest, offset + 1⟩ true >>= fun x =>
      pure (Json.number x.1, x.2)) = _
    rw [ho]
    rfl
  · have htext : compactChars (.number (.integer i hi)) = Number.natDigits i.natAbs := if_neg hneg
    have hvalue : (if false then -(i.natAbs : Int) else i.natAbs) = i := by
      rw [if_neg Bool.false_ne_true]
      omega
    obtain ⟨o, ho⟩ := readNumber_natDigits false offset hlt nofun
      (by rw [hvalue]; exact hinteger) hrest
    obtain ⟨d, ds, hds, hdigit⟩ := natDigits_head i.natAbs
    refine ⟨o, ?_⟩
    rw [htext, readValue]
    rw [hds, List.cons_append] at ho ⊢
    rw [skipSpace_of_head (isSpace_of_isDigit hdigit)]
    dsimp only
    have hother : ∀ {c : Char} {cs : List Char}, d :: (ds ++ rest) = c :: cs → c.isDigit = true :=
      fun heq => (List.cons.inj heq).1 ▸ hdigit
    split
    · next heq => cases heq
    · next heq => exact absurd (hother heq) (by decide)
    · next heq => exact absurd (hother heq) (by decide)
    · next heq => exact absurd (hother heq) (by decide)
    · next heq => exact absurd (hother heq) (by decide)
    · next heq => exact absurd (hother heq) (by decide)
    · next heq => exact absurd (hother heq) (by decide)
    · next heq => exact absurd (hother heq) (by decide)
    · next heq =>
      rw [if_pos (hother heq), ho]
      rfl

/-- An array is read from the texts of its items. -/
theorem readsAs_array {depth : Nat} {gap back : List Char} {text : Json → List Char}
    {items : List Json} (hgap : Blank gap) (hback : Blank back)
    (hcloses : ∀ rest, Closes (back ++ ']' :: rest)) (hstarts : ∀ v ∈ items, Starts (text v))
    (hitems : ∀ v ∈ items, ReadsAs (text v) depth v) :
    ReadsAs ('[' :: (listed (fun v => gap ++ text v) true items ++ (back ++ [']']))) (depth + 1)
      (.array items) := by
  intro fuel offset rest hfuel _
  rw [List.length_cons, List.length_append, List.length_append, List.length_singleton] at hfuel
  obtain ⟨fuel, rfl⟩ := Nat.exists_eq_add_one_of_ne_zero (Nat.ne_zero_of_lt hfuel)
  obtain ⟨o, ho⟩ :=
    readItems_listed rest hgap hback (hcloses rest) hstarts hitems fuel (offset + 1) true (by omega)
  refine ⟨o, ?_⟩
  rw [List.cons_append, List.append_assoc, List.append_assoc, List.singleton_append, readValue,
    skipSpace_of_head (by decide)]
  show (readItems fuel depth
    ⟨listed (fun v => gap ++ text v) true items ++ (back ++ ']' :: rest), offset + 1⟩ true >>=
      fun x => pure (Json.array x.1, x.2)) = _
  rw [ho, arranged, arrangedItems_eq_map]
  rfl

/-- An object is read from the texts of its members. -/
theorem readsAs_object {depth : Nat} {gap back : List Char} {text : Json → List Char}
    {members : List (String × Json)} (hgap : Blank gap) (hback : Blank back)
    (hcloses : ∀ rest, Closes (back ++ '\x7d' :: rest))
    (hmembers : ∀ m ∈ members, ReadsAs (text m.2) depth m.2) :
    ReadsAs
      ('\x7b' :: (listed (fun m => gap ++ memberChars text m) true members ++ (back ++ ['\x7d'])))
      (depth + 1) (.object members) := by
  intro fuel offset rest hfuel _
  rw [List.length_cons, List.length_append, List.length_append, List.length_singleton] at hfuel
  obtain ⟨fuel, rfl⟩ := Nat.exists_eq_add_one_of_ne_zero (Nat.ne_zero_of_lt hfuel)
  obtain ⟨o, ho⟩ :=
    readMembers_listed rest hgap hback (hcloses rest) hmembers fuel (offset + 1) true [] (by omega)
  refine ⟨o, ?_⟩
  rw [List.cons_append, List.append_assoc, List.append_assoc, List.singleton_append, readValue,
    skipSpace_of_head (by decide)]
  show (readMembers fuel depth
    ⟨listed (fun m => gap ++ memberChars text m) true members ++ (back ++ '\x7d' :: rest),
      offset + 1⟩ true [] >>=
      fun x => pure (Json.object x.1, x.2)) = _
  rw [ho]
  rfl

/-- A readable document is read back from its text, its members in order. -/
theorem readsBack_of_readable (v : Json) : ∀ depth, v.Readable depth → ReadsBack depth v := by
  induction v with
  | null =>
    intro depth h fuel offset rest hfuel hrest
    obtain ⟨fuel, rfl⟩ := exists_fuel h hfuel
    rw [readValue, compactChars, List.cons_append, skipSpace_of_head (by decide)]
    exact ⟨_, rfl⟩
  | bool b =>
    intro depth h fuel offset rest hfuel hrest
    obtain ⟨fuel, rfl⟩ := exists_fuel h hfuel
    cases b with
    | true =>
      rw [readValue, compactChars, List.cons_append, skipSpace_of_head (by decide)]
      exact ⟨_, rfl⟩
    | false =>
      rw [readValue, compactChars, List.cons_append, skipSpace_of_head (by decide)]
      exact ⟨_, rfl⟩
  | number n =>
    intro depth h
    cases n with
    | double d => exact h.elim
    | integer i hi => exact readsBack_integer hi depth
  | string s =>
    intro depth h fuel offset rest hfuel hrest
    obtain ⟨fuel, rfl⟩ := exists_fuel h hfuel
    have htext : compactChars (.string s) ++ rest =
      '"' :: (s.toList.flatMap escaped ++ '"' :: rest) := by
      simp [compactChars, quoted]
    obtain ⟨o, ho⟩ := readString_escapes rest s.toList
      ((s.toList.flatMap escaped ++ '"' :: rest).length + 1) (offset + 1) []
      (by rw [List.length_append]; omega)
    refine ⟨o, ?_⟩
    rw [htext, readValue, skipSpace_of_head (by decide)]
    show (readString _ ⟨s.toList.flatMap escaped ++ '"' :: rest, offset + 1⟩ [] >>= fun x =>
      pure (Json.string x.1, x.2)) = _
    rw [ho, List.reverse_nil, List.nil_append, String.ofList_toList]
    rfl
  | array items ih =>
    intro depth h
    cases depth with
    | zero => exact h.elim
    | succ depth =>
      have hitems : ∀ v ∈ items, v.Readable depth := readableItems_iff.mp h
      rw [ReadsBack, compactChars, compactItems_eq_listed]
      exact readsAs_array blank_nil blank_nil .bracket
        (fun v hv => starts_compactChars (hitems v hv))
        fun v hv => ih v hv depth (hitems v hv)
  | object members ih =>
    intro depth h
    cases depth with
    | zero => exact h.elim
    | succ depth =>
      have hmembers : ∀ m ∈ members, m.2.Readable depth := readableMembers_iff.mp h
      rw [ReadsBack, compactChars, compactMembers_eq_listed]
      exact readsAs_object blank_nil blank_nil .brace fun m hm => ih m hm depth (hmembers m hm)

/-- A text that a document is read from can be read as a whole. -/
theorem parse_of_readsAs {text : List Char} {v : Json} (h : ReadsAs text depthLimit v) :
    parse (String.ofList text) = .ok v.arranged := by
  have hfuel : text.length ≤ 2 * text.length + 1 := by omega
  obtain ⟨o, ho⟩ := h _ 0 [] hfuel .nil
  rw [List.append_nil] at ho
  rw [parse, String.toList_ofList, parseChars]
  dsimp only
  rw [ho]
  rfl

/-- The text of a document is read as the document with its members in order. -/
theorem parse_compact {v : Json} (h : v.Readable depthLimit) : parse v.compact = .ok v.arranged :=
  parse_of_readsAs (readsBack_of_readable v depthLimit h)

end Assay.Json
