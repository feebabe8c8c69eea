import Assay.Proofs.Directories
import Assay.Proofs.Labels
import Assay.Proofs.Lines
import Assay.Url.Host

/-
  Names of hosts are read back as they are written.

  A name is read in several steps: its bytes are decoded, its characters mapped, its labels encoded
  one by one, and what comes out is checked once more.  A name that has been read has one form:
  basic Latin characters without capitals, none that is forbidden, and labels of which each stands
  for itself or for one with other characters.  `Host.Name` says so without the text the name was
  read from.  There are two results about it: reading gives names of this form
  (`name_of_readDomain`), and leaves them as they are (`Name.readDomain`).  So the address of a host
  is stable once it has been read.

  1. Pieces between separators.  Cutting at a separator and putting the pieces together again are
     inverse to each other as long as no piece has the separator in it (`intercalate_splitAtChar`,
     `splitAtChar_intercalate`).

  2. Basic Latin texts.  Such a text is what its bytes stand for (`ofBytes?_of_lt`), and without
     percent signs there is nothing to decode (`decode_of_not_mem`).

  3. Characters of names.  `Small` characters are those of the basic Latin block that are no
     capitals.  Small letters are found in a table of runs; that in this block a run starts at the
     capitals only (`bounds_of_image`) and leaves none out (`image_of_capital`) is all that has to
     be known of the table.  So mapping a character gives a small one or one of another block
     (`small_of_mem_lowerChar`), and leaves small ones as they are (`nameChar_of_small`).

  4. Labels.  A label with other characters is encoded by digits that are small, and a label that
     claims to be encoded is accepted only if it can be decoded; after that it stands for itself
     (`codedLabel_spec`).
-/

namespace Assay

/-! ## Options one after the other -/

/-- All items give something exactly if each of them does. -/
theorem mapM_eq_some_iff {α β : Type} {f : α → Option β} {as : List α} {bs : List β} :
    as.mapM f = some bs ↔ List.Forall₂ (fun a b => f a = some b) as bs := by
  induction as generalizing bs with
  | nil =>
    rw [List.mapM_nil, List.forall₂_nil_left_iff]
    exact ⟨fun h => (by cases h; rfl), fun h => (by rw [h]; rfl)⟩
  | cons a as ih =>
    rw [List.mapM_cons]
    constructor
    · intro h
      obtain ⟨b, hb, h⟩ := Option.bind_eq_some_iff.mp h
      obtain ⟨rest, hrest, h⟩ := Option.bind_eq_some_iff.mp h
      cases h
      exact .cons hb (ih.mp hrest)
    · rintro (_ | ⟨hb, hrest⟩)
      rw [hb, show as.mapM f = some _ from ih.mpr hrest]
      rfl

theorem exists_of_mem_mapM {α β : Type} {f : α → Option β} {as : List α} {bs : List β} {b : β}
    (h : as.mapM f = some bs) (hb : b ∈ bs) : ∃ a ∈ as, f a = some b := by
  have hall := mapM_eq_some_iff.mp h
  clear h
  induction hall with
  | nil => cases hb
  | cons hfirst _ ih =>
    rcases List.mem_cons.mp hb with rfl | hb
    · exact ⟨_, List.mem_cons_self, hfirst⟩
    · obtain ⟨a, ha, hf⟩ := ih hb
      exact ⟨a, List.mem_cons_of_mem _ ha, hf⟩

/-! ## Pieces between separators -/

namespace Text

variable {sep c : Char} {s piece : List Char} {pieces : List (List Char)}

theorem splitAtChar_eq_splitOn (sep : Char) (s : List Char) :
    splitAtChar sep s = s.splitOn sep := by
  induction s with
  | nil => rfl
  | cons c s ih =>
    obtain ⟨piece, rest, hs⟩ := List.exists_cons_of_ne_nil (splitAtChar_ne_nil sep s)
    rw [splitAtChar, List.splitOn, List.splitOnP_cons_eq_if_modifyHead, ← List.splitOn, ← ih, hs]
    by_cases hc : c = sep <;> simp [hc]

/-- The pieces put together are the text. -/
theorem intercalate_splitAtChar (sep : Char) (s : List Char) :
    [sep].intercalate (splitAtChar sep s) = s := by
  rw [splitAtChar_eq_splitOn, List.intercalate_splitOn]

/-- Pieces without separators are found again. -/
theorem splitAtChar_intercalate (hpieces : pieces ≠ []) (h : ∀ piece ∈ pieces, sep ∉ piece) :
    splitAtChar sep ([sep].intercalate pieces) = pieces := by
  rw [splitAtChar_eq_splitOn, List.splitOn_intercalate sep h hpieces]

/-- No piece has a separator in it. -/
theorem not_mem_of_mem_splitAtChar (h : piece ∈ splitAtChar sep s) : sep ∉ piece := by
  induction s generalizing piece with
  | nil =>
    rw [List.mem_singleton.mp h]
    exact List.not_mem_nil
  | cons c s ih =>
    obtain ⟨first, rest, hs⟩ := List.exists_cons_of_ne_nil (splitAtChar_ne_nil sep s)
    have hfirst : sep ∉ first := ih (hs ▸ List.mem_cons_self)
    have hrest : ∀ piece ∈ rest, sep ∉ piece := fun piece hp => ih (hs ▸ List.mem_cons_of_mem _ hp)
    rw [splitAtChar, hs] at h
    dsimp only at h
    -- A separator starts a piece, and any other character goes to the front of the first one.
    by_cases hc : c = sep
    · rw [if_pos hc] at h
      rcases List.mem_cons.mp h with rfl | h
      · exact List.not_mem_nil
      · rcases List.mem_cons.mp h with rfl | h
        · exact hfirst
        · exact hrest piece h
    · rw [if_neg hc] at h
      rcases List.mem_cons.mp h with rfl | h
      · simp [hfirst, Ne.symm hc]
      · exact hrest piece h

/-- What pieces are put together to comes from them, or is a separator. -/
theorem mem_of_mem_intercalate (h : c ∈ [sep].intercalate pieces) :
    c = sep ∨ ∃ piece ∈ pieces, c ∈ piece := by
  induction pieces with
  | nil => cases h
  | cons piece rest ih =>
    cases rest with
    | nil =>
      rw [List.intercalate_singleton] at h
      exact .inr ⟨piece, List.mem_cons_self, h⟩
    | cons next rest =>
      rw [List.intercalate_cons_cons, List.mem_append, List.mem_append, List.mem_singleton] at h
      rcases h with (h | h) | h
      · exact .inr ⟨piece, List.mem_cons_self, h⟩
      · exact .inl h
      · rcases ih h with h | ⟨other, hother, h⟩
        · exact .inl h
        · exact .inr ⟨other, List.mem_cons_of_mem _ hother, h⟩

theorem mem_of_mem_splitAtChar (h : piece ∈ splitAtChar sep s) (hc : c ∈ piece) : c ∈ s := by
  rw [← intercalate_splitAtChar sep s]
  generalize splitAtChar sep s = pieces at h
  induction pieces with
  | nil => cases h
  | cons first rest ih =>
    cases rest with
    | nil =>
      rw [List.mem_singleton.mp h] at hc
      rwa [List.intercalate_singleton]
    | cons next rest =>
      rw [List.intercalate_cons_cons]
      rcases List.mem_cons.mp h with rfl | h
      · exact List.mem_append_left _ (List.mem_append_left _ hc)
      · exact List.mem_append_right _ (ih h)

/-! ## Basic Latin texts and their bytes -/

/-- What holds of the code points below 128 holds of the basic Latin characters. -/
theorem of_latin {p : Char → Prop} (h : ∀ n < 128, p (Char.ofNat n)) (hc : c.toNat < 128) :
    p c := by
  rw [← Char.ofNat_toNat c]
  exact h c.toNat hc

theorem lt_of_isAlphanum (h : c.isAlphanum) : c.toNat < 128 := by
  have hcases : (65 ≤ c.toNat ∧ c.toNat ≤ 90 ∨ 97 ≤ c.toNat ∧ c.toNat ≤ 122) ∨
      48 ≤ c.toNat ∧ c.toNat ≤ 57 := by
    simpa [Char.isAlphanum, Char.isAlpha, Char.isUpper, Char.isLower, Char.isDigit,
      UInt32.le_iff_toNat_le] using h
  omega

/-- A basic Latin character is one byte. -/
theorem utf8EncodeChar_of_lt (h : c.toNat < 128) :
    String.utf8EncodeChar c = [UInt8.ofNat c.toNat] := by
  have hval : c.val.toNat ≤ 127 := Nat.le_of_lt_succ h
  unfold String.utf8EncodeChar
  exact if_pos hval

/-- Basic Latin bytes are decoded to the characters they are. -/
theorem decodeBytes_of_lt (h : ∀ c ∈ s, c.toNat < 128) :
    decodeBytes s.length (s.flatMap String.utf8EncodeChar) = s := by
  induction s with
  | nil => rfl
  | cons c s ih =>
    have hc : c.toNat < 128 := h c List.mem_cons_self
    have hbyte : (UInt8.ofNat c.toNat).toNat = c.toNat := by
      rw [UInt8.toNat_ofNat']
      omega
    have hlead : leadByte (UInt8.ofNat c.toNat) = some (0, 0, 0) := by
      refine if_pos (UInt8.lt_iff_toNat_lt.mpr ?_)
      rw [hbyte]
      exact hc
    rw [List.flatMap_cons, utf8EncodeChar_of_lt hc, List.singleton_append, List.length_cons,
      decodeBytes, hlead]
    show Char.ofNat (UInt8.ofNat c.toNat).toNat :: decodeBytes s.length _ = _
    rw [hbyte, Char.ofNat_toNat, List.drop_zero, ih fun d hd => h d (List.mem_cons_of_mem _ hd)]

/-- A basic Latin text is what its bytes stand for. -/
theorem ofBytes?_of_lt (h : ∀ c ∈ s, c.toNat < 128) :
    ofBytes? (s.flatMap String.utf8EncodeChar) = some (String.ofList s) := by
  have hlength : (s.flatMap String.utf8EncodeChar).length = s.length := by
    have hall : ∀ c ∈ s, (String.utf8EncodeChar c).length = 1 := fun c hc => by
      rw [utf8EncodeChar_of_lt (h c hc)]
      rfl
    rw [List.length_flatMap, List.map_congr_left hall, List.map_const', List.sum_replicate_nat,
      Nat.mul_one]
  have hbytes : ofBytes (s.flatMap String.utf8EncodeChar) = String.ofList s := by
    rw [ofBytes, hlength, decodeBytes_of_lt h]
  rw [ofBytes?, hbytes]
  exact if_pos (by rw [toList_toUTF8, String.toList_ofList])

end Text

namespace Percent

/-- A text without percent signs stands for its bytes. -/
theorem decode_of_not_mem {s : List Char} (h : '%' ∉ s) :
    decode s = s.flatMap String.utf8EncodeChar := by
  induction s with
  | nil => rfl
  | cons c s ih =>
    rw [List.mem_cons, not_or] at h
    obtain ⟨hc, hs⟩ := h
    rw [decode, ih hs, List.flatMap_cons]
    rintro _ _ _ rfl _
    exact hc rfl

end Percent

/-! ## Characters of names -/

namespace Host

/-- A character of the basic Latin block that is no capital. -/
def Small (c : Char) : Prop := c.toNat < 128 ∧ ¬(65 ≤ c.toNat ∧ c.toNat ≤ 90)

/-- In the basic Latin block, runs start at the capitals only and lead to small letters only. -/
theorem bounds_of_image {r : Unicode.Run} (hr : r ∈ Unicode.lowerRuns) {n m : Nat}
    (h : r.image n = some m) :
    (65 ≤ n ∧ n ≤ 90 ∨ 128 ≤ n) ∧ (97 ≤ m ∧ m ≤ 122 ∨ 128 ≤ m) := by
  have hall : ∀ r ∈ Unicode.lowerRuns, (65 ≤ r.1 ∧ r.2.1 ≤ 90 ∨ 128 ≤ r.1) ∧
      (97 ≤ r.2.2.2 ∧ r.2.2.2 + (r.2.1 - r.1) ≤ 122 ∨ 128 ≤ r.2.2.2) := by decide +kernel
  obtain ⟨first, last, stride, target⟩ := r
  obtain ⟨hfirst, htarget⟩ : (65 ≤ first ∧ last ≤ 90 ∨ 128 ≤ first) ∧
      (97 ≤ target ∧ target + (last - first) ≤ 122 ∨ 128 ≤ target) := hall _ hr
  rw [Unicode.Run.image] at h
  split at h
  next hin =>
    simp only [Bool.and_eq_true, decide_eq_true_eq] at hin
    cases h
    omega
  next => cases h

/-- No run leaves out a capital. -/
theorem image_of_capital {n : Nat} (h : 65 ≤ n ∧ n ≤ 90) :
    Unicode.lowerRuns.findSome? (fun r => r.image n) ≠ none := by
  intro hnone
  have hfirst : Unicode.Run.image (65, 90, 1, 97) n = none :=
    List.findSome?_eq_none_iff.mp hnone (65, 90, 1, 97) List.mem_cons_self
  rw [Unicode.Run.image] at hfirst
  split at hfirst
  next => cases hfirst
  next hout => exact hout (by simp [h, Nat.mod_one])

/-- The small form of a character is none of the capitals. -/
theorem small_of_mem_lowerChar {c d : Char} (h : d ∈ Text.lowerChar c) (hd : d.toNat < 128) :
    Small d := by
  rw [Text.lowerChar] at h
  split at h
  next =>
    rcases List.mem_cons.mp h with rfl | h
    · exact ⟨by decide, by decide⟩
    · rw [List.mem_singleton.mp h] at hd
      exact absurd hd (by decide)
  next =>
    rw [List.mem_singleton.mp h, Text.charAt, Char.toNat_ofNat] at hd
    rw [List.mem_singleton.mp h, Small, Text.charAt, Char.toNat_ofNat]
    split at hd
    next hvalid =>
      rw [if_pos hvalid]
      refine ⟨hd, ?_⟩
      rw [Unicode.applyRuns] at hd ⊢
      cases himage : Unicode.lowerRuns.findSome? fun r => r.image c.toNat with
      | none => exact fun hcapital => image_of_capital hcapital himage
      | some m =>
        rw [himage] at hd
        obtain ⟨r, hr, hm⟩ := List.exists_of_findSome?_eq_some himage
        have hbounds := (bounds_of_image hr hm).2
        have hm' : m < 128 := hd
        show ¬(65 ≤ m ∧ m ≤ 90)
        omega
    next hinvalid =>
      rw [if_neg hinvalid]
      exact ⟨by decide, by decide⟩

/-- Of the basic Latin characters, only capitals are changed in a name. -/
theorem nameChar_of_small {c : Char} (h : Small c) : nameChar c = [c] := by
  obtain ⟨hlow, hcapital⟩ := h
  have himage : Unicode.lowerRuns.findSome? (fun r => r.image c.toNat) = none := by
    refine List.findSome?_eq_none_iff.mpr fun r hr => ?_
    cases hm : r.image c.toNat with
    | none => rfl
    | some m =>
      have hbounds := (bounds_of_image hr hm).1
      omega
  have hdot : ¬isDot c = true := by
    simp only [isDot, List.contains_eq_mem, List.mem_cons, List.not_mem_nil, or_false,
      decide_eq_true_eq]
    omega
  have hwide : narrow c = c := by
    refine if_neg ?_
    simp only [Bool.and_eq_true, decide_eq_true_eq]
    omega
  rw [nameChar, if_neg hdot, if_neg (by omega), hwide, Text.lowerChar, if_neg (by omega),
    Unicode.applyRuns, himage]
  exact congrArg ([·]) (Char.ofNat_toNat c)

/-- What mapping leaves in the basic Latin block is no capital. -/
theorem small_of_mem_nameChar {c d : Char} (h : d ∈ nameChar c) (hd : d.toNat < 128) : Small d := by
  rw [nameChar] at h
  split at h
  · rw [List.mem_singleton.mp h]
    exact ⟨by decide, by decide⟩
  · split at h
    · cases h
    · exact small_of_mem_lowerChar h hd

/-! ## Labels and names -/

theorem small_of_mem_codedMark : ∀ c ∈ codedMark, Small c ∧ c ≠ '.' := by
  simp [codedMark, Small]

/-- The digits of an encoded label are small letters and digits. -/
theorem small_digitChar : ∀ d < 36, Small (Punycode.digitChar d) ∧ Punycode.digitChar d ≠ '.' := by
  unfold Small
  decide +kernel

/-- A label in basic Latin characters stands for itself. -/
theorem codedLabel_spec {label coded : List Char} (hsmall : ∀ c ∈ label, c.toNat < 128 → Small c)
    (hdot : '.' ∉ label) (h : codedLabel label = some coded) :
    (∀ c ∈ coded, Small c) ∧ '.' ∉ coded ∧ codedLabel coded = some coded := by
  by_cases hlatin : label.all fun c => c.toNat < 128
  · -- Whatever stands behind the mark, the label is left as it is.
    have hsame : coded = label := by
      rw [codedLabel, if_pos hlatin] at h
      split at h
      next => exact (Option.some.inj h).symm
      next =>
        split at h
        next =>
          split at h
          next => exact (Option.some.inj h).symm
          next => cases h
        next => cases h
    subst hsame
    exact ⟨fun c hc => hsmall c hc (of_decide_eq_true (List.all_eq_true.mp hlatin c hc)), hdot, h⟩
  · -- A label with other characters: what is put behind the mark is read back as this label.
    rw [codedLabel, if_neg hlatin] at h
    cases h
    have hmem : ∀ c ∈ codedMark ++ Punycode.encode label, Small c ∧ c ≠ '.' := by
      intro c hc
      rcases List.mem_append.mp hc with hc | hc
      · exact small_of_mem_codedMark c hc
      · rcases Punycode.mem_encode hc with ⟨hc, hlow⟩ | rfl | ⟨d, hd, rfl⟩
        · exact ⟨hsmall c hc hlow, fun hdot' => hdot (hdot' ▸ hc)⟩
        · exact ⟨⟨by decide, by decide⟩, by decide⟩
        · exact small_digitChar d hd
    refine ⟨fun c hc => (hmem c hc).1, fun hc => (hmem _ hc).2 rfl, ?_⟩
    have hlow : (codedMark ++ Punycode.encode label).all fun c => c.toNat < 128 :=
      List.all_eq_true.mpr fun c hc => decide_eq_true (hmem c hc).1.1
    have hother : label.any fun c => 128 ≤ c.toNat := by simpa using hlatin
    rw [codedLabel, if_pos hlow, Text.stripFront_eq_some.mpr rfl]
    dsimp only
    rw [Punycode.decode_encode]
    exact if_pos hother

/-- A name in the form in which it is written. -/
structure Name (name : List Char) : Prop where
  notEmpty : name ≠ []
  small : ∀ c ∈ name, Small c
  allowed : ∀ c ∈ name, forbidden c = false
  coded : ∀ label ∈ Text.splitAtChar '.' name, codedLabel label = some label

/-- A name that has been read has the form in which it is written. -/
theorem name_of_readDomain {s name : List Char} (h : readDomain s = .ok name) : Name name := by
  rw [Host.readDomain] at h
  split at h
  next => cases h
  next decoded _ =>
    split at h
    next => cases h
    next coded hcoded =>
      dsimp only at h
      split at h
      next => cases h
      next hallowed =>
        split at h
        next => cases h
        next hempty =>
          cases h
          -- The characters of a label come from those of the text, each as names have it.
          have hlabels : ∀ label ∈ coded, (∀ c ∈ label, Small c) ∧ '.' ∉ label ∧
            codedLabel label = some label := by
            intro label hlabel
            obtain ⟨plain, hplain, hcode⟩ := exists_of_mem_mapM hcoded hlabel
            refine codedLabel_spec (fun c hc hlow => ?_) (Text.not_mem_of_mem_splitAtChar hplain)
              hcode
            obtain ⟨d, -, hd⟩ := List.mem_flatMap.mp (Text.mem_of_mem_splitAtChar hplain hc)
            exact small_of_mem_nameChar hd hlow
          have hne : coded ≠ [] := by
            rintro rfl
            exact hempty rfl
          refine ⟨fun hnil => hempty (List.isEmpty_iff.mpr hnil), fun c hc => ?_,
            fun c hc => ?_, ?_⟩
          · rcases Text.mem_of_mem_intercalate hc with rfl | ⟨label, hlabel, hc⟩
            · exact ⟨by decide, by decide⟩
            · exact (hlabels label hlabel).1 c hc
          · exact Bool.eq_false_iff.mpr fun hforbidden => hallowed
              (List.any_eq_true.mpr ⟨c, hc, hforbidden⟩)
          · rw [Text.splitAtChar_intercalate hne fun label hlabel => (hlabels label hlabel).2.1]
            exact fun label hlabel => (hlabels label hlabel).2.2

/-- Reading leaves a name as it is. -/
theorem Name.readDomain {name : List Char} (h : Name name) : readDomain name = .ok name := by
  have hlatin : ∀ c ∈ name, c.toNat < 128 := fun c hc => (h.small c hc).1
  have hpercent : '%' ∉ name := fun hc => absurd (h.allowed _ hc) (by decide)
  have hchars : name.flatMap nameChar = name := by
    rw [List.flatMap_congr fun c hc => nameChar_of_small (h.small c hc), List.flatMap_singleton']
  have hcoded : (Text.splitAtChar '.' name).mapM codedLabel = some (Text.splitAtChar '.' name) :=
    mapM_eq_some_iff.mpr (List.forall₂_same.mpr h.coded)
  have hallowed : name.any forbidden = false :=
    List.any_eq_false.mpr fun c hc => (by simp [h.allowed c hc])
  rw [Host.readDomain, Percent.decode_of_not_mem hpercent, Text.ofBytes?_of_lt hlatin]
  dsimp only
  rw [String.toList_ofList, hchars, hcoded]
  dsimp only
  rw [Text.intercalate_splitAtChar, hallowed, List.isEmpty_eq_false_iff.mpr h.notEmpty]
  rfl

end Host

end Assay
