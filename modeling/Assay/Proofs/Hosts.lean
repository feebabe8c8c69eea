import Assay.Proofs.Domains
import Assay.Proofs.Settling
import Mathlib.Data.List.Induction

/-
  Hosts are read back from their text.

  A host that has been read is `Host.Normal`: a name in its written form that does not end in a
  number, an address that fits into four bytes, or eight pieces of 16 bits.  The text of such a host
  is read as the same host (`Normal.readSpecial_text`), in whatever way it was written before: with
  fewer numbers, in another base, with zeros in front or with the two colons in another place.

  1. Digits.  A number is the value of its digits, in any base up to 16 (`digitsValue_toDigits`, by
     strong induction, which takes the last digit off), and a bound on the number of digits is one
     on the value (`digitsValue_lt`).  The digits are letters and digits, so none of the marks
     around a number is among them.

  2. Addresses of four bytes.  Four numbers between dots are the labels of the text
     (`labels_ipv4Text`), and each of them is read back by itself.  The last number of an address
     that is written otherwise may stand for several bytes; whatever it stands for, the address fits
     (`lt_of_readIpv4`).

  3. Addresses of eight pieces.  Pieces between colons are read back (`readPart_piecesText`).  The
     writer leaves out the longest row of zeros, and the reader puts in as many zeros as are
     missing, which are just those (`take_of_le_zerosAhead`); two colons next to each other occur
     only there (`apart_piecesText`).  `eight_of_readIpv6` says that reading always gives eight
     pieces.

  4. Hosts.  The three kinds of text are told apart by a bracket in front and by a number at the
     end.  A name that ends in a number would be read as an address, and this is why `Normal`
     excludes it.

  The last section collects what characters the text of a host may have (`Inside`): none that ends
  an authority or a user, and no blank.  The readers of addresses rely on this and on nothing else
  about hosts.
-/

namespace Assay.Host

/-! ## Digits -/

theorem hexDigit?_digitChar : ∀ d < 16, Percent.hexDigit? (Nat.digitChar d) = some d := by decide

/-- A digit stands for less than 16. -/
theorem hexDigit?_lt {c : Char} {d : Nat} (h : Percent.hexDigit? c = some d) : d < 16 := by
  simp only [Percent.hexDigit?, Bool.and_eq_true, decide_eq_true_eq] at h
  split at h
  · cases h; omega
  · split at h
    · cases h; omega
    · split at h
      · cases h; omega
      · cases h

/-- The digits of a number are those of its base. -/
theorem exists_of_mem_toDigits {b n : Nat} (hb : 1 < b) {c : Char} (hc : c ∈ Nat.toDigits b n) :
    ∃ d < b, c = Nat.digitChar d := by
  induction n using Nat.strong_induction_on with
  | h n ih =>
    rw [Nat.toDigits_eq_if hb] at hc
    split at hc
    next hlast => exact ⟨n, hlast, List.mem_singleton.mp hc⟩
    next hmore =>
      rcases List.mem_append.mp hc with hc | hc
      · exact ih (n / b) (Nat.div_lt_self (by omega) hb) hc
      · exact ⟨n % b, Nat.mod_lt n (by omega), List.mem_singleton.mp hc⟩

/-- One more digit counts once, and the others one place higher. -/
theorem digitsValue_concat (b : Nat) (ds : List Char) (c : Char) :
    digitsValue b (ds ++ [c]) = digitsValue b ds * b + (Percent.hexDigit? c).getD 0 := by
  rw [digitsValue, List.foldl_append]
  rfl

/-- A number is the value of its digits. -/
theorem digitsValue_toDigits {b : Nat} (hb : 1 < b) (hb' : b ≤ 16) (n : Nat) :
    digitsValue b (Nat.toDigits b n) = n := by
  induction n using Nat.strong_induction_on with
  | h n ih =>
    rw [Nat.toDigits_eq_if hb]
    split
    next hlast =>
      rw [← List.nil_append [_], digitsValue_concat, hexDigit?_digitChar n (by omega)]
      show 0 * b + n = n
      omega
    next hmore =>
      have hmod : n % b < b := Nat.mod_lt n (by omega)
      rw [digitsValue_concat, ih (n / b) (Nat.div_lt_self (by omega) hb),
        hexDigit?_digitChar _ (by omega)]
      exact Nat.div_add_mod' n b

/-- As many hexadecimal digits bound their value. -/
theorem digitsValue_lt (ds : List Char) : digitsValue 16 ds < 16 ^ ds.length := by
  induction ds using List.reverseRecOn with
  | nil => exact Nat.one_pos
  | append_singleton ds c ih =>
    have hc : (Percent.hexDigit? c).getD 0 < 16 := by
      cases h : Percent.hexDigit? c with
      | none => exact Nat.succ_pos 15
      | some d => exact hexDigit?_lt h
    rw [digitsValue_concat, List.length_append, List.length_singleton, Nat.pow_succ]
    omega

/-- Digits are letters and digits. -/
theorem isAlphanum_of_mem_toDigits {b n : Nat} (hb : 1 < b) (hb' : b ≤ 16) {c : Char}
    (hc : c ∈ Nat.toDigits b n) :
    c.isAlphanum := by
  have hall : ∀ d < 16, (Nat.digitChar d).isAlphanum = true := by decide
  obtain ⟨d, hd, rfl⟩ := exists_of_mem_toDigits hb hc
  exact hall d (by omega)

/-- No mark is among the digits. -/
theorem not_mem_toDigits {b n : Nat} (hb : 1 < b) (hb' : b ≤ 16) {c : Char}
    (h : c.isAlphanum = false) :
    c ∉ Nat.toDigits b n := by
  intro hc
  rw [isAlphanum_of_mem_toDigits hb hb' hc] at h
  cases h

theorem isDigit_of_mem_toDigits {n : Nat} {c : Char} (hc : c ∈ Nat.toDigits 10 n) : c.isDigit :=
  Nat.isDigit_of_mem_toDigits (by decide) (by decide) hc

/-! ## Addresses of four bytes -/

/-- A byte is read back from its decimal digits. -/
theorem readNumber_toDigits :
    ∀ b < 256, readNumber (Nat.toDigits 10 b) = some b := by decide +kernel

/-- The four numbers of an address. -/
def fourBytes (n : Nat) : List Nat := [n / 0x1000000, n / 0x10000 % 256, n / 0x100 % 256, n % 256]

/-- An address is written as four numbers between dots. -/
theorem toList_ipv4Text (n : Nat) :
    (ipv4Text n).toList = ['.'].intercalate ((fourBytes n).map (Nat.toDigits 10)) := by
  have hdot : (toString ".").toList = ['.'] := rfl
  simp [ipv4Text, fourBytes, hdot, List.intercalate_cons_cons, List.intercalate_singleton]

/-- So many bytes stand for less than the power of 256. -/
theorem bytesValue_lt {ns : List Nat} (h : ∀ n ∈ ns, n < 256) :
    ns.foldl (fun sum n => sum * 256 + n) 0 < 256 ^ ns.length := by
  induction ns using List.reverseRecOn with
  | nil => exact Nat.one_pos
  | append_singleton ns n ih =>
    have hfront := ih fun m hm => h m (List.mem_append_left _ hm)
    have hlast : n < 256 := h n (List.mem_append_right _ List.mem_cons_self)
    rw [List.foldl_append, List.length_append, List.length_singleton, Nat.pow_succ]
    show ns.foldl (fun sum n => sum * 256 + n) 0 * 256 + n < _
    omega

/-- An address that has been read fits into four bytes. -/
theorem lt_of_readIpv4 {name : List Char} {host : Host} (h : readIpv4 name = .ok host) :
    ∃ n < 2 ^ 32, host = .ipv4 n := by
  rw [readIpv4] at h
  split at h
  next => cases h
  next hparts =>
    split at h
    next => cases h
    next ns hns =>
      dsimp only at h
      split at h
      next => cases h
      next hbounds =>
        cases h
        simp only [Bool.or_eq_true, List.any_eq_true, decide_eq_true_eq, not_or, not_exists,
          not_and, Nat.not_lt, Nat.not_le] at hbounds
        obtain ⟨hfront, hlast⟩ := hbounds
        have hvalue := bytesValue_lt fun n hn => Nat.lt_succ_of_le (hfront n hn)
        have hlength : ns.dropLast.length ≤ 3 := by
          rw [List.length_dropLast, ← (mapM_eq_some_iff.mp hns).length_eq]
          omega
        refine ⟨_, ?_, rfl⟩
        -- The last number fills what the other ones leave free.
        generalize ns.dropLast.foldl (fun sum n => sum * 256 + n) 0 = value at hvalue ⊢
        generalize ns.dropLast.length = k at *
        generalize ns.getLast?.getD 0 = last at *
        rw [Nat.shiftLeft_eq] at hlast ⊢
        interval_cases k <;> omega

/-- Pieces between dots that are not empty are the labels of a name. -/
theorem labels_intercalate {pieces : List (List Char)} (hne : pieces ≠ [])
    (h : ∀ piece ∈ pieces, piece ≠ [] ∧ '.' ∉ piece) :
    labels (['.'].intercalate pieces) = pieces := by
  rw [labels, Text.splitAtChar_intercalate hne fun piece hp => (h piece hp).2]
  refine if_neg fun hlast => ?_
  simp only [Bool.and_eq_true, decide_eq_true_eq] at hlast
  exact (h [] (List.mem_of_getLast? hlast.2)).1 rfl

/-- The labels of an address are its four numbers. -/
theorem labels_ipv4Text (n : Nat) :
    labels (ipv4Text n).toList = (fourBytes n).map (Nat.toDigits 10) := by
  rw [toList_ipv4Text]
  refine labels_intercalate (by simp [fourBytes]) fun piece hp => ?_
  obtain ⟨b, -, rfl⟩ := List.mem_map.mp hp
  exact ⟨Nat.toDigits_ne_nil, not_mem_toDigits (by decide) (by decide) rfl⟩

/-- An address of four bytes is read back. -/
theorem readIpv4_ipv4Text {n : Nat} (h : n < 2 ^ 32) :
    readIpv4 (ipv4Text n).toList = .ok (.ipv4 n) := by
  have hbytes : ∀ b ∈ fourBytes n, b < 256 := by
    intro b hb
    simp only [fourBytes, List.mem_cons, List.not_mem_nil, or_false] at hb
    omega
  have hnumbers : ((fourBytes n).map (Nat.toDigits 10)).mapM readNumber = some (fourBytes n) := by
    rw [mapM_eq_some_iff, List.forall₂_map_left_iff, List.forall₂_same]
    exact fun b hb => readNumber_toDigits b (hbytes b hb)
  rw [readIpv4, labels_ipv4Text, hnumbers]
  have hbounds : ((fourBytes n).dropLast.any (255 < ·) || 1 <<< 8 ≤ n % 256) = false := by
    have hlast : n % 256 < 256 := Nat.mod_lt n (by decide)
    simp only [Bool.or_eq_false_iff, List.any_eq_false, decide_eq_true_eq, decide_eq_false_iff_not,
      Nat.not_lt, Nat.not_le]
    exact ⟨fun b hb => Nat.le_of_lt_succ (hbytes b (List.mem_of_mem_dropLast hb)), hlast⟩
  have hvalue :
      (((0 * 256 + n / 0x1000000) * 256 + n / 0x10000 % 256) * 256 + n / 0x100 % 256) <<< 8 +
        n % 256 = n := by
    rw [Nat.shiftLeft_eq]
    omega
  refine (if_neg (show ¬4 < 4 from Nat.lt_irrefl 4)).trans
    ((if_neg (Bool.eq_false_iff.mp hbounds)).trans ?_)
  exact congrArg (Except.ok ∘ ipv4) hvalue

/-! ## Addresses of eight pieces -/

/-- A piece of 16 bits is read back from its hexadecimal digits. -/
theorem readPiece_toDigits {n : Nat} (h : n < 0x10000) :
    readPiece (Nat.toDigits 16 n) = some n := by
  have hlength : (Nat.toDigits 16 n).length ≤ 4 :=
    (Nat.length_toDigits_le_iff (by decide) (by decide)).mpr h
  have hdigits : (Nat.toDigits 16 n).all (fun c => (Percent.hexDigit? c).isSome) = true := by
    refine List.all_eq_true.mpr fun c hc => ?_
    obtain ⟨d, hd, rfl⟩ := exists_of_mem_toDigits (by decide) hc
    rw [hexDigit?_digitChar d hd]
    rfl
  rw [readPiece, digitsValue_toDigits (by decide) (by decide)]
  exact if_pos (by simp [Nat.toDigits_ne_nil, hlength, hdigits])

/-- A piece that has been read fits into 16 bits. -/
theorem lt_of_readPiece {s : List Char} {n : Nat} (h : readPiece s = some n) : n < 0x10000 := by
  rw [readPiece] at h
  split at h
  next hs =>
    cases h
    simp only [Bool.and_eq_true, decide_eq_true_eq] at hs
    exact (digitsValue_lt s).trans_le (Nat.pow_le_pow_right (by decide) hs.1.2)
  next => cases h

theorem lt_of_readByte {s : List Char} {n : Nat} (h : readByte s = some n) : n < 256 := by
  rw [readByte] at h
  split at h
  next hs =>
    cases h
    simp only [Bool.and_eq_true, decide_eq_true_eq] at hs
    omega
  next => cases h

theorem lt_of_readDotted {s : List Char} {ns : List Nat} (h : readDotted s = some ns) :
    ∀ n ∈ ns, n < 0x10000 := by
  rw [readDotted] at h
  split at h
  next a b c d habcd =>
    cases h
    have hbytes : ∀ n ∈ [a, b, c, d], n < 256 := fun n hn => by
      obtain ⟨piece, -, hpiece⟩ := exists_of_mem_mapM habcd hn
      exact lt_of_readByte hpiece
    simp only [List.forall_mem_cons] at hbytes
    simp only [List.mem_cons, List.not_mem_nil, or_false]
    omega
  next => cases h

/-- So do all pieces of a row, the last of which may be four bytes. -/
theorem lt_of_readPieces {mayEnd : Bool} {pieces : List (List Char)} {ns : List Nat}
    (h : readPieces mayEnd pieces = some ns) : ∀ n ∈ ns, n < 0x10000 := by
  fun_induction readPieces mayEnd pieces generalizing ns with
  | case1 =>
    cases h
    exact fun _ hn => absurd hn List.not_mem_nil
  | case2 s hend => exact lt_of_readDotted h
  | case3 s hend =>
    obtain ⟨m, hm, rfl⟩ := Option.map_eq_some_iff.mp h
    intro n hn
    rw [List.mem_singleton.mp hn]
    exact lt_of_readPiece hm
  | case4 s rest hrest ih =>
    obtain ⟨m, hm, h⟩ := Option.bind_eq_some_iff.mp h
    obtain ⟨ms, hms, h⟩ := Option.bind_eq_some_iff.mp h
    cases h
    exact List.forall_mem_cons.mpr ⟨lt_of_readPiece hm, ih hms⟩

theorem lt_of_readPart {mayEnd : Bool} {s : List Char} {ns : List Nat}
    (h : readPart mayEnd s = some ns) :
    ∀ n ∈ ns, n < 0x10000 := by
  rw [readPart] at h
  split at h
  next =>
    cases h
    exact fun _ hn => absurd hn List.not_mem_nil
  next => exact lt_of_readPieces h

/-- An address that has been read has eight pieces of 16 bits. -/
theorem eight_of_readIpv6 {s : List Char} {host : Host} (h : readIpv6 s = .ok host) :
    ∃ ns, (ns.length = 8 ∧ ∀ n ∈ ns, n < 0x10000) ∧ host = .ipv6 ns := by
  rw [readIpv6] at h
  split at h
  next ns hns =>
    cases h
    refine ⟨ns, ?_, rfl⟩
    split at hns
    next =>
      obtain ⟨ms, hms, hns⟩ := Option.bind_eq_some_iff.mp hns
      split at hns
      next hlength =>
        cases hns
        exact ⟨hlength, lt_of_readPart hms⟩
      next => cases hns
    next =>
      obtain ⟨xs, hxs, hns⟩ := Option.bind_eq_some_iff.mp hns
      obtain ⟨ys, hys, hns⟩ := Option.bind_eq_some_iff.mp hns
      split at hns
      next hlength =>
        cases hns
        refine ⟨by simp only [List.length_append, List.length_replicate]; omega, fun n hn => ?_⟩
        rcases List.mem_append.mp hn with hn | hn
        · rcases List.mem_append.mp hn with hn | hn
          · exact lt_of_readPart hxs n hn
          · rw [List.eq_of_mem_replicate hn]
            decide
        · exact lt_of_readPart hys n hn
      next => cases hns
  next => cases h

/-! ### Pieces between colons -/

theorem exists_piecesText_cons (n : Nat) (ns : List Nat) :
    ∃ back, piecesText (n :: ns) = Nat.toDigits 16 n ++ back := by
  cases ns with
  | nil => exact ⟨[], by rw [List.append_nil]; exact List.intercalate_singleton⟩
  | cons m ns =>
    refine ⟨':' :: piecesText (m :: ns), ?_⟩
    rw [piecesText, List.map_cons, List.map_cons, List.intercalate_cons_cons, List.append_assoc]
    rfl

/-- Pieces between colons are found again. -/
theorem splitAtChar_piecesText {ns : List Nat} (hne : ns ≠ []) :
    Text.splitAtChar ':' (piecesText ns) = ns.map (Nat.toDigits 16) := by
  refine Text.splitAtChar_intercalate (by simpa using hne) fun piece hp => ?_
  obtain ⟨n, -, rfl⟩ := List.mem_map.mp hp
  exact not_mem_toDigits (by decide) (by decide) rfl

/-- The pieces of a row are read back. -/
theorem readPieces_toDigits (mayEnd : Bool) {ns : List Nat} (h : ∀ n ∈ ns, n < 0x10000) :
    readPieces mayEnd (ns.map (Nat.toDigits 16)) = some ns := by
  induction ns with
  | nil => rfl
  | cons n ns ih =>
    obtain ⟨hn, hns⟩ := List.forall_mem_cons.mp h
    cases ns with
    | nil =>
      have hdot : (Nat.toDigits 16 n).contains '.' = false := by
        simpa using not_mem_toDigits (by decide) (by decide) rfl
      rw [List.map_cons, List.map_nil, readPieces, hdot, Bool.and_false, readPiece_toDigits hn]
      rfl
    | cons m ns =>
      rw [List.map_cons, List.map_cons, readPieces, ← List.map_cons, ih hns, readPiece_toDigits hn]
      rfl
      exact List.cons_ne_nil _ _

/-- A row of pieces is read back from its text. -/
theorem readPart_piecesText (mayEnd : Bool) {ns : List Nat} (h : ∀ n ∈ ns, n < 0x10000) :
    readPart mayEnd (piecesText ns) = some ns := by
  cases ns with
  | nil => rfl
  | cons n ns =>
    have hne : (piecesText (n :: ns)).isEmpty = false := by
      obtain ⟨back, hback⟩ := exists_piecesText_cons n ns
      rw [hback]
      simp [Nat.toDigits_ne_nil]
    rw [readPart, hne, splitAtChar_piecesText (List.cons_ne_nil _ _)]
    exact readPieces_toDigits mayEnd h

/-- Pieces are written in letters, digits and colons. -/
theorem of_mem_piecesText {ns : List Nat} {c : Char} (hc : c ∈ piecesText ns) :
    c = ':' ∨ c.isAlphanum := by
  rcases Text.mem_of_mem_intercalate hc with hcolon | ⟨piece, hp, hc⟩
  · exact .inl hcolon
  · obtain ⟨n, -, rfl⟩ := List.mem_map.mp hp
    exact .inr (isAlphanum_of_mem_toDigits (by decide) (by decide) hc)

/-- Between pieces there is one colon, also if one more follows. -/
theorem apart_piecesText (ns : List Nat) : Text.Apart ':' (piecesText ns ++ [':']) := by
  have hdigits : ∀ (n : Nat) {t : List Char}, Text.Apart ':' t →
    Text.Apart ':' (Nat.toDigits 16 n ++ t) := by
    intro n t ht
    have hn : ':' ∉ Nat.toDigits 16 n := not_mem_toDigits (by decide) (by decide) rfl
    refine List.IsChain.append (Text.apart_of_not_mem hn) ht fun x hx y _ => .inl ?_
    rintro rfl
    exact hn (List.mem_of_getLast? hx)
  induction ns with
  | nil => exact List.isChain_singleton _
  | cons n ns ih =>
    cases ns with
    | nil =>
      rw [piecesText, List.map_cons, List.map_nil, List.intercalate_singleton]
      exact hdigits n (List.isChain_singleton _)
    | cons m ns =>
      -- A colon is followed by the digits of the next piece.
      have hsplit : piecesText (n :: m :: ns) ++ [':'] =
          Nat.toDigits 16 n ++ (':' :: (piecesText (m :: ns) ++ [':'])) := by
        rw [piecesText, List.map_cons, List.map_cons, List.intercalate_cons_cons]
        simp [piecesText]
      rw [hsplit]
      refine hdigits n (List.isChain_cons.mpr ⟨fun y hy => .inr ?_, ih⟩)
      rintro rfl
      obtain ⟨back, hback⟩ := exists_piecesText_cons m ns
      rw [hback, List.append_assoc, List.head?_append_of_ne_nil _ Nat.toDigits_ne_nil] at hy
      exact not_mem_toDigits (by decide) (by decide) rfl (List.mem_of_mem_head? hy)

/-! ### The longest row of zeros -/

/-- There are as many zeros as are left out. -/
theorem longestZeros_le (ns : List Nat) :
    (longestZeros ns).2 ≤ zerosAhead (ns.drop (longestZeros ns).1) := by
  refine List.foldlRecOn (motive := fun best : Nat × Nat => best.2 ≤ zerosAhead (ns.drop best.1))
    _ _ (Nat.zero_le _) fun best hbest i _ => ?_
  dsimp only
  split
  · exact Nat.le_refl _
  · exact hbest

/-- What is left out is zeros. -/
theorem take_of_le_zerosAhead {ns : List Nat} {k : Nat} (h : k ≤ zerosAhead ns) :
    ns.take k = List.replicate k 0 ∧ k ≤ ns.length := by
  induction ns generalizing k with
  | nil =>
    obtain rfl := Nat.le_zero.mp h
    exact ⟨rfl, Nat.le_refl 0⟩
  | cons n ns ih =>
    cases k with
    | zero => exact ⟨rfl, Nat.zero_le _⟩
    | succ k =>
      rw [zerosAhead, List.takeWhile_cons] at h
      split at h
      next hn =>
        obtain ⟨htake, hlength⟩ := ih (Nat.le_of_succ_le_succ h)
        refine ⟨?_, Nat.succ_le_succ hlength⟩
        rw [List.take_succ_cons, htake, beq_iff_eq.mp hn, List.replicate_succ]
      next => cases h

/-- Eight pieces are read back, with two colons for the longest row of zeros and without. -/
theorem readIpv6_ipv6Text {ns : List Nat} (hlength : ns.length = 8) (h : ∀ n ∈ ns, n < 0x10000) :
    readIpv6 (ipv6Text ns) = .ok (.ipv6 ns) := by
  have hle := longestZeros_le ns
  rw [ipv6Text]
  generalize longestZeros ns = row at hle ⊢
  obtain ⟨start, count⟩ := row
  dsimp only at hle ⊢
  split
  next hcount =>
    have hapart : Text.Apart ':' (piecesText ns) := (apart_piecesText ns).left_of_append
    rw [readIpv6, Text.splitFirst_eq_none_iff.mpr hapart]
    dsimp only
    rw [readPart_piecesText true h, Option.bind_some, if_pos hlength]
  next hcount =>
    obtain ⟨hzeros, hfits⟩ := take_of_le_zerosAhead hle
    rw [List.length_drop, hlength] at hfits
    -- What is left out is a row of zeros, and as many are missing when it is read.
    have hrow : ns.take start ++ List.replicate count 0 ++ ns.drop (start + count) = ns := by
      rw [← hzeros, List.append_assoc, ← List.drop_drop, List.take_append_drop,
        List.take_append_drop]
    have hsplit : Text.splitFirst [':', ':']
        (piecesText (ns.take start) ++ [':', ':'] ++ piecesText (ns.drop (start + count))) =
          some (piecesText (ns.take start), piecesText (ns.drop (start + count))) := by
      rw [List.append_assoc]
      exact Text.splitFirst_of_apart (apart_piecesText _)
    have hfront : readPart false (piecesText (ns.take start)) = some (ns.take start) :=
      readPart_piecesText false fun n hn => h n (List.mem_of_mem_take hn)
    have hback : readPart true (piecesText (ns.drop (start + count))) =
      some (ns.drop (start + count)) :=
      readPart_piecesText true fun n hn => h n (List.mem_of_mem_drop hn)
    have htake : (ns.take start).length = start := by rw [List.length_take, hlength]; omega
    have hdrop : (ns.drop (start + count)).length = 8 - (start + count) := by
      rw [List.length_drop, hlength]
    rw [readIpv6, hsplit]
    dsimp only
    rw [hfront, hback, Option.bind_eq_bind, Option.bind_some, Option.bind_some, htake, hdrop,
      if_pos (by omega), show 8 - start - (8 - (start + count)) = count by omega, hrow]
    rfl

/-! ## Hosts -/

/-- The host is in the form in which it is written. -/
def Normal : Host → Prop
  | .domain name => Name name ∧ endsInNumber name = false
  | .ipv4 n => n < 2 ^ 32
  | .ipv6 ns => ns.length = 8 ∧ ∀ n ∈ ns, n < 0x10000

variable {h : Host}

/-- A host that has been read is in the form in which it is written. -/
theorem normal_of_readSpecial {s : List Char} (hread : readSpecial s = .ok h) : h.Normal := by
  rw [readSpecial.eq_def] at hread
  split at hread
  next rest =>
    rw [readBracketed] at hread
    split at hread
    next =>
      obtain ⟨ns, hns, rfl⟩ := eight_of_readIpv6 hread
      exact hns
    next => cases hread
  next =>
    obtain ⟨name, hname, hread⟩ := Instant.bind_eq_ok hread
    split at hread
    next =>
      obtain ⟨n, hn, rfl⟩ := lt_of_readIpv4 hread
      exact hn
    next hnumber =>
      cases hread
      exact ⟨name_of_readDomain hname, Bool.eq_false_iff.mpr hnumber⟩

/-- A text that is a name is read as one. -/
theorem Name.readSpecial {name : List Char} (hname : Name name) : readSpecial name =
    if endsInNumber name then readIpv4 name else .ok (.domain name) := by
  rw [readSpecial.eq_def]
  split
  next rest => exact absurd (hname.allowed _ List.mem_cons_self) (by decide)
  next =>
    rw [hname.readDomain]
    rfl

/-- Digits and dots may stand in a name. -/
theorem name_ipv4Text (n : Nat) : Name (ipv4Text n).toList := by
  have hdigit : ∀ n < 128, (Char.ofNat n).isDigit →
    (Small (Char.ofNat n) ∧ forbidden (Char.ofNat n) = false) ∧
      Char.ofNat n ≠ 'x' := by
    unfold Small
    decide +kernel
  have hchars : ∀ c ∈ (ipv4Text n).toList, (Small c ∧ forbidden c = false) ∧ c ≠ 'x' := by
    intro c hc
    rw [toList_ipv4Text] at hc
    rcases Text.mem_of_mem_intercalate hc with rfl | ⟨piece, hp, hc⟩
    · exact ⟨⟨⟨by decide, by decide⟩, by decide⟩, by decide⟩
    · obtain ⟨b, -, rfl⟩ := List.mem_map.mp hp
      have hlow : c.toNat < 128 :=
        Text.lt_of_isAlphanum (isAlphanum_of_mem_toDigits (by decide) (by decide) hc)
      exact Text.of_latin (p := fun c => c.isDigit → (Small c ∧ forbidden c = false) ∧ c ≠ 'x')
        hdigit hlow
        (isDigit_of_mem_toDigits hc)
  refine ⟨?_, fun c hc => (hchars c hc).1.1, fun c hc => (hchars c hc).1.2, fun label hlabel => ?_⟩
  · rw [toList_ipv4Text]
    simp [fourBytes, List.intercalate_cons_cons, Nat.toDigits_ne_nil]
  · have hlow : label.all fun c => c.toNat < 128 :=
      List.all_eq_true.mpr fun c hc => decide_eq_true
        (hchars c (Text.mem_of_mem_splitAtChar hlabel hc)).1.1.1
    have hmark : Text.stripFront codedMark label = none := by
      refine Option.eq_none_iff_forall_ne_some.mpr fun rest hrest => ?_
      have hx : 'x' ∈ label := by
        rw [Text.stripFront_eq_some.mp hrest]
        exact List.mem_cons_self
      exact (hchars 'x' (Text.mem_of_mem_splitAtChar hlabel hx)).2 rfl
    rw [codedLabel, if_pos hlow, hmark]

/-- An address of four bytes ends in a number. -/
theorem endsInNumber_ipv4Text (n : Nat) : endsInNumber (ipv4Text n).toList = true := by
  have hdigits : (Nat.toDigits 10 (n % 256)).all Char.isDigit :=
    List.all_eq_true.mpr fun c hc => isDigit_of_mem_toDigits hc
  rw [endsInNumber, labels_ipv4Text]
  show (!(Nat.toDigits 10 (n % 256)).isEmpty && (Nat.toDigits 10 (n % 256)).all Char.isDigit || _) =
    true
  rw [hdigits]
  simp [Nat.toDigits_ne_nil]

/-- The text of a host is read as this host. -/
theorem Normal.readSpecial_text (hh : h.Normal) : readSpecial h.text = .ok h := by
  cases h with
  | domain name =>
    obtain ⟨hname, hnumber⟩ := hh
    show readSpecial name = _
    rw [hname.readSpecial, hnumber]
    rfl
  | ipv4 n =>
    -- The text is a name, and is seen to be an address from its last number.
    show readSpecial (ipv4Text n).toList = _
    rw [(name_ipv4Text n).readSpecial, endsInNumber_ipv4Text, if_pos rfl, readIpv4_ipv4Text hh]
  | ipv6 ns =>
    show readBracketed (ipv6Text ns ++ [']']) = _
    rw [readBracketed, List.getLast?_concat, if_pos rfl, List.dropLast_concat,
      readIpv6_ipv6Text hh.1 hh.2]

/-! ### The characters of a host -/

/-- A character that neither ends an authority nor a user, and is no blank. -/
def Inside (c : Char) : Prop := 32 < c.toNat ∧ c ∉ ['/', '?', '#', '@', '\\']

/-- A name or an address of four bytes is written as a name, and one of eight pieces in brackets. -/
theorem Normal.text_cases (hh : h.Normal) :
    Name h.text ∨ ∃ inner, h.text = '[' :: (inner ++ [']']) ∧ ∀ c ∈ inner, c = ':' ∨
    c.isAlphanum := by
  cases h with
  | domain name => exact .inl hh.1
  | ipv4 n => exact .inl (name_ipv4Text n)
  | ipv6 ns =>
    refine .inr ⟨ipv6Text ns, rfl, fun c hc => ?_⟩
    rw [ipv6Text] at hc
    dsimp only at hc
    split at hc
    · exact of_mem_piecesText hc
    · rcases List.mem_append.mp hc with hc | hc
      · rcases List.mem_append.mp hc with hc | hc
        · exact of_mem_piecesText hc
        · exact .inl (by simpa using hc)
      · exact of_mem_piecesText hc

/-- No host is written as nothing. -/
theorem Normal.text_ne_nil (hh : h.Normal) : h.text ≠ [] := by
  rcases hh.text_cases with hname | ⟨inner, htext, -⟩
  · exact hname.notEmpty
  · rw [htext]
    exact List.cons_ne_nil _ _

theorem inside_of_isAlphanum {c : Char} (h : c.isAlphanum) : Inside c := by
  refine Text.of_latin (p := fun c => c.isAlphanum → Inside c) ?_ (Text.lt_of_isAlphanum h) h
  unfold Inside
  decide +kernel

/-- A character that a name may have is one of those. -/
theorem inside_of_allowed {c : Char} (h : forbidden c = false) : Inside c := by
  have hall : ∀ d ∈ ['/', '?', '#', '@', '\\'], forbidden d = true := by simp [forbidden]
  refine ⟨?_, fun hc => ?_⟩
  · simp only [forbidden, Bool.or_eq_false_iff, decide_eq_false_iff_not, Nat.not_le] at h
    exact h.1.1
  · rw [hall c hc] at h
    cases h

/-- The text of a host has only such characters. -/
theorem Normal.inside (hh : h.Normal) : ∀ c ∈ h.text, Inside c := by
  rcases hh.text_cases with hname | ⟨inner, htext, hinner⟩
  · exact fun c hc => inside_of_allowed (hname.allowed c hc)
  · intro c hc
    rw [htext, List.mem_cons, List.mem_append, List.mem_singleton] at hc
    have hmarks : Inside '[' ∧ Inside ':' ∧ Inside ']' := by
      unfold Inside
      decide
    rcases hc with rfl | hc | rfl
    · exact hmarks.1
    · rcases hinner c hc with rfl | hc
      · exact hmarks.2.1
      · exact inside_of_isAlphanum hc
    · exact hmarks.2.2

end Assay.Host
