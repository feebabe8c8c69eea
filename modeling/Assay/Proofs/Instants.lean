import Assay.Proofs.Calendar

/-
  Instants are read back from their text.

  The text of an instant is put together from numbers of fixed width with marks between them.  Each
  is read back with the rest of the text behind it, and the parts make up the instant again because
  the day of a number has that number.  An instant has to be `Valid` for this: the calendar covers
  its day, and only the last second of a minute can be a leap second.  These are just the instants
  that a text can stand for (`valid_iff_parsed`), so the condition is the weakest one.

  1. Numbers of fixed width.  `padded` numbers are digits and have the width that is asked for, as
     long as they fit.  Reading takes digits off the front up to some number of them; that it takes
     the right ones is either because no more are asked for or because no digit follows
     (`takeWhile_padded`).

  2. The year has a sign if it does not fit into four digits, and is read up to the mark behind it
     (`readYear_yearText`).

  3. The fraction of a second is written with three, six or nine digits, whichever is enough, or
     left out (`readFraction_fractionText`).

  4. The whole text.  `parseChars_text` reads a date and a time from their parts.  A leap second is
     shown as second 60, with its fraction counted anew; so both can be told from what is shown
     (`shown_second`).  The result is `parse_zulu`.

  5. What a text can stand for.  A text that is read has passed every check on the way, and each
     check is opened by one lemma (`of_guard`, `of_sign`, `of_timeMark`, `of_offset`).  An offset is
     in whole minutes (`minutes_of_readOffset`), so it does not move a leap second away from the end
     of its minute, and the instant is valid (`valid_of_parse`).
-/

namespace Assay.Instant

/-- The calendar covers the instant, and a leap second stands at the end of a minute. -/
structure Valid (t : Instant) : Prop where
  covered : yearInRange (Day.ofNumber (t.seconds / 86400)).year = true
  fraction : t.nanos < 1000000000 ∨ t.nanos < 2000000000 ∧ t.seconds % 60 = 59

/-! ## Numbers of fixed width -/

theorem toList_padded (width n : Nat) : (padded width n).toList =
    List.replicate (width - (Nat.toDigits 10 n).length) '0' ++ Nat.toDigits 10 n :=
    String.toList_ofList

/-- A padded number is written in digits. -/
theorem isDigit_padded {width n : Nat} {c : Char} (h : c ∈ (padded width n).toList) :
    isDigit c = true := by
  rw [toList_padded, List.mem_append] at h
  rcases h with h | h
  · rw [List.eq_of_mem_replicate h]
    rfl
  · have hdigit : c.isDigit = true := Nat.isDigit_of_mem_toDigits (by decide) (by decide) h
    simpa [isDigit, Char.isDigit, UInt32.le_iff_toNat_le] using hdigit

/-- Zeros in front do not count. -/
theorem valueOf_padded (width n : Nat) : valueOf (padded width n).toList = n := by
  have hfold : ∀ (ds : List Char) (start : Nat),
      ds.foldl (fun n d => n * 10 + (d.toNat - 48)) start = Nat.ofDigitChars 10 ds start := by
    intro ds start
    rw [Nat.ofDigitChars_eq_foldl]
    simp only [Nat.mul_comm 10]
    rfl
  rw [valueOf, hfold, toList_padded, Nat.ofDigitChars_append, Nat.ofDigitChars_replicate_zero,
    Nat.mul_zero]
  exact Nat.ofDigitChars_ten_toDigits

/-- A number that fits has the width that is asked for. -/
theorem length_padded {width n : Nat} (hwidth : 0 < width) (h : n < Nat.pow 10 width) :
    (padded width n).toList.length = width := by
  have hdigits : (Nat.toDigits 10 n).length ≤ width :=
    (Nat.length_toDigits_le_iff (by decide) hwidth).mpr h
  rw [toList_padded, List.length_append, List.length_replicate]
  omega

/-- A padded number starts with a digit. -/
theorem padded_head (width n : Nat) :
    ∃ d ds, (padded width n).toList = d :: ds ∧ isDigit d = true := by
  cases hds : (padded width n).toList with
  | nil =>
    rw [toList_padded, List.append_eq_nil_iff] at hds
    exact absurd hds.2 Nat.toDigits_ne_nil
  | cons d ds => exact ⟨d, ds, rfl, isDigit_padded (hds ▸ List.mem_cons_self)⟩

/-- A digit is not blank. -/
theorem isBlank_of_isDigit {c : Char} (h : isDigit c = true) : Text.isBlank c = false := by
  simp only [isDigit, Bool.and_eq_true, decide_eq_true_eq] at h
  simp only [Text.isBlank, Bool.or_eq_false_iff, Bool.and_eq_false_iff, decide_eq_false_iff_not,
    beq_eq_false_iff_ne]
  omega

theorem trimLeft_of_head {c : Char} {rest : List Char} (h : Text.isBlank c = false) :
    Text.trimLeft (c :: rest) = c :: rest :=
    List.dropWhile_cons_of_neg (by rw [h]; exact Bool.false_ne_true)

/-- There is no blank in front of a number. -/
theorem trimLeft_padded (width n : Nat) (rest : List Char) :
    Text.trimLeft ((padded width n).toList ++ rest) = (padded width n).toList ++ rest := by
  obtain ⟨d, ds, hds, hdigit⟩ := padded_head width n
  rw [hds]
  exact trimLeft_of_head (isBlank_of_isDigit hdigit)

/-- The digits of a number are taken off the front, either because no more are asked for or because
none follow. -/
theorem takeWhile_padded {width most n : Nat} (rest : List Char)
    (hmost : (padded width n).toList.length ≤ most)
    (hrest : (padded width n).toList.length = most ∨ ∀ c ∈ rest.head?, isDigit c = false) :
    (((padded width n).toList ++ rest).take most).takeWhile isDigit = (padded width n).toList := by
  rw [List.take_append, List.take_of_length_le hmost,
    List.takeWhile_append_of_pos fun c hc => isDigit_padded hc]
  have hnone : (rest.take (most - (padded width n).toList.length)).takeWhile isDigit = [] := by
    rcases hrest with hfull | hstop
    · rw [hfull, Nat.sub_self, List.take_zero]
      rfl
    · cases rest with
      | nil => rw [List.take_nil]; rfl
      | cons c rest =>
        cases most - (padded width n).toList.length with
        | zero => rfl
        | succ k =>
          rw [List.take_succ_cons, List.takeWhile_cons_of_neg]
          rw [hstop c rfl]
          exact Bool.false_ne_true
  rw [hnone, List.append_nil]

/-- A padded number is read back, with the rest of the text behind it. -/
theorem readNumber_padded {width most n : Nat} (rest : List Char) (hn : n < 0x8000000000000000)
    (hmost : (padded width n).toList.length ≤ most)
    (hrest : (padded width n).toList.length = most ∨ ∀ c ∈ rest.head?, isDigit c = false) :
    readNumber most ((padded width n).toList ++ rest) = .ok (n, rest) := by
  have hsome : ((padded width n).toList ++ rest).isEmpty = false ∧
    (padded width n).toList.isEmpty = false := by
    obtain ⟨d, ds, hds, -⟩ := padded_head width n
    rw [hds]
    exact ⟨rfl, rfl⟩
  unfold readNumber
  dsimp only
  rw [trimLeft_padded, takeWhile_padded rest hmost hrest, hsome.1, hsome.2,
    if_neg Bool.false_ne_true, if_neg Bool.false_ne_true, valueOf_padded,
    if_neg (Nat.not_le.mpr hn), List.drop_left]

/-- A number of two digits within bounds is read back. -/
theorem readField_padded {lo hi n : Nat} (h : lo ≤ n ∧ n ≤ hi) (hhi : hi < 100) (rest : List Char) :
    readField lo hi ((padded 2 n).toList ++ rest) = .ok (n, rest) := by
  have hlength : (padded 2 n).toList.length = 2 :=
    length_padded (by decide) (Nat.lt_of_le_of_lt h.2 hhi)
  have hbounds : (decide (lo ≤ n) && decide (n ≤ hi)) = true := by
    rw [decide_eq_true h.1, decide_eq_true h.2]
    rfl
  rw [readField, readNumber_padded rest (by omega) (Nat.le_of_eq hlength) (.inl hlength)]
  exact if_pos hbounds

/-- A mark is read where it stands. -/
theorem readMark_self {mark : Char} (h : Text.isBlank mark = false) (rest : List Char) :
    readMark mark (mark :: rest) = .ok rest := by
  rw [readMark, trimLeft_of_head h]
  exact if_pos rfl

/-! ## The year -/

theorem hyphen_not_digit : ∀ {rest : List Char}, ∀ c ∈ ('-' :: rest).head?, isDigit c = false := by
  intro rest c hc
  cases hc
  rfl

/-- A year that fits a word is not refused. -/
theorem bind_of_word {x : Except ParseError (Int × List Char)} {y : Int} {rest : List Char}
    (hx : x = .ok (y, rest)) (hy : yearInRange y = true) :
    (x >>= fun r => if (decide (-0x80000000 ≤ r.1) && decide (r.1 < 0x80000000)) = true
      then pure (r.1, r.2) else .error .outOfRange) = .ok (y, rest) := by
  have hword : (decide (-0x80000000 ≤ y) && decide (y < 0x80000000)) = true := by
    rw [yearInRange, Bool.and_eq_true, decide_eq_true_eq, decide_eq_true_eq] at hy
    rw [Bool.and_eq_true, decide_eq_true_eq, decide_eq_true_eq]
    omega
  rw [hx]
  exact if_pos hword

/-- A year of the calendar is read back, up to the mark behind it. -/
theorem readYear_yearText {y : Int} (h : yearInRange y = true) (rest : List Char) :
    readYear ((yearText y).toList ++ '-' :: rest) = .ok (y, '-' :: rest) := by
  have hrange := h
  rw [yearInRange, Bool.and_eq_true, decide_eq_true_eq, decide_eq_true_eq] at hrange
  by_cases hplain : 0 ≤ y ∧ y ≤ 9999
  · have htext : yearText y = padded 4 y.toNat := if_pos (by simpa using hplain)
    have hlength : (padded 4 y.toNat).toList.length = 4 :=
      length_padded (by decide) (by show y.toNat < 10000; omega)
    have hnumber := readNumber_padded ('-' :: rest) (by omega) (Nat.le_of_eq hlength) (.inl hlength)
    have hy : (y.toNat : Int) = y := Int.toNat_of_nonneg hplain.1
    obtain ⟨d, ds, hds, hdigit⟩ := padded_head 4 y.toNat
    unfold readYear
    dsimp only
    rw [htext, trimLeft_padded, hnumber, hds, List.cons_append]
    split
    · next heq => exact absurd ((List.cons.inj heq).1 ▸ hdigit) (by decide)
    · next heq => exact absurd ((List.cons.inj heq).1 ▸ hdigit) (by decide)
    · rw [← bind_assoc]
      refine bind_of_word ?_ h
      show Except.ok ((y.toNat : Int), '-' :: rest) = _
      rw [hy]
  · -- The digits end at the mark, however many there are.
    have hnumber : readNumber ((padded 4 y.natAbs).toList ++ '-' :: rest).length
        ((padded 4 y.natAbs).toList ++ '-' :: rest) = .ok (y.natAbs, '-' :: rest) :=
      readNumber_padded _ (by omega) (by rw [List.length_append]; omega) (.inr hyphen_not_digit)
    have hnoblank : ((padded 4 y.natAbs).toList ++ '-' :: rest).head?.any Text.isBlank = false := by
      obtain ⟨d, ds, hds, hdigit⟩ := padded_head 4 y.natAbs
      rw [hds]
      exact isBlank_of_isDigit hdigit
    have htext : yearText y = (if y < 0 then "-" else "+") ++ padded 4 y.natAbs :=
      if_neg (by simpa using hplain)
    rw [htext, String.toList_append]
    by_cases hneg : y < 0
    · have hy : -1 * (y.natAbs : Int) = y := by omega
      rw [if_pos hneg]
      show readYear ('-' :: ((padded 4 y.natAbs).toList ++ '-' :: rest)) = _
      unfold readYear
      dsimp only
      rw [trimLeft_of_head (by decide)]
      split
      · next heq =>
        cases heq
        rw [hnoblank, hnumber, if_neg Bool.false_ne_true]
        refine bind_of_word ?_ h
        show Except.ok (-1 * (y.natAbs : Int), '-' :: rest) = _
        rw [hy]
      · next heq => exact absurd (List.cons.inj heq).1 (by decide)
      · next hother _ => exact absurd rfl (hother _)
    · have hy : 1 * (y.natAbs : Int) = y := by omega
      rw [if_neg hneg]
      show readYear ('+' :: ((padded 4 y.natAbs).toList ++ '-' :: rest)) = _
      unfold readYear
      dsimp only
      rw [trimLeft_of_head (by decide)]
      split
      · next heq => exact absurd (List.cons.inj heq).1 (by decide)
      · next heq =>
        cases heq
        rw [hnoblank, hnumber, if_neg Bool.false_ne_true]
        refine bind_of_word ?_ h
        show Except.ok (1 * (y.natAbs : Int), '-' :: rest) = _
        rw [hy]
      · next hother => exact absurd rfl (hother _)

/-! ## The fraction of a second -/

/-- Digits behind a point are read as that part of a second. -/
theorem readFraction_padded {width n : Nat} (hwidth : 0 < width ∧ width ≤ 9)
    (hn : n < Nat.pow 10 width) :
    readFraction ('.' :: ((padded width n).toList ++ ['Z'])) =
      .ok (n * Nat.pow 10 (9 - width), ['Z']) := by
  have hlength : (padded width n).toList.length = width := length_padded hwidth.1 hn
  have hstop : ∀ c ∈ ['Z'].head?, isDigit c = false := by
    intro c hc
    cases hc
    rfl
  have htaken := takeWhile_padded ['Z'] (by omega : (padded width n).toList.length ≤ 9) (.inr hstop)
  have hdropped : ((padded width n).toList ++ ['Z']).dropWhile isDigit = ['Z'] := by
    rw [List.dropWhile_append_of_pos fun c hc => isDigit_padded hc]
    rfl
  have hsome : ((padded width n).toList ++ ['Z']).isEmpty = false ∧
    (padded width n).toList.isEmpty = false := by
    obtain ⟨d, ds, hds, -⟩ := padded_head width n
    rw [hds]
    exact ⟨rfl, rfl⟩
  rw [readFraction, htaken, hsome.1, hsome.2, if_neg Bool.false_ne_true, if_neg Bool.false_ne_true,
    valueOf_padded, hlength, hdropped]

/-- A fraction of a second is read back. -/
theorem readFraction_fractionText {nanos : Nat} (h : nanos < 1000000000) :
    readFraction ((fractionText nanos).toList ++ ['Z']) = .ok (nanos, ['Z']) := by
  have hpoint : ∀ width n, ("." ++ padded width n).toList = '.' :: (padded width n).toList :=
    fun _ _ => String.toList_append
  unfold fractionText
  split
  · next hzero =>
    rw [hzero]
    rfl
  split
  · next hmillis =>
    rw [hpoint, List.cons_append,
      readFraction_padded (by decide) (by show nanos / 1000000 < 1000; omega)]
    show Except.ok (nanos / 1000000 * 1000000, ['Z']) = _
    rw [Nat.div_mul_cancel (Nat.dvd_of_mod_eq_zero hmillis)]
  split
  · next hmicros =>
    rw [hpoint, List.cons_append,
      readFraction_padded (by decide) (by show nanos / 1000 < 1000000; omega)]
    show Except.ok (nanos / 1000 * 1000, ['Z']) = _
    rw [Nat.div_mul_cancel (Nat.dvd_of_mod_eq_zero hmicros)]
  · rw [hpoint, List.cons_append, readFraction_padded (by decide) h]
    show Except.ok (nanos * 1, ['Z']) = _
    rw [Nat.mul_one]

/-! ## The whole text -/

/-- The parts of the text of an instant. -/
theorem toList_text (year : Int) (month day hour minute second : Nat) (fraction : String) :
    (yearText year ++ "-" ++ padded 2 month ++ "-" ++ padded 2 day ++ "T" ++ padded 2 hour ++ ":" ++
      padded 2 minute ++ ":" ++ padded 2 second ++ fraction ++ "Z").toList =
    (yearText year).toList ++ '-' :: ((padded 2 month).toList ++ '-' :: ((padded 2 day).toList ++
      'T' :: ((padded 2 hour).toList ++ ':' :: ((padded 2 minute).toList ++ ':' ::
        ((padded 2 second).toList ++ (fraction.toList ++ ['Z'])))))) := by
  simp only [String.toList_append, List.append_assoc]
  rfl

/-- No month has more than 31 days. -/
theorem daysInMonth_le (year : Int) (month : Nat) : daysInMonth year month ≤ 31 := by
  unfold daysInMonth
  split
  · split <;> decide
  · split <;> decide

/-- A date and time is read from its parts. -/
theorem parseChars_text {year : Int} {month day hour minute second fraction : Nat}
    (hyear : yearInRange year = true) (hmonth : 1 ≤ month ∧ month ≤ 12)
    (hday : 1 ≤ day ∧ day ≤ daysInMonth year month) (hhour : hour ≤ 23) (hminute : minute ≤ 59)
    (hsecond : second ≤ 60) (hfraction : fraction < 1000000000) (seconds : Int)
    (hseconds : seconds = (Day.mk year month day).number * 86400 +
      (hour * 3600 + minute * 60 + min second 59 : Nat))
    (hcovered : yearInRange (Day.ofNumber (seconds / 86400)).year = true) :
    parseChars
      ((yearText year).toList ++ '-' :: ((padded 2 month).toList ++ '-' :: ((padded 2 day).toList ++
      'T' :: ((padded 2 hour).toList ++ ':' :: ((padded 2 minute).toList ++ ':' ::
        ((padded 2 second).toList ++ ((fractionText fraction).toList ++ ['Z'])))))))  =
      .ok ⟨seconds, if second = 60 then fraction + 1000000000 else fraction⟩ := by
  have hday31 : day ≤ 31 := Nat.le_trans hday.2 (daysInMonth_le year month)
  unfold parseChars
  rw [readYear_yearText hyear]
  dsimp only [bind, Except.bind]
  rw [readMark_self (by decide)]
  dsimp only
  rw [readField_padded hmonth (by decide)]
  dsimp only
  rw [readMark_self (by decide)]
  dsimp only
  rw [readField_padded ⟨hday.1, hday31⟩ (by decide)]
  dsimp only [pure, Except.pure]
  split
  · next heq =>
    cases heq
    rw [readField_padded ⟨Nat.zero_le _, hhour⟩ (by decide)]
    dsimp only
    rw [readMark_self (by decide)]
    dsimp only
    rw [readField_padded ⟨Nat.zero_le _, hminute⟩ (by decide)]
    dsimp only
    rw [readMark_self (by decide)]
    dsimp only
    rw [readField_padded ⟨Nat.zero_le _, hsecond⟩ (by decide)]
    dsimp only
    rw [readFraction_fractionText hfraction]
    dsimp only
    have hzone : Text.trimLeft ['Z'] = ['Z'] := trimLeft_of_head (by decide)
    have hutc : ¬ startsWithUtc ['Z'] = true := by decide
    have hoffset : readOffset ['Z'] = .ok (0, []) := rfl
    have hend : ¬ (!(Text.trimLeft []).isEmpty) = true := by decide
    have hdate : ¬ (!yearInRange year || decide (daysInMonth year month < day)) = true := by
      rw [hyear, decide_eq_false (Nat.not_lt.mpr hday.2)]
      decide
    have hnear : ¬ (decide ((0 : Int) ≤ -86400) || decide ((86400 : Int) ≤ 0)) = true := by decide
    rw [hzone, if_neg hutc, hoffset]
    dsimp only
    rw [if_neg hend, if_neg hdate, if_neg hnear, Int.sub_zero, ← hseconds, if_pos hcovered]
  · next heq => exact absurd (List.cons.inj heq).1 (by decide)
  · next heq => exact absurd (List.cons.inj heq).1 (by decide)
  · next heq => cases heq
  · next hother _ _ heq => exact (hother (List.cons.inj heq).1.symm).elim

/-- A leap second is shown as second 60, and its fraction starts anew; so both can be told from what
is shown. -/
theorem shown_second {t : Instant} (h : t.Valid) {s second fraction : Nat}
    (hs : s = (t.seconds % 86400).toNat)
    (hsecond : second = s % 60 + (if decide (1000000000 ≤ t.nanos) = true then 1 else 0))
    (hfraction : fraction =
      if decide (1000000000 ≤ t.nanos) = true then t.nanos - 1000000000 else t.nanos) :
    second ≤ 60 ∧ min second 59 = s % 60 ∧ fraction < 1000000000 ∧
      (if second = 60 then fraction + 1000000000 else fraction) = t.nanos := by
  have hnanos := h.fraction
  by_cases hleap : 1000000000 ≤ t.nanos
  · have hlast : s % 60 = 59 := by omega
    rw [decide_eq_true hleap, if_pos rfl] at hsecond hfraction
    rw [if_pos (by omega)]
    omega
  · rw [decide_eq_false hleap, if_neg Bool.false_ne_true] at hsecond hfraction
    rw [if_neg (by omega)]
    omega

/-- An instant is read back from its text in a report. -/
theorem parse_zulu {t : Instant} (h : t.Valid) : parse t.zulu = .ok t := by
  obtain ⟨days, hdays⟩ : ∃ days, days = t.seconds / 86400 := ⟨_, rfl⟩
  obtain ⟨s, hs⟩ : ∃ s, s = (t.seconds % 86400).toNat := ⟨_, rfl⟩
  obtain ⟨second, hsecond⟩ :
      ∃ second, second = s % 60 + (if decide (1000000000 ≤ t.nanos) = true then 1 else 0) :=
      ⟨_, rfl⟩
  obtain ⟨fraction, hfraction⟩ : ∃ fraction, fraction =
      if decide (1000000000 ≤ t.nanos) = true then t.nanos - 1000000000 else t.nanos := ⟨_, rfl⟩
  obtain ⟨hsixty, hmin, hsmall, hnanos⟩ := shown_second h hs hsecond hfraction
  have hcovered := h.covered
  rw [← hdays] at hcovered
  have hseconds : t.seconds = (Day.ofNumber days).number * 86400 +
      (s / 3600 * 3600 + s / 60 % 60 * 60 + min second 59 : Nat) := by
    rw [number_ofNumber, hmin]
    omega
  have hparsed := parseChars_text hcovered (month_ofNumber days) (day_ofNumber days)
    (by omega : s / 3600 ≤ 23) (by omega : s / 60 % 60 ≤ 59) hsixty hsmall t.seconds hseconds
    (hdays ▸ hcovered)
  rw [hnanos] at hparsed
  rw [parse, zulu, text, toList_text, ← hdays, ← hs, ← hsecond, ← hfraction]
  exact hparsed

/-! ## What a text can stand for

The reader goes on behind each choice it makes; what holds of the instant is carried behind the
choice. -/

/-- Of two actions that succeed together, the first succeeds, and then the second. -/
theorem bind_eq_ok {ε α β : Type} {x : Except ε α} {f : α → Except ε β} {b : β}
    (h : x >>= f = .ok b) :
    ∃ a, x = .ok a ∧ f a = .ok b := by
  cases x with
  | error e => cases h
  | ok a => exact ⟨a, rfl, h⟩

/-- So many digits stand for less than the power of ten. -/
theorem valueOf_lt {ds : List Char} (h : ∀ c ∈ ds, isDigit c = true) :
    valueOf ds < Nat.pow 10 ds.length := by
  have hfold : ∀ start, ds.foldl (fun n d => n * 10 + (d.toNat - 48)) start <
    (start + 1) * Nat.pow 10 ds.length := by
    induction ds with
    | nil => intro start; simp
    | cons d ds ih =>
      intro start
      have hd : d.toNat - 48 ≤ 9 := by
        have := h d List.mem_cons_self
        simp only [isDigit, Bool.and_eq_true, decide_eq_true_eq] at this
        omega
      calc (d :: ds).foldl (fun n d => n * 10 + (d.toNat - 48)) start
          < (start * 10 + (d.toNat - 48) + 1) * Nat.pow 10 ds.length :=
            ih (fun c hc => h c (List.mem_cons_of_mem d hc)) _
        _ ≤ ((start + 1) * 10) * Nat.pow 10 ds.length := Nat.mul_le_mul_right _ (by omega)
        _ = (start + 1) * Nat.pow 10 (d :: ds).length := by
          show _ = (start + 1) * (Nat.pow 10 ds.length * 10)
          rw [Nat.mul_assoc, Nat.mul_comm 10]
  simpa [valueOf] using hfold 0

/-- A fraction that has been read is less than a second. -/
theorem lt_of_readFraction {s rest : List Char} {n : Nat} (h : readFraction s = .ok (n, rest)) :
    n < 1000000000 := by
  unfold readFraction at h
  split at h
  · next s =>
    dsimp only at h
    split at h
    · cases h
    split at h
    · cases h
    cases h
    obtain ⟨ds, hds⟩ : ∃ ds, ds = (s.take 9).takeWhile isDigit := ⟨_, rfl⟩
    have hlength : ds.length ≤ 9 := by
      rw [hds]
      exact Nat.le_trans (List.takeWhile_prefix isDigit).length_le (List.length_take_le 9 s)
    have hdigits : ∀ c ∈ ds, isDigit c = true := List.all_eq_true.mp (hds ▸ List.all_takeWhile)
    rw [← hds]
    calc valueOf ds * Nat.pow 10 (9 - ds.length)
        < Nat.pow 10 ds.length * Nat.pow 10 (9 - ds.length) :=
          Nat.mul_lt_mul_of_pos_right (valueOf_lt hdigits) (Nat.pow_pos (by decide))
      _ = Nat.pow 10 (ds.length + (9 - ds.length)) := (Nat.pow_add 10 _ _).symm
      _ = Nat.pow 10 9 := by rw [Nat.add_sub_cancel' hlength]
  · cases h
    decide

/-- The digits of an offset are read on behind its sign. -/
theorem of_sign {p q : Prop} [Decidable p] [Decidable q] {e : ParseError} {α : Type}
    {next : Bool → Except ParseError α} {a : α}
    (h : (if p then pure false >>= next else if q then pure true >>= next else .error e >>= next) =
      .ok a) :
    ∃ negative, next negative = .ok a := by
  split at h
  · exact ⟨false, h⟩
  split at h
  · exact ⟨true, h⟩
  · cases h

/-- An offset that has been read is in whole minutes. -/
theorem minutes_of_readOffset {s rest : List Char} {offset : Int}
    (h : readOffset s = .ok (offset, rest)) :
    offset % 60 = 0 := by
  unfold readOffset at h
  split at h
  · cases h; rfl
  · cases h; rfl
  · cases h
  · obtain ⟨negative, h⟩ := of_sign h
    obtain ⟨⟨h1, h2⟩, -, h⟩ := bind_eq_ok h
    obtain ⟨⟨m1, m2⟩, -, h⟩ := bind_eq_ok h
    dsimp only at h
    split at h
    · cases h
    · cases h
      split <;> omega

section
variable {t : Instant} {s : List Char}

/-- The time of day is read on behind its mark, whichever it is. -/
theorem of_timeMark {next : List Char → Except ParseError Instant}
    (h : (match s with
      | 'T' :: rest => pure rest >>= next
      | 't' :: rest => pure rest >>= next
      | ' ' :: rest => pure rest >>= next
      | [] => .error .tooShort >>= next
      | _ :: _ => .error .invalid >>= next) = .ok t) : ∃ rest, next rest = .ok t := by
  split at h
  · exact ⟨_, h⟩
  · exact ⟨_, h⟩
  · exact ⟨_, h⟩
  · cases h
  · cases h

/-- The end of the text is read on behind an offset in whole minutes. -/
theorem of_offset {next : Int × List Char → Except ParseError Instant}
    (h : (if startsWithUtc s = true then pure (0, s.drop 3) >>= next else readOffset s >>= next) =
      .ok t) :
    ∃ offset rest, offset % 60 = 0 ∧ next (offset, rest) = .ok t := by
  split at h
  · exact ⟨0, _, rfl, h⟩
  · obtain ⟨⟨offset, rest⟩, hoffset, h⟩ := bind_eq_ok h
    exact ⟨offset, rest, minutes_of_readOffset hoffset, h⟩

/-- A text that passes a check is read on. -/
theorem of_guard {p : Prop} [Decidable p] {e : ParseError} {next : Unit → Except ParseError Instant}
    (h : (if p then .error e >>= next else next ()) = .ok t) : next () = .ok t := by
  split at h
  · cases h
  · exact h

end

/-- The instant of a text is valid. -/
theorem valid_of_parse {s : String} {t : Instant} (h : parse s = .ok t) : t.Valid := by
  unfold parse parseChars at h
  obtain ⟨⟨year, s1⟩, -, h⟩ := bind_eq_ok h
  obtain ⟨s2, -, h⟩ := bind_eq_ok h
  obtain ⟨⟨month, s3⟩, -, h⟩ := bind_eq_ok h
  obtain ⟨s4, -, h⟩ := bind_eq_ok h
  obtain ⟨⟨day, s5⟩, -, h⟩ := bind_eq_ok h
  obtain ⟨s6, h⟩ := of_timeMark h
  obtain ⟨⟨hour, s7⟩, -, h⟩ := bind_eq_ok h
  obtain ⟨s8, -, h⟩ := bind_eq_ok h
  obtain ⟨⟨minute, s9⟩, -, h⟩ := bind_eq_ok h
  obtain ⟨s10, -, h⟩ := bind_eq_ok h
  obtain ⟨⟨second, s11⟩, -, h⟩ := bind_eq_ok h
  obtain ⟨⟨fraction, s12⟩, hfraction, h⟩ := bind_eq_ok h
  obtain ⟨offset, s13, hoffset, h⟩ := of_offset h
  have h := of_guard (of_guard (of_guard h))
  dsimp only at h
  have hsmall := lt_of_readFraction hfraction
  split at h
  · next hcovered =>
    cases h
    refine ⟨hcovered, ?_⟩
    show (if second = 60 then fraction + 1000000000 else fraction) < 1000000000 ∨ _
    by_cases hleap : second = 60
    · rw [if_pos hleap]
      right
      dsimp only
      omega
    · rw [if_neg hleap]
      exact .inl hsmall
  · cases h

/-- The valid instants are those that some text stands for. -/
theorem valid_iff_parsed {t : Instant} : t.Valid ↔ ∃ s, parse s = .ok t :=
  ⟨fun h => ⟨t.zulu, parse_zulu h⟩, fun ⟨_, h⟩ => valid_of_parse h⟩

end Assay.Instant
