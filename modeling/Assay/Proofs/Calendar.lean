import Assay.Time.Instant

/-
  Days and their numbers.

  A day is a year, a month and a day of the month; its number counts the days since the first one of
  1970.  Both directions are computed by the usual arithmetic: days are counted in eras of 400
  years, which all have the same number of days, and the years of an era from March on, so that the
  day a leap year adds is the last one of its year.  Here the two directions are proved to fit, and
  the day of a number is proved to be a day of its month.

  The only step that is not plain arithmetic is the number of whole years before a day of the era.
  It is found by a division by 365, once the leap days before the day have been taken out
  (`Instant.counted`).  That this is the right number could be checked for all 146097 days.  Instead
  it is checked at the first and the last day of each of the 400 years (`le_counted_yearStart`,
  `counted_yearStart_lt`, two tables that are decided), and it holds in between because the count
  never decreases (`counted_mono`).  `year_of_day` is the outcome.

  From there on, `ofNumber_spec` takes the computation of a day apart into era, year, day of the
  year and month, with the bounds of each.  The three results follow from it by linear arithmetic:

  * the day of a number has this number (`number_ofNumber`);
  * its month is one of twelve (`month_ofNumber`);
  * it is a day of its month (`day_ofNumber`), for which the 366th day of a year has to be one of a
    leap year.
-/

namespace Assay.Instant

/-! ## Years of an era -/

/-- The number of a day of an era with the leap days before it taken out. -/
def counted (day : Int) : Int := day - day / 1460 + day / 36524 - day / 146096

/-- The number of days of an era before a year of it. -/
def yearStart (year : Int) : Int := 365 * year + year / 4 - year / 100

/-- The count never decreases. -/
theorem counted_mono {a b : Int} (h : a ≤ b) : counted a ≤ counted b := by
  have hfour : b / 1460 - a / 1460 ≤ b - a := by omega
  have hcenturies : a / 36524 - a / 146096 ≤ b / 36524 - b / 146096 := by
    have ha : a / 146096 = a / 36524 / 4 := by omega
    have hb : b / 146096 = b / 36524 / 4 := by omega
    omega
  unfold counted
  omega

/-- A year has 365 days, or 366 if the next one is a multiple of four and not of a hundred. -/
theorem yearStart_succ (year : Int) : yearStart (year + 1) ≤ yearStart year + 366 ∧
    (yearStart year + 366 ≤ yearStart (year + 1) → (year + 1) % 4 = 0 ∧ (year + 1) % 100 ≠ 0) := by
  have hfour : (year + 1) / 4 = year / 4 + 1 ∧ (year + 1) % 4 = 0 ∨
    (year + 1) / 4 = year / 4 := by omega
  have hhundred : (year + 1) / 100 = year / 100 ∧ (year + 1) % 100 ≠ 0 ∨
      (year + 1) / 100 = year / 100 + 1 := by omega
  unfold yearStart
  omega

/-- The first day of a year counts at least 365 days for each year before. -/
theorem le_counted_yearStart : ∀ year :
    Nat, year < 400 → 365 * (year : Int) ≤ counted (yearStart year) := by
  decide +kernel

/-- The last day of the year before counts less. -/
theorem counted_yearStart_lt : ∀ year : Nat, year < 399 →
    counted (yearStart (year + 1) - 1) < 365 * (year + 1 : Int) := by
  decide +kernel

/-- The year of a day of an era, by a division. -/
theorem year_of_day {day year : Int} (hday : 0 ≤ day ∧ day < 146097)
    (hyear : year = counted day / 365) :
    (0 ≤ year ∧ year < 400) ∧ yearStart year ≤ day ∧ (year < 399 → day < yearStart (year + 1)) := by
  have hrange : 0 ≤ year ∧ year < 400 := by
    unfold counted at hyear
    omega
  obtain ⟨n, hn⟩ : ∃ n : Nat, year = n := ⟨year.toNat, by omega⟩
  refine ⟨hrange, ?_, ?_⟩
  · refine Int.not_lt.mp fun hbefore => ?_
    cases n with
    | zero =>
      have hzero : yearStart 0 = 0 := rfl
      rw [hn] at hbefore
      change day < yearStart 0 at hbefore
      omega
    | succ n =>
      have hlast := counted_yearStart_lt n (by omega)
      rw [hn] at hbefore
      have hmono : counted day ≤ counted (yearStart (n + 1) - 1) :=
        counted_mono (Int.le_sub_one_of_lt hbefore)
      omega
  · intro hsmall
    refine Int.not_le.mp fun hafter => ?_
    have hfirst := le_counted_yearStart (n + 1) (by omega)
    have hmono : counted (yearStart (year + 1)) ≤ counted day := counted_mono hafter
    rw [hn] at hmono
    have hcast : ((n + 1 : Nat) : Int) = n + 1 := rfl
    rw [hcast] at hfirst
    omega

/-! ## The day of a number -/

/-- The parts of the day of a number: the era, the year of the era, the day of the year and the
month, all counted from March on.  A 366th day is the last one of February in a leap year. -/
theorem ofNumber_spec (n : Int) : ∃ era year dayOfYear month : Int,
    n + 719468 = era * 146097 + yearStart year + dayOfYear ∧
    (0 ≤ year ∧ year < 400) ∧ (0 ≤ dayOfYear ∧ dayOfYear ≤ 365) ∧
    (dayOfYear = 365 → isLeapYear (year + 1 + era * 400) = true) ∧
    month = (5 * dayOfYear + 2) / 153 ∧
    Day.ofNumber n = ⟨year + era * 400 + (if month < 10 then 0 else 1),
      (if month < 10 then month + 3 else month - 9).toNat,
      (dayOfYear - (153 * month + 2) / 5 + 1).toNat⟩ := by
  obtain ⟨era, hera⟩ : ∃ era, era = (n + 719468) / 146097 := ⟨_, rfl⟩
  obtain ⟨day, hday⟩ : ∃ day, day = n + 719468 - era * 146097 := ⟨_, rfl⟩
  obtain ⟨year, hyear⟩ : ∃ year, year = counted day / 365 := ⟨_, rfl⟩
  obtain ⟨dayOfYear, hdayOfYear⟩ : ∃ dayOfYear, dayOfYear = day - yearStart year := ⟨_, rfl⟩
  obtain ⟨month, hmonth⟩ : ∃ month, month = (5 * dayOfYear + 2) / 153 := ⟨_, rfl⟩
  have hrange : 0 ≤ day ∧ day < 146097 := by omega
  obtain ⟨hyears, hstart, hend⟩ := year_of_day hrange hyear
  obtain ⟨hlong, hleap⟩ := yearStart_succ year
  have hlength : dayOfYear ≤ 365 := by
    rcases Int.lt_or_le year 399 with hsmall | hlarge
    · have hbefore := hend hsmall
      omega
    · have hlast : year = 399 := by omega
      have hstart : yearStart 399 = 145731 := by decide
      rw [hlast, hstart] at hdayOfYear
      omega
  refine ⟨era, year, dayOfYear, month, by omega, hyears, ⟨by omega, hlength⟩, ?_, hmonth, ?_⟩
  · intro hlast
    have hrule : (year + 1 + era * 400) % 4 = 0 ∧
        ((year + 1 + era * 400) % 100 ≠ 0 ∨ (year + 1 + era * 400) % 400 = 0) := by
      rcases Int.lt_or_le year 399 with hsmall | hlarge
      · have hbefore := hend hsmall
        have hnext := hleap (by omega)
        omega
      · omega
    simpa [isLeapYear] using hrule
  · have hsecond : dayOfYear = day - (365 * year + year / 4 - year / 100) := hdayOfYear
    have hyear' : year = (day - day / 1460 + day / 36524 - day / 146096) / 365 := hyear
    unfold Day.ofNumber
    dsimp only
    rw [← hera, ← hday, ← hyear', ← hsecond, ← hmonth]
    have hmarch : (if (if month < 10 then month + 3 else month - 9) ≤ 2 then (1 : Int) else 0) =
        if month < 10 then 0 else 1 := by
      by_cases hten : month < 10
      · rw [if_pos hten, if_pos hten, if_neg (by omega)]
      · rw [if_neg hten, if_neg hten, if_pos (by omega)]
    rw [hmarch]

/-- The day of a number has this number. -/
theorem number_ofNumber (n : Int) : (Day.ofNumber n).number = n := by
  obtain ⟨era, year, dayOfYear, month, hn, hyears, hdays, -, hmonth, hday⟩ := ofNumber_spec n
  have hera : (year + era * 400) / 400 = era := by omega
  rw [hday]
  unfold Day.number
  dsimp only
  by_cases hten : month < 10
  · have hlate : ¬ (month + 3).toNat ≤ 2 := by omega
    have hlate' : (month + 3).toNat > 2 := by omega
    rw [if_pos hten, if_pos hten, if_neg hlate, if_pos hlate', Int.add_zero, hera]
    unfold yearStart at hn
    omega
  · have hearly : (month - 9).toNat ≤ 2 := by omega
    have hearly' : ¬ (month - 9).toNat > 2 := by omega
    rw [if_neg hten, if_neg hten, if_pos hearly, if_neg hearly', Int.add_sub_cancel, hera]
    unfold yearStart at hn
    omega

/-- The month of a day is one of twelve. -/
theorem month_ofNumber (n : Int) : 1 ≤ (Day.ofNumber n).month ∧ (Day.ofNumber n).month ≤ 12 := by
  obtain ⟨era, year, dayOfYear, month, -, -, hdays, -, hmonth, hday⟩ := ofNumber_spec n
  rw [hday]
  dsimp only
  by_cases hten : month < 10
  · rw [if_pos hten]
    omega
  · rw [if_neg hten]
    omega

/-- The day of a number is a day of its month. -/
theorem day_ofNumber (n : Int) : 1 ≤ (Day.ofNumber n).day ∧
    (Day.ofNumber n).day ≤ daysInMonth (Day.ofNumber n).year (Day.ofNumber n).month := by
  obtain ⟨era, year, dayOfYear, month, -, -, hdays, hleap, hmonth, hday⟩ := ofNumber_spec n
  rw [hday]
  by_cases hfebruary : month = 11
  · have hlast : (dayOfYear - (153 * month + 2) / 5 + 1).toNat = 29 → dayOfYear = 365 := by omega
    rw [hfebruary] at hmonth hlast ⊢
    show 1 ≤ (dayOfYear - 337 + 1).toNat ∧
      (dayOfYear - 337 + 1).toNat ≤ if isLeapYear (year + era * 400 + 1) then 29 else 28
    have hyear : year + 1 + era * 400 = year + era * 400 + 1 := by omega
    rw [hyear] at hleap
    split
    · omega
    · next hcommon =>
      have hshort : dayOfYear ≠ 365 := fun h => hcommon (hleap h)
      omega
  · -- The other months have the same number of days in every year.
    have hmonths : month = 0 ∨ month = 1 ∨ month = 2 ∨ month = 3 ∨ month = 4 ∨ month = 5 ∨
        month = 6 ∨ month = 7 ∨ month = 8 ∨ month = 9 ∨ month = 10 := by omega
    rcases hmonths with h | h | h | h | h | h | h | h | h | h | h
    all_goals
      rw [h] at hmonth ⊢
      simp [daysInMonth]
      omega

end Assay.Instant
