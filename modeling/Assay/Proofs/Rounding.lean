import Assay.Number.Double
import Mathlib.Algebra.Order.Group.Nat

/-
  Whole numbers and the doubles nearest to them.

  Between two powers of two the doubles are the multiples of a step (`stepOf`), and a whole number
  there is rounded to a multiple of that step, at most half a step away (`RoundsTo`).  That is the
  nearest one of all doubles: those of the binades above are multiples of the step, too, and those
  below are farther away than the least double of the binade.

  What this module is for is `NearestEven`: no double is nearer to the whole number, and of two that
  are equally near it is the one with the even significand.  That is how the conversion of an
  integer is specified, and nothing in it speaks of steps, shifts or digits.

  Distances are measured in units of the smallest double, `2^(-1074)`, of which every double is a
  whole multiple.  So they are natural numbers, and no fraction occurs anywhere.

  1. Rounding to a multiple.  The conversion divides and looks at the remainder; `RoundsTo` says
     what comes of that, and a whole number of steps is what it is rounded to
     (`RoundsTo.eq_of_eq_mul`).

  2. Units.  A double is a whole multiple of a step, or it is smaller than all doubles that have
     this step (`multiple_or_below`).

  3. What becomes of a whole number.  `Rounded` is the outcome of the conversion in terms of steps,
     on the same side of zero.

  4. The nearest double.  Among multiples of the step the rounded one is the nearest
     (`RoundsTo.nearest`, `Rounded.nearest_multiple`), those below are farther away
     (`Rounded.distance_lt_of_below`), and those on the other side of zero as well
     (`Rounded.units_eq_of_natAbs_eq` for the one case in which they could tie).

  5. Order.  From `NearestEven` alone: of two different numbers the larger one has no smaller
     nearest double (`NearestEven.units_le`).
-/

namespace Assay.Double

/-! ## Rounding to a multiple -/

/-- Half a step at most lies between a ratio and the whole number that it is rounded to, and that
number is even if it is half a step. -/
structure RoundsTo (num den m : Nat) : Prop where
  above : 2 * num ≤ 2 * (m * den) + den
  below : 2 * (m * den) ≤ 2 * num + den
  even : 2 * num = 2 * (m * den) + den ∨ 2 * (m * den) = 2 * num + den → m % 2 = 0

theorem roundsTo_roundHalfEven (num : Nat) {den : Nat} (hden : 0 < den) :
    RoundsTo num den (roundHalfEven num den) := by
  have hdivide : num = num / den * den + num % den := by rw [Nat.mul_comm, Nat.div_add_mod]
  have hrest : num % den < den := Nat.mod_lt num hden
  have hnext : (num / den + 1) * den = num / den * den + den := Nat.succ_mul _ _
  rw [roundHalfEven]
  split
  · exact ⟨by omega, by omega, by omega⟩
  · split
    · exact ⟨by omega, by omega, by omega⟩
    · next hlow hhigh =>
      -- The ratio is in the middle between two whole numbers.
      rcases Nat.mod_two_eq_zero_or_one (num / den) with heven | hodd
      · rw [heven, Nat.add_zero]
        exact ⟨by omega, by omega, fun _ => heven⟩
      · rw [hodd]
        exact ⟨by omega, by omega, fun _ => by omega⟩

theorem RoundsTo.le_of_mul_le {num den m a : Nat} (h : RoundsTo num den m) (hden : 0 < den)
    (ha : a * den ≤ num) : a ≤ m := by
  by_contra hlt
  have hstep : (m + 1) * den ≤ a * den := Nat.mul_le_mul_right den (by omega)
  have habove := h.above
  rw [Nat.succ_mul] at hstep
  omega

theorem RoundsTo.le_of_le_mul {num den m a : Nat} (h : RoundsTo num den m) (hden : 0 < den)
    (ha : num ≤ a * den) : m ≤ a := by
  by_contra hlt
  have hstep : (a + 1) * den ≤ m * den := Nat.mul_le_mul_right den (by omega)
  have hbelow := h.below
  rw [Nat.succ_mul] at hstep
  omega

/-- A whole number of steps is what it is rounded to. -/
theorem RoundsTo.eq_of_eq_mul {num den m a : Nat} (h : RoundsTo num den m) (hden : 0 < den)
    (ha : num = a * den) : m = a :=
  Nat.le_antisymm (h.le_of_le_mul hden (Nat.le_of_eq ha))
    (h.le_of_mul_le hden (Nat.le_of_eq ha.symm))

theorem RoundsTo.scale {num den m c : Nat} (h : RoundsTo num den m) (hc : 0 < c) :
    RoundsTo (num * c) (den * c) m := by
  have habove := Nat.mul_le_mul_right c h.above
  have hbelow := Nat.mul_le_mul_right c h.below
  rw [Nat.add_mul, Nat.mul_assoc 2, Nat.mul_assoc 2, Nat.mul_assoc m] at habove hbelow
  refine ⟨habove, hbelow, fun hhalf => h.even (hhalf.imp (fun h => ?_) fun h => ?_)⟩ <;>
    refine Nat.eq_of_mul_eq_mul_right hc ?_ <;> rw [Nat.add_mul, Nat.mul_assoc 2, Nat.mul_assoc 2,
      Nat.mul_assoc m] <;>
    exact h

/-! ## Units -/

theorem two_pow_mul_unitsPerOne (k : Nat) : 2 ^ k * unitsPerOne = 2 ^ (k + 1074) := by
  rw [unitsPerOne, Nat.one_shiftLeft, Nat.pow_add]

theorem natAbs_units (d : Double) :
    d.units.natAbs = d.significand * 2 ^ (d.exponent + 1074).toNat := by
  rw [units, Nat.shiftLeft_eq]
  split
  · rw [Int.natAbs_neg, Int.natAbs_natCast]
  · rw [Int.natAbs_natCast]

/-- A significand that has been shifted to the left has so much smaller an exponent. -/
theorem mul_two_pow_eq {j e k : Nat} (h : j + e = k + 1074) (s : Nat) :
    s * 2 ^ j * 2 ^ e = s * (2 ^ k * unitsPerOne) := by
  rw [two_pow_mul_unitsPerOne, ← h, Nat.pow_add, Nat.mul_assoc]

theorem unitsPerOne_pos : 0 < unitsPerOne := by
  rw [unitsPerOne, Nat.one_shiftLeft]
  exact Nat.two_pow_pos 1074

/-- A double is a whole multiple of a step, or it is smaller than all doubles that have this
step. -/
theorem multiple_or_below (d : Double) (k : Nat) :
    (∃ t, d.units.natAbs = t * (2 ^ k * unitsPerOne)) ∨
    d.units.natAbs < 2 ^ 52 * (2 ^ k * unitsPerOne) := by
  rw [natAbs_units, two_pow_mul_unitsPerOne]
  have hsignificand : d.significand < 2 ^ 53 := by
    rcases d.canonical with h | h <;> omega
  rcases Nat.lt_or_ge (d.exponent + 1074).toNat (k + 1074) with h | h
  · right
    calc d.significand * 2 ^ (d.exponent + 1074).toNat
        < 2 ^ 53 * 2 ^ (d.exponent + 1074).toNat :=
        Nat.mul_lt_mul_of_pos_right hsignificand (Nat.two_pow_pos _)
      _ ≤ 2 ^ 53 * 2 ^ (k + 1073) :=
      Nat.mul_le_mul_left _ (Nat.pow_le_pow_right (by decide) (by omega))
      _ = 2 ^ 52 * 2 ^ (k + 1074) := by
        rw [← Nat.pow_add, ← Nat.pow_add, show 53 + (k + 1073) = 52 + (k + 1074) by omega]
  · left
    refine ⟨d.significand * 2 ^ ((d.exponent + 1074).toNat - (k + 1074)), ?_⟩
    rw [Nat.mul_assoc, ← Nat.pow_add, Nat.sub_add_cancel h]

/-! ## What becomes of a whole number -/

/-- The step of the doubles around a whole number, as a power of two; it is one for all small
numbers. -/
def stepOf (n : Int) : Nat := Nat.log2 n.natAbs - 52

/-- A whole number has become a double: the nearest multiple of its step, on the same side of
zero. -/
structure Rounded (n : Int) (m : Nat) (d : Double) : Prop where
  natAbs : d.units.natAbs = m * (2 ^ stepOf n * unitsPerOne)
  sign : d.negative = decide (n < 0)
  rounds : RoundsTo n.natAbs (2 ^ stepOf n) m
  even : stepOf n ≠ 0 → m % 2 = 0 → d.significand % 2 = 0

/-- A whole number is scaled by the place of its first binary digit. -/
theorem scaleFor_one {num : Nat} (h : num ≠ 0) : scaleFor num 1 = (Nat.log2 num : Int) - 52 := by
  have hlow : 2 ^ Nat.log2 num ≤ num := Nat.log2_self_le h
  have hone : Nat.log2 1 = 0 := by decide
  rw [scaleFor, hone, if_neg, max_eq_left (by omega)]
  · rfl
  · split
    · next hguess =>
      have hpow : 2 ^ 52 * 2 ^ ((Nat.log2 num : Int) - (0 : Nat) - 52).toNat =
        2 ^ Nat.log2 num := by
        rw [← Nat.pow_add]
        congr 1
        omega
      rw [Nat.mul_one, Nat.shiftLeft_eq, Nat.not_lt]
      exact hpow.trans_le hlow
    · next hguess =>
      have hpow : 2 ^ Nat.log2 num * 2 ^ (-((Nat.log2 num : Int) - (0 : Nat) - 52)).toNat =
        2 ^ 52 := by
        rw [← Nat.pow_add]
        congr 1
        omega
      rw [Nat.mul_one, Nat.shiftLeft_eq, Nat.not_lt]
      exact hpow.symm.trans_le (Nat.mul_le_mul_right _ hlow)

theorem ofParts_of_canonical {negative : Bool} {significand : Nat} {exponent : Int}
    (h : (0x10000000000000 ≤ significand ∧ significand < 0x20000000000000 ∧ -1074 ≤ exponent ∧
      exponent ≤ 971) ∨
      (significand < 0x10000000000000 ∧ exponent = -1074)) :
    ofParts? negative significand exponent = some ⟨negative, significand, exponent, h⟩ := dif_pos h

theorem ofRatio_of_scaleFor {negative : Bool} {num den m : Nat} {e : Int} (hnum : num ≠ 0)
    (hden : den ≠ 0) (he : scaleFor num den = e)
    (hm : (if 0 ≤ e then roundHalfEven num (den <<< e.toNat) else
      roundHalfEven (num <<< (-e).toNat) den) = m) :
    ofRatio negative num den =
      if m = 0x20000000000000 then ofParts? negative 0x10000000000000 (e + 1) else
        ofParts? negative m e := by
  subst he hm
  rw [ofRatio, if_neg (not_or.mpr ⟨hnum, hden⟩)]

theorem ofInt_of_small {n : Int} (hn : n ≠ 0) (hsmall : Nat.log2 n.natAbs < 52) :
    ∃ d, ofInt n = some d ∧ Rounded n n.natAbs d := by
  have hnum : n.natAbs ≠ 0 := Int.natAbs_ne_zero.mpr hn
  have hlow : 2 ^ Nat.log2 n.natAbs ≤ n.natAbs := Nat.log2_self_le hnum
  have hhigh : n.natAbs < 2 ^ (Nat.log2 n.natAbs + 1) := Nat.lt_log2_self
  have hstep : stepOf n = 0 := by rw [stepOf]; omega
  -- Shifted by `j` digits it fills a significand, and nothing is rounded.
  obtain ⟨j, hj⟩ : ∃ j, Nat.log2 n.natAbs + j = 52 := ⟨52 - Nat.log2 n.natAbs, by omega⟩
  have hscale : scaleFor n.natAbs 1 = -(j : Int) := by rw [scaleFor_one hnum]; omega
  have hleast : 2 ^ 52 ≤ n.natAbs * 2 ^ j := by
    rw [← hj, Nat.pow_add]
    exact Nat.mul_le_mul_right _ hlow
  have hmost : n.natAbs * 2 ^ j < 2 ^ 53 := by
    rw [show 53 = Nat.log2 n.natAbs + 1 + j by omega, Nat.pow_add 2 (Nat.log2 n.natAbs + 1)]
    exact Nat.mul_lt_mul_of_pos_right hhigh (Nat.two_pow_pos j)
  have hexact : (if 0 ≤ -(j : Int) then roundHalfEven n.natAbs (1 <<< (-(j : Int)).toNat)
      else roundHalfEven (n.natAbs <<< (- -(j : Int)).toNat) 1) = n.natAbs * 2 ^ j := by
    rw [if_neg (by omega), Int.neg_neg, Int.toNat_natCast, Nat.shiftLeft_eq]
    exact (roundsTo_roundHalfEven _ Nat.one_pos).eq_of_eq_mul Nat.one_pos (Nat.mul_one _).symm
  rw [ofInt, ofRatio_of_scaleFor hnum Nat.one_ne_zero hscale hexact, if_neg (by omega)]
  refine ⟨_, ofParts_of_canonical (.inl ⟨by omega, by omega, by omega, by omega⟩), ?_, rfl, ?_, ?_⟩
  · have hexponent : j + (-(j : Int) + 1074).toNat = 0 + 1074 := by omega
    rw [natAbs_units, hstep]
    exact mul_two_pow_eq hexponent n.natAbs
  · rw [hstep]
    exact ⟨by omega, by omega, by omega⟩
  · exact fun h => absurd hstep h

theorem ofInt_of_large {n : Int} (hlarge : 52 ≤ Nat.log2 n.natAbs)
    (hbound : Nat.log2 n.natAbs ≤ 1022) :
    ∃ d m, ofInt n = some d ∧ Rounded n m d := by
  have hnum : n.natAbs ≠ 0 := by
    intro hzero
    rw [hzero, Nat.log2_zero] at hlarge
    omega
  have hlow : 2 ^ Nat.log2 n.natAbs ≤ n.natAbs := Nat.log2_self_le hnum
  have hhigh : n.natAbs < 2 ^ (Nat.log2 n.natAbs + 1) := Nat.lt_log2_self
  -- The last `k` digits do not fit in a significand.
  obtain ⟨k, hk⟩ : ∃ k, Nat.log2 n.natAbs = 52 + k := ⟨Nat.log2 n.natAbs - 52, by omega⟩
  have hstep : stepOf n = k := by rw [stepOf]; omega
  have hscale : scaleFor n.natAbs 1 = k := by rw [scaleFor_one hnum]; omega
  have hrounds := roundsTo_roundHalfEven n.natAbs (Nat.two_pow_pos k)
  have hrounded : (if 0 ≤ (k : Int) then roundHalfEven n.natAbs (1 <<< (k : Int).toNat)
      else roundHalfEven (n.natAbs <<< (-(k : Int)).toNat) 1) = roundHalfEven n.natAbs (2 ^ k) := by
    rw [if_pos (Int.natCast_nonneg k), Int.toNat_natCast, Nat.shiftLeft_eq, Nat.one_mul]
  rw [ofInt, ofRatio_of_scaleFor hnum Nat.one_ne_zero hscale hrounded]
  generalize roundHalfEven n.natAbs (2 ^ k) = m at hrounds ⊢
  have hleast : 2 ^ 52 ≤ m :=
    hrounds.le_of_mul_le (Nat.two_pow_pos k) (by rwa [← Nat.pow_add, ← hk])
  have hmost : m ≤ 2 ^ 53 := by
    refine hrounds.le_of_le_mul (Nat.two_pow_pos k) (Nat.le_of_lt ?_)
    rwa [← Nat.pow_add, show 53 + k = Nat.log2 n.natAbs + 1 by omega]
  split
  · next hcarry =>
    -- Rounding up has reached the next binade.
    refine ⟨_, m, ofParts_of_canonical (.inl ⟨by omega, by omega, by omega, by omega⟩), ?_,
      rfl, ?_, ?_⟩
    · rw [natAbs_units, two_pow_mul_unitsPerOne, hcarry, hstep]
      dsimp only
      rw [show ((k : Int) + 1 + 1074).toNat = k + 1074 + 1 by omega, Nat.pow_succ]
      omega
    · rwa [hstep]
    · exact fun _ _ => (by decide : 0x10000000000000 % 2 = 0)
  · next hcarry =>
    refine ⟨_, m, ofParts_of_canonical (.inl ⟨by omega, by omega, by omega, by omega⟩), ?_,
      rfl, ?_, ?_⟩
    · rw [natAbs_units, two_pow_mul_unitsPerOne, hstep]
      rfl
    · rwa [hstep]
    · exact fun _ h => h

theorem ofInt_rounded {n : Int} (hn : n ≠ 0) (hbound : Nat.log2 n.natAbs ≤ 1022) :
    ∃ d m, ofInt n = some d ∧ Rounded n m d := by
  rcases Nat.lt_or_ge (Nat.log2 n.natAbs) 52 with hsmall | hlarge
  · obtain ⟨d, hd, hrounded⟩ := ofInt_of_small hn hsmall
    exact ⟨d, _, hd, hrounded⟩
  · exact ofInt_of_large hlarge hbound

/-! ## The nearest double -/

/-- How far a double is from a whole number, in steps of `2^(-1074)`. -/
def distance (n : Int) (d : Double) : Nat := (d.units - n * unitsPerOne).natAbs

/-- No double is nearer to the whole number, and of two that are equally near it is the one with the
even significand. -/
structure NearestEven (n : Int) (d : Double) : Prop where
  nearest : ∀ e : Double, distance n d ≤ distance n e
  even : ∀ e : Double, distance n e = distance n d → e.units ≠ d.units → d.significand % 2 = 0

theorem nearestEven_of_distance_zero {n : Int} {d : Double} (h : distance n d = 0) :
    NearestEven n d := by
  refine ⟨fun e => h ▸ Nat.zero_le _, fun e he hne => absurd ?_ hne⟩
  rw [h] at he
  unfold distance at h he
  omega

/-- Among the multiples of a step, the one that is at most half a step away is the nearest. -/
theorem RoundsTo.nearest {x step m : Nat} (h : RoundsTo x step m) (t : Nat) :
    ((m * step : Nat) - x : Int).natAbs ≤ ((t * step : Nat) - x : Int).natAbs ∧
      (((t * step : Nat) - x : Int).natAbs = ((m * step : Nat) - x : Int).natAbs →
        t * step = m * step ∨ m % 2 = 0) := by
  have habove := h.above
  have hbelow := h.below
  have heven := h.even
  rcases Nat.lt_trichotomy t m with hlt | rfl | hgt
  · have hstep : (t + 1) * step ≤ m * step := Nat.mul_le_mul_right step hlt
    rw [Nat.succ_mul] at hstep
    exact ⟨by omega, fun _ => .inr (heven (by omega))⟩
  · exact ⟨Nat.le_refl _, fun _ => .inl rfl⟩
  · have hstep : (m + 1) * step ≤ t * step := Nat.mul_le_mul_right step hgt
    rw [Nat.succ_mul] at hstep
    exact ⟨by omega, fun _ => .inr (heven (by omega))⟩

variable {n : Int} {m : Nat} {d : Double}

theorem natAbs_mul_unitsPerOne (n : Int) : (n * unitsPerOne).natAbs = n.natAbs * unitsPerOne := by
  rw [Int.natAbs_mul, Int.natAbs_natCast]

/-- A double is at least as far from a whole number as their absolute values are from each other. -/
theorem le_distance (n : Int) (d : Double) :
    ((d.units.natAbs : Int) - (n.natAbs * unitsPerOne : Nat)).natAbs ≤ distance n d := by
  rw [← natAbs_mul_unitsPerOne, distance]
  omega

/-- What a whole number is rounded to lies on its side of zero. -/
theorem Rounded.side (h : Rounded n m d) :
    d.units ≤ 0 ∧ n * unitsPerOne ≤ 0 ∨ 0 ≤ d.units ∧ 0 ≤ n * unitsPerOne := by
  rw [units, h.sign]
  by_cases hneg : n < 0
  · refine .inl ⟨?_, Int.mul_nonpos_of_nonpos_of_nonneg (Int.le_of_lt hneg) (Int.natCast_nonneg _)⟩
    rw [if_pos (decide_eq_true hneg)]
    exact Int.neg_nonpos_of_nonneg (Int.natCast_nonneg _)
  · refine .inr ⟨?_, Int.mul_nonneg (Int.not_lt.mp hneg) (Int.natCast_nonneg _)⟩
    rw [if_neg (by rwa [decide_eq_true_eq])]
    exact Int.natCast_nonneg _

theorem Rounded.distance_eq (h : Rounded n m d) : distance n d =
    ((m * (2 ^ stepOf n * unitsPerOne) : Nat) - (n.natAbs * unitsPerOne : Nat) : Int).natAbs := by
  have hside := h.side
  rw [← natAbs_mul_unitsPerOne, ← h.natAbs, distance]
  omega

/-- Rounding is the same in steps of `2^(-1074)`. -/
theorem Rounded.scaled (h : Rounded n m d) :
    RoundsTo (n.natAbs * unitsPerOne) (2 ^ stepOf n * unitsPerOne) m :=
  h.rounds.scale unitsPerOne_pos

/-- At most half a step is lost. -/
theorem Rounded.distance_le (h : Rounded n m d) :
    2 * distance n d ≤ 2 ^ stepOf n * unitsPerOne := by
  have habove := h.scaled.above
  have hbelow := h.scaled.below
  rw [h.distance_eq]
  omega

/-- Multiples of the step are not changed. -/
theorem Rounded.distance_eq_zero (h : Rounded n m d) (hdvd : 2 ^ stepOf n ∣ n.natAbs) :
    distance n d = 0 := by
  obtain ⟨t, ht⟩ := hdvd
  rw [Nat.mul_comm] at ht
  have hm : m = t := h.rounds.eq_of_eq_mul (Nat.two_pow_pos _) ht
  rw [h.distance_eq, hm, ht, Nat.mul_assoc]
  omega

theorem pow_le_of_stepOf_ne_zero (h : stepOf n ≠ 0) : 2 ^ 52 * 2 ^ stepOf n ≤ n.natAbs := by
  have hlog : 52 + stepOf n = Nat.log2 n.natAbs := by
    rw [stepOf] at h ⊢
    omega
  have hnum : n.natAbs ≠ 0 := by
    intro hzero
    rw [hzero, Nat.log2_zero] at hlog
    omega
  rw [← Nat.pow_add, hlog]
  exact Nat.log2_self_le hnum

/-- Of the doubles that are multiples of the step it is the nearest one; another one that is as near
has the other sign, or stands where the even one is taken. -/
theorem Rounded.nearest_multiple (h : Rounded n m d) {e : Double} {t : Nat}
    (ht : e.units.natAbs = t * (2 ^ stepOf n * unitsPerOne)) :
    distance n d ≤ distance n e ∧
    (distance n e = distance n d → e.units.natAbs = d.units.natAbs ∨ m % 2 = 0) := by
  obtain ⟨hnearest, heven⟩ := h.scaled.nearest t
  have hfar := le_distance n e
  rw [← h.distance_eq] at hnearest heven
  rw [ht] at hfar
  refine ⟨Nat.le_trans hnearest hfar, fun hequal => ?_⟩
  rw [ht, h.natAbs]
  exact heven (Nat.le_antisymm (hequal ▸ hfar) hnearest)

/-- The doubles below a binade are farther away than the least one in it. -/
theorem Rounded.distance_lt_of_below (h : Rounded n m d) (hstep : stepOf n ≠ 0) {e : Double}
    (he : e.units.natAbs < 2 ^ 52 * (2 ^ stepOf n * unitsPerOne)) :
    distance n d < distance n e := by
  have hleast : 2 ^ 52 * (2 ^ stepOf n * unitsPerOne) ≤ n.natAbs * unitsPerOne := by
    rw [← Nat.mul_assoc]
    exact Nat.mul_le_mul_right _ (pow_le_of_stepOf_ne_zero hstep)
  have hfirst := (h.scaled.nearest (2 ^ 52)).1
  rw [← h.distance_eq] at hfirst
  have hfar := le_distance n e
  omega

/-- On the other side of zero nothing is as near. -/
theorem Rounded.units_eq_of_natAbs_eq (h : Rounded n m d) (hn : n ≠ 0) {e : Double}
    (hsame : e.units.natAbs = d.units.natAbs) (hequal : distance n e = distance n d) :
    e.units = d.units := by
  have hside := h.side
  have hpositive : 0 < (n * unitsPerOne).natAbs := by
    rw [natAbs_mul_unitsPerOne]
    exact Nat.mul_pos (Int.natAbs_pos.mpr hn) unitsPerOne_pos
  rw [distance, distance] at hequal
  omega

theorem Rounded.nearestEven (h : Rounded n m d) : NearestEven n d := by
  by_cases hstep : stepOf n = 0
  · refine nearestEven_of_distance_zero (h.distance_eq_zero ?_)
    rw [hstep]
    exact Nat.one_dvd _
  have hn : n ≠ 0 := by
    rintro rfl
    exact hstep (by decide)
  refine ⟨fun e => ?_, fun e hequal hne => ?_⟩
  · rcases multiple_or_below e (stepOf n) with ⟨t, ht⟩ | hbelow
    · exact (h.nearest_multiple ht).1
    · exact Nat.le_of_lt (h.distance_lt_of_below hstep hbelow)
  · rcases multiple_or_below e (stepOf n) with ⟨t, ht⟩ | hbelow
    · rcases (h.nearest_multiple ht).2 hequal with hsame | heven
      · exact absurd (h.units_eq_of_natAbs_eq hn hsame hequal) hne
      · exact h.even hstep heven
    · exact absurd hequal (Nat.ne_of_gt (h.distance_lt_of_below hstep hbelow))

/-! ## Order -/

/-- Of two different numbers the larger one has no smaller nearest double. -/
theorem NearestEven.units_le {a b : Int} {d e : Double} (hd : NearestEven a d)
    (he : NearestEven b e) (h : a < b) :
    d.units ≤ e.units := by
  have hleft := hd.nearest e
  have hright := he.nearest d
  have hscaled : a * unitsPerOne < b * unitsPerOne :=
    Int.mul_lt_mul_of_pos_right h (Int.natCast_pos.mpr unitsPerOne_pos)
  unfold distance at hleft hright
  omega

end Assay.Double
