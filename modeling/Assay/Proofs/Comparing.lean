import Assay.Proofs.Expecting
import Assay.Proofs.Rounding

/-
  Integers that are compared for order.

  Two values under a path are equal as integers, but their order is that of the doubles nearest to
  them.  Rounding never turns two integers round, so what a strict comparison says is true, and what
  is true a weak comparison says.  But different integers may have the same nearest double
  (`Json.Number.Indistinct`); for these both weak comparisons hold and no strict one.  They are
  close together and at least `2^53` in size.

  The theorem `integers_are_ordered_by_their_doubles` says this for every operator, every path and
  every pair of integers that a document can hold, which are those from `-2^63` to `2^64 - 1`.

  Structure of the proof:

  1. The double of an integer.  `nearestEven_toDouble` ties the conversion of this library to its
     specification: the value is nearest, and of two nearest ones the even one.
     `distance_toDouble_le` bounds the error by half a unit of the largest binade, and
     `units_toDouble` says that there is none up to `2^53`.  Values of doubles are compared as
     integers throughout, in units of the smallest double (`Double.units`), so that no fraction
     occurs.

  2. The order of two doubles.  Rounding is monotonic (`units_le_of_le`, from `NearestEven` alone),
     so a strict comparison of the doubles is one of the integers unless the doubles are the same
     (`less_iff`), and a weak one differs from that of the integers only if they are (`lessEq_iff`).

  3. Integers with the same double.  If one of the two is less than `2^53` in size, then they are
     equal (`Indistinct.large`); otherwise their difference is at most twice the error
     (`Indistinct.close`).

  4. The assertion.  `jsonPathMatches_holds_iff` leads from the verdict on a response to the
     comparison of two numbers.

  The two theorems behind it are neighbours of `2^53`, once with different doubles and once with the
  same one.
-/

namespace Assay

open Double (NearestEven Rounded distance unitsPerOne)

namespace Json.Number

variable {a b n : Int}

/-! ## The double of an integer -/

/-- Integers of documents have at most 64 binary digits. -/
theorem log2_natAbs_le (h : -0x8000000000000000 ≤ n ∧ n < 0x10000000000000000) :
    Nat.log2 n.natAbs ≤ 63 := by
  by_cases hzero : n.natAbs = 0
  · rw [hzero, Nat.log2_zero]
    exact Nat.zero_le _
  · refine Nat.le_of_lt_succ ((Nat.log2_lt hzero).mpr ?_)
    omega

/-- The conversion rounds an integer that is not zero. -/
theorem rounded_toDouble (h : -0x8000000000000000 ≤ n ∧ n < 0x10000000000000000) (hn : n ≠ 0) :
    ∃ m, Rounded n m (integer n h).toDouble := by
  have hlog := log2_natAbs_le h
  obtain ⟨d, m, hd, hrounded⟩ := Double.ofInt_rounded hn (by omega)
  refine ⟨m, ?_⟩
  rw [toDouble, hd]
  exact hrounded

/-- The double of an integer is the nearest one, and the even one of two. -/
theorem nearestEven_toDouble (h : -0x8000000000000000 ≤ n ∧ n < 0x10000000000000000) :
    NearestEven n (integer n h).toDouble := by
  by_cases hn : n = 0
  · subst hn
    exact Double.nearestEven_of_distance_zero rfl
  · obtain ⟨m, hrounded⟩ := rounded_toDouble h hn
    exact hrounded.nearestEven

/-- An integer and its double differ by at most 1024. -/
theorem distance_toDouble_le (h : -0x8000000000000000 ≤ n ∧ n < 0x10000000000000000) :
    distance n (integer n h).toDouble ≤ 1024 * unitsPerOne := by
  by_cases hn : n = 0
  · subst hn
    exact Nat.zero_le _
  · obtain ⟨m, hrounded⟩ := rounded_toDouble h hn
    have hlog := log2_natAbs_le h
    have hstep : Double.stepOf n ≤ 11 := by
      rw [Double.stepOf]
      omega
    have hpow : 2 ^ Double.stepOf n * unitsPerOne ≤ 2 ^ 11 * unitsPerOne :=
      Nat.mul_le_mul_right _ (Nat.pow_le_pow_right (by decide) hstep)
    have hhalf := hrounded.distance_le
    omega

/-- Up to `2^53` every integer is a double. -/
theorem units_toDouble (h : -0x8000000000000000 ≤ n ∧ n < 0x10000000000000000)
    (hsmall : n.natAbs ≤ 2 ^ 53) :
    (integer n h).toDouble.units = n * unitsPerOne := by
  suffices hexact : distance n (integer n h).toDouble = 0 by
    unfold distance at hexact
    omega
  by_cases hn : n = 0
  · subst hn
    rfl
  obtain ⟨m, hrounded⟩ := rounded_toDouble h hn
  refine hrounded.distance_eq_zero ?_
  rcases Nat.lt_or_eq_of_le hsmall with hlt | heq
  · have hlog : Nat.log2 n.natAbs < 53 := (Nat.log2_lt (Int.natAbs_ne_zero.mpr hn)).mpr hlt
    have hstep : Double.stepOf n = 0 := by
      rw [Double.stepOf]
      omega
    rw [hstep]
    exact Nat.one_dvd _
  · rw [Double.stepOf, heq]
    decide

/-! ## Integers with the same double -/

/-- The two numbers have the same nearest double. -/
def Indistinct (x y : Number) : Prop := x.toDouble.units = y.toDouble.units

variable (ha : -0x8000000000000000 ≤ a ∧ a < 0x10000000000000000)
variable (hb : -0x8000000000000000 ≤ b ∧ b < 0x10000000000000000)

/-- The order of two integers is kept by their doubles, but for a strict one that may become weak.
-/
theorem units_le_of_le (h : a ≤ b) :
    (integer a ha).toDouble.units ≤ (integer b hb).toDouble.units := by
  rcases Int.lt_or_eq_of_le h with hlt | rfl
  · exact (nearestEven_toDouble ha).units_le (nearestEven_toDouble hb) hlt
  · exact Int.le_refl _

/-- A strict comparison of the doubles is one of the integers, unless these have the same double. -/
theorem less_iff : (integer a ha).toDouble.less (integer b hb).toDouble = true ↔
    a < b ∧ ¬(integer a ha).Indistinct (integer b hb) := by
  rw [Double.less, decide_eq_true_eq, Indistinct]
  refine ⟨fun h => ⟨?_, Int.ne_of_lt h⟩, fun ⟨hlt, hne⟩ => ?_⟩
  · by_contra hge
    have hle := units_le_of_le hb ha (Int.not_lt.mp hge)
    omega
  · have hle := units_le_of_le ha hb (Int.le_of_lt hlt)
    omega

/-- A weak comparison is one of the integers, but it also holds if these have the same double. -/
theorem lessEq_iff : (integer a ha).toDouble.lessEq (integer b hb).toDouble = true ↔
    a ≤ b ∨ (integer a ha).Indistinct (integer b hb) := by
  have hswap := less_iff hb ha
  rw [Double.less, decide_eq_true_eq] at hswap
  rw [Double.lessEq, decide_eq_true_eq, ← Int.not_lt, hswap, not_and_not_right, ← Int.not_lt,
    Indistinct, Indistinct, eq_comm, or_iff_not_imp_left, not_not]

variable {ha hb}

/-- An integer that is less than `2^53` in size is told apart from all others. -/
theorem Indistinct.large (h : (integer a ha).Indistinct (integer b hb)) (hne : a ≠ b) :
    2 ^ 53 ≤ a.natAbs := by
  by_contra hsmall
  have ha' := units_toDouble ha (by omega)
  have hpos : (0 : Int) < unitsPerOne := Int.natCast_pos.mpr Double.unitsPerOne_pos
  rw [Indistinct, ha'] at h
  rcases Nat.le_or_ge b.natAbs (2 ^ 53) with hle | hge
  · rw [units_toDouble hb hle] at h
    exact hne (Int.eq_of_mul_eq_mul_right (Int.ne_of_gt hpos) h)
  · -- The power of two lies between them, and it is a double itself.
    rcases Int.le_total 0 b with hside | hside
    · have hpower : -0x8000000000000000 ≤ (2 ^ 53 : Int) ∧
        (2 ^ 53 : Int) < 0x10000000000000000 := by decide
      have hbetween := units_le_of_le hpower hb (by omega)
      rw [units_toDouble hpower (by decide), ← h] at hbetween
      have := Int.le_of_mul_le_mul_right hbetween hpos
      omega
    · have hpower : -0x8000000000000000 ≤ (-2 ^ 53 : Int) ∧
        (-2 ^ 53 : Int) < 0x10000000000000000 := by decide
      have hbetween := units_le_of_le hb hpower (by omega)
      rw [units_toDouble hpower (by decide), ← h] at hbetween
      have := Int.le_of_mul_le_mul_right hbetween hpos
      omega

/-- Integers with the same double are at most 2048 apart. -/
theorem Indistinct.close (h : (integer a ha).Indistinct (integer b hb)) :
    (a - b).natAbs ≤ 2048 := by
  have hleft := distance_toDouble_le ha
  have hright := distance_toDouble_le hb
  rw [Indistinct] at h
  unfold distance at hleft hright
  rw [h] at hleft
  have hboth : (a - b).natAbs * unitsPerOne ≤ 2048 * unitsPerOne := by
    rw [← Double.natAbs_mul_unitsPerOne, Int.sub_mul]
    omega
  exact Nat.le_of_mul_le_mul_right hboth Double.unitsPerOne_pos

end Json.Number

namespace Check.Assertions

open Json.Number (Indistinct less_iff lessEq_iff)

variable {r : Response} {path : String} {document v w : Json} {o : Operator}

/-! ## Comparisons of values under a path -/

/-- A comparison with a value holds exactly if it holds of the value that the path leads to. -/
theorem jsonPathMatches_holds_iff (hjson : r.json? = some document)
    (hquery : document.query path = .ok (some v)) :
    evaluate (.jsonPathMatches path o w) r = .ok none ↔ compareValues v o w = true := by
  rw [evaluate_ok_none_iff, failure, evaluatePath_ok_none_iff]
  constructor
  · rintro ⟨document', v', hjson', hquery', hcompare⟩
    cases hjson.symm.trans hjson'
    cases hquery.symm.trans hquery'
    exact complaint_eq_none_iff.mp hcompare
  · exact fun hcompare => ⟨document, v, hjson, hquery, complaint_eq_none_iff.mpr hcompare⟩

/-- Integers that are compared.  Whether an integer under a path is equal to another one is decided
exactly.  Their order is that of their nearest doubles, of two the even one: a strict comparison
holds exactly if it holds of the integers and their doubles differ, a weak one also if they do not
differ.  So one is greater, less or equal, unless they are different and have the same double.  Such
integers are both at least `2^53` in size and at most 2048 apart. -/
theorem integers_are_ordered_by_their_doubles {a b : Int}
    (ha : -0x8000000000000000 ≤ a ∧ a < 0x10000000000000000)
    (hb : -0x8000000000000000 ≤ b ∧ b < 0x10000000000000000) (hjson : r.json? = some document)
    (hquery : document.query path = .ok (some (.number (.integer a ha)))) :
    let x : Json.Number := .integer a ha
    let y : Json.Number := .integer b hb
    let holds (o : Operator) : Prop := evaluate (.jsonPathMatches path o (.number y)) r = .ok none
    NearestEven a x.toDouble ∧ NearestEven b y.toDouble ∧
    (holds .equals ↔ a = b) ∧ (holds .notEquals ↔ a ≠ b) ∧
    (holds .greaterThan ↔ b < a ∧ ¬x.Indistinct y) ∧ (holds .lessThan ↔ a < b ∧ ¬x.Indistinct y) ∧
    (holds .greaterThanOrEqual ↔ b ≤ a ∨ x.Indistinct y) ∧
    (holds .lessThanOrEqual ↔ a ≤ b ∨ x.Indistinct y) ∧
    (holds .greaterThan ∨ holds .lessThan ∨ holds .equals ↔ (x.Indistinct y → a = b)) ∧
    (x.Indistinct y → a = b ∨ 2 ^ 53 ≤ a.natAbs ∧ 2 ^ 53 ≤ b.natAbs ∧ (a - b).natAbs ≤ 2048) := by
  intro x y holds
  have hholds : ∀ o, holds o ↔ compareValues (.number x) o (.number y) = true :=
    fun o => jsonPathMatches_holds_iff hjson hquery
  have hsame : (Json.number x).same (.number y) = true ↔ a = b := by
    rw [Json.same]
    exact beq_iff_eq
  have hcomm : y.Indistinct x ↔ x.Indistinct y := eq_comm
  have hequals : holds .equals ↔ a = b := (hholds _).trans hsame
  have hgreater : holds .greaterThan ↔ b < a ∧ ¬x.Indistinct y := by
    rw [← hcomm]
    exact (hholds _).trans (less_iff hb ha)
  have hless : holds .lessThan ↔ a < b ∧ ¬x.Indistinct y := (hholds _).trans (less_iff ha hb)
  refine ⟨Json.Number.nearestEven_toDouble ha, Json.Number.nearestEven_toDouble hb, hequals, ?_,
    hgreater, hless,
    ?_, ?_, ?_, ?_⟩
  · rw [hholds, compareValues, Bool.not_eq_true', ← Bool.not_eq_true, hsame]
  · rw [← hcomm]
    exact (hholds _).trans (lessEq_iff hb ha)
  · exact (hholds _).trans (lessEq_iff ha hb)
  · rw [hgreater, hless, hequals]
    rcases Int.lt_trichotomy a b with hlt | heq | hgt
    · simp [hlt, Int.lt_asymm hlt, Int.ne_of_lt hlt]
    · simp [heq]
    · simp [hgt, Int.lt_asymm hgt, Int.ne_of_gt hgt]
  · intro h
    refine or_iff_not_imp_left.mpr fun hne => ⟨h.large hne, ?_, h.close⟩
    exact (hcomm.mpr h).large (Ne.symm hne)

/-- A document with an integer in it. -/
def identified (n : Int) (h : -0x8000000000000000 ≤ n ∧ n < 0x10000000000000000) : Json :=
  .object [("id", .number (.integer n h))]

/-- The document is read back from the body of a response. -/
theorem json_identified {n : Int} (h : -0x8000000000000000 ≤ n ∧ n < 0x10000000000000000) :
    (responseWith .empty (identified n h).compact).json? = some (identified n h) := by
  have hreadable : (identified n h).Readable (126 + 1) := ⟨trivial, trivial⟩
  exact Body.json?_eq_some_iff.mpr (Json.parse_compact hreadable)

/-- The one after `2^53` is less than the next one, and has another double. -/
theorem neighbours_with_different_doubles :
    (identified 9007199254740993 (by decide)).query "$.id" =
      .ok (some (.number (.integer 9007199254740993 (by decide)))) ∧
    evaluate (.jsonPathMatches "$.id" .lessThan (.number (.integer 9007199254740994 (by decide))))
      (responseWith .empty (identified 9007199254740993 (by decide)).compact) = .ok none := by
  have hquery : (identified 9007199254740993 (by decide)).query "$.id" =
      .ok (some (.number (.integer 9007199254740993 (by decide)))) := by rfl
  obtain ⟨-, -, -, -, -, hless, -⟩ := integers_are_ordered_by_their_doubles (b := 9007199254740994)
    (by decide) (by decide) (json_identified (by decide)) hquery
  exact ⟨hquery, hless.mpr ⟨by decide, by rw [Indistinct]; decide +kernel⟩⟩

/-- The one after `2^53` is not greater than `2^53`, not less and not equal, for they have the same
double. -/
theorem greater_neighbour_is_not_greater :
    (identified 9007199254740993 (by decide)).compact = "\x7b\"id\":9007199254740993\x7d" ∧
    (let compares (o : Operator) := evaluate
      (.jsonPathMatches "$.id" o (.number (.integer 9007199254740992 (by decide))))
      (responseWith .empty (identified 9007199254740993 (by decide)).compact)
    compares .greaterThan ≠ .ok none ∧
    compares .lessThan ≠ .ok none ∧ compares .equals ≠ .ok none ∧
    compares .lessThanOrEqual = .ok none ∧ compares .greaterThanOrEqual = .ok none) := by
  have hquery : (identified 9007199254740993 (by decide)).query "$.id" =
      .ok (some (.number (.integer 9007199254740993 (by decide)))) := by rfl
  have hholds := fun o => jsonPathMatches_holds_iff (o := o)
    (w := .number (.integer 9007199254740992 (by decide))) (json_identified (by decide)) hquery
  refine ⟨by decide +kernel, ?_⟩
  simp only [ne_eq, hholds]
  decide +kernel

end Check.Assertions

end Assay
