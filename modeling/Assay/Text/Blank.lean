/-
  Blank characters and trimming.

  A character is blank when it has the property "white space" of the character standard: 25 code
  points, among them the no-break space and the line and paragraph separators.  Names, variable
  references, JSON paths and setting values are all read after trimming such characters off both
  ends, so the class lives here once.

  The algorithms work on `List Char`; each has a `String` form of the same name.

  `trimLeft`, `trimRight` and `trimBoth` are the three algorithms.  The few facts about them stand
  right behind them: what is left starts with a character that is not blank (`head_trimLeft`),
  nothing is left exactly if all is blank (`trimBoth_eq_nil_iff`), and a text without blanks is left
  as it is (`trimBoth_of_no_blank`).
-/

namespace Assay.Text

/-- A blank is a character with the property "white space". -/
def isBlank (c : Char) : Bool :=
  let n := c.toNat
  (9 ≤ n && n ≤ 13) || n == 0x20 || n == 0x85 || n == 0xA0 || n == 0x1680 ||
    (0x2000 ≤ n && n ≤ 0x200A) || n == 0x2028 || n == 0x2029 || n == 0x202F || n == 0x205F ||
    n == 0x3000

/-- A digit is not blank. -/
theorem isBlank_of_isDigit {c : Char} (h : c.isDigit = true) : isBlank c = false := by
  obtain ⟨hlow, hhigh⟩ : 48 ≤ c.toNat ∧ c.toNat ≤ 57 := Char.isDigit_iff_toNat.mp h
  simp only [isBlank, Bool.or_eq_false_iff, Bool.and_eq_false_iff, decide_eq_false_iff_not,
    beq_eq_false_iff_ne]
  omega

/-! ## Trimming -/

/-- Drops the blanks in front. -/
def trimLeft (s : List Char) : List Char := s.dropWhile isBlank

/-- Drops the blanks at the end. -/
def trimRight (s : List Char) : List Char := (s.reverse.dropWhile isBlank).reverse

/-- Drops the blanks at both ends. -/
def trimBoth (s : List Char) : List Char := trimRight (trimLeft s)

/-- A text without blanks at either end. -/
def trim (s : String) : String := String.ofList (trimBoth s.toList)

/-- A text is blank when it holds nothing but blanks. -/
def blank (s : String) : Bool := s.toList.all isBlank

/-- Trimming leaves nothing exactly of a text that holds nothing but blanks. -/
theorem trimLeft_eq_nil_iff {s : List Char} : trimLeft s = [] ↔ s.all isBlank = true := by
  induction s with
  | nil => simp [trimLeft]
  | cons c r ih =>
    unfold trimLeft at *
    by_cases h : isBlank c = true
    · simp [h, ih]
    · simp [h]

/-- What is left after trimming in front does not start with a blank. -/
theorem head_trimLeft {s : List Char} {c : Char} {r : List Char} (h : trimLeft s = c :: r) :
    isBlank c = false := by
  induction s with
  | nil => simp [trimLeft] at h
  | cons d t ih =>
    unfold trimLeft at *
    by_cases hd : isBlank d = true
    · rw [List.dropWhile_cons_of_pos hd] at h; exact ih h
    · rw [List.dropWhile_cons_of_neg hd] at h
      injection h with h1 _
      subst h1; simpa using hd

/-- A character that is no blank stays where it is when blanks behind it are dropped. -/
theorem trimRight_cons {c : Char} (h : isBlank c = false) (s : List Char) :
    trimRight (c :: s) = c :: trimRight s := by
  rw [trimRight, trimRight, List.reverse_cons, List.dropWhile_append]
  cases s.reverse.dropWhile isBlank <;> simp [h]

/-- Trimming at both ends leaves nothing exactly of a text that holds nothing but blanks. -/
theorem trimBoth_eq_nil_iff {s : List Char} : trimBoth s = [] ↔ s.all isBlank = true := by
  rw [← trimLeft_eq_nil_iff, trimBoth]
  cases hleft : trimLeft s with
  | nil => exact iff_of_true rfl rfl
  | cons c r =>
    rw [trimRight_cons (head_trimLeft hleft)]
    exact iff_of_false (List.cons_ne_nil _ _) (List.cons_ne_nil _ _)

/-- A text without blanks is as it is after trimming. -/
theorem trimBoth_of_no_blank {s : List Char} (h : ∀ c ∈ s, isBlank c = false) : trimBoth s = s := by
  have hleft : trimLeft s = s := by
    cases s with
    | nil => rfl
    | cons c r => rw [trimLeft, List.dropWhile_cons_of_neg (by simp [h])]
  rw [trimBoth, hleft]
  clear hleft
  induction s with
  | nil => rfl
  | cons c r ih =>
    rw [trimRight_cons (h c List.mem_cons_self), ih fun d hd => h d (List.mem_cons_of_mem c hd)]

end Assay.Text
