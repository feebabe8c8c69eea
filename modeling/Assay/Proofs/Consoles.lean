import Assay.Output.Console

/-
  What a console counts.

  A console counts every report by its kind and adds up how long the tests took.  It does so before
  it writes anything, and the sum may become longer than any span; such a report is counted, but its
  duration is left out, the receipt of it panics, and nothing is written about it.

  So two lists tell all about a console: the reports that it has received, and those among them
  whose durations it could add.  The latter are `Console.countable`, a function of the durations
  alone: each report is taken that still fits behind those taken before, and one that does not fit
  is passed over, which leaves room for shorter ones behind it.

  1. Spans.  `Span.ofReports` is how long the tests of some reports took together, without a bound.
     Adding two spans is possible exactly if the sum is no longer than any span (`Span.add?_of_le`,
     `Span.add?_of_lt`).

  2. Summaries.  Counting does not look at the duration (`RunSummary.record_setDuration`,
     `RunSummary.foldl_setDuration`), so counts and duration can be told apart: the counts are those
     of all reports, and the duration is that of the countable ones.

  3. Consoles.  One report is counted with its duration or without it (`count_of_fits`,
     `count_of_overflow`), and `foldl_count` is the induction: a console counts like the summary of
     a run, and only the duration is its own.  What is received is what is counted, with the lines
     of the reports that fit (`receive_of_fits`, `receive_of_overflow`).

  If all durations fit together, then no report is passed over (`countable_eq_self`), and everything
  that is said about consoles is about all reports.
-/

namespace Assay

/-! ## Spans -/

namespace Span

/-- How long the tests of some reports took together. -/
def ofReports (rs : List TestReport) : Span := ⟨rs.foldr (fun r n => r.duration.nanos + n) 0⟩

@[simp] theorem ofReports_nil : ofReports [] = ⟨0⟩ := rfl

@[simp] theorem nanos_ofReports_cons (r : TestReport) (rs : List TestReport) :
    (ofReports (r :: rs)).nanos = r.duration.nanos + (ofReports rs).nanos := rfl

/-- A report that comes last adds its duration. -/
theorem nanos_ofReports_concat (rs : List TestReport) (r : TestReport) :
    (ofReports (rs ++ [r])).nanos = (ofReports rs).nanos + r.duration.nanos := by
  induction rs with
  | nil => exact Nat.add_comm _ _
  | cons q rest ih =>
    rw [List.cons_append, nanos_ofReports_cons, nanos_ofReports_cons, ih, Nat.add_assoc]

/-- Spans are added if the sum is no longer than any span. -/
theorem add?_of_le {s t : Span} (h : s.nanos + t.nanos ≤ longest) :
    s.add? t = some ⟨s.nanos + t.nanos⟩ := if_pos h

theorem add?_of_lt {s t : Span} (h : longest < s.nanos + t.nanos) : s.add? t = none :=
  if_neg (Nat.not_le_of_lt h)

end Span

/-! ## Summaries -/

namespace RunSummary

/-- Counting does not look at the duration. -/
theorem record_setDuration (s : RunSummary) (d : Span) (k : OutcomeKind) :
    ({ s with duration := d } : RunSummary).record k = { s.record k with duration := d } := by
  cases k <;> rfl

/-- Counting some reports does not look at the duration.  Induction on the reports. -/
theorem foldl_setDuration (rs : List TestReport) (d : Span) : ∀ s : RunSummary,
    rs.foldl (fun s r => s.record r.kind) { s with duration := d } =
      { rs.foldl (fun s r => s.record r.kind) s with duration := d } := by
  induction rs with
  | nil => exact fun _ => rfl
  | cons r rest ih =>
    intro s
    rw [List.foldl_cons, record_setDuration, ih, List.foldl_cons]

/-- The text of the counts does not show the duration. -/
theorem countsText_setDuration (s : RunSummary) (d : Span) :
    ({ s with duration := d } : RunSummary).countsText = s.countsText := rfl

end RunSummary

/-! ## Consoles -/

namespace Console

/-- The reports whose durations can be added to a sum that has been reached; a report that does not
fit is passed over. -/
def countable : Nat → List TestReport → List TestReport
  | _, [] => []
  | sum, r :: rest =>
    if sum + r.duration.nanos ≤ Span.longest then r :: countable (sum + r.duration.nanos) rest
    else countable sum rest

/-- A report does not fit exactly if the sum is longer than any span. -/
theorem overflows_iff {c : Console} {r : TestReport} :
    c.overflows r = true ↔ Span.longest < c.summary.duration.nanos + r.duration.nanos := by
  rw [overflows]
  by_cases h : c.summary.duration.nanos + r.duration.nanos ≤ Span.longest
  · rw [Span.add?_of_le h]
    exact ⟨nofun, fun hlt => absurd h (Nat.not_le_of_lt hlt)⟩
  · rw [Span.add?_of_lt (Nat.lt_of_not_le h)]
    exact ⟨fun _ => Nat.lt_of_not_le h, fun _ => rfl⟩

/-- A report that fits is counted with its duration. -/
theorem count_of_fits {c : Console} {r : TestReport}
    (h : c.summary.duration.nanos + r.duration.nanos ≤ Span.longest) :
    (c.count r).summary = { c.summary.record r.kind with
      duration := ⟨c.summary.duration.nanos + r.duration.nanos⟩ } := by
  rw [count, Span.add?_of_le h]
  rfl

/-- A report that does not fit is counted by its kind alone. -/
theorem count_of_overflow {c : Console} {r : TestReport}
    (h : Span.longest < c.summary.duration.nanos + r.duration.nanos) :
    (c.count r).summary = { c.summary.record r.kind with duration := c.summary.duration } := by
  rw [count, Span.add?_of_lt h]
  rfl

/-- A console counts like the summary of a run; only the duration is its own.  Induction on the
reports. -/
theorem foldl_count (rs : List TestReport) : ∀ c : Console,
    (rs.foldl count c).error = c.error ∧
    (rs.foldl count c).summary = { rs.foldl (fun s r => s.record r.kind) c.summary with
      duration := ⟨c.summary.duration.nanos +
        (Span.ofReports (countable c.summary.duration.nanos rs)).nanos⟩ } := by
  induction rs with
  | nil => exact fun c => ⟨rfl, rfl⟩
  | cons r rest ih =>
    intro c
    obtain ⟨herror, hsummary⟩ := ih (c.count r)
    refine ⟨herror, ?_⟩
    rw [List.foldl_cons, hsummary, List.foldl_cons, countable]
    by_cases hfits : c.summary.duration.nanos + r.duration.nanos ≤ Span.longest
    · rw [count_of_fits hfits, RunSummary.foldl_setDuration, if_pos hfits,
        Span.nanos_ofReports_cons, Nat.add_assoc]
    · rw [count_of_overflow (Nat.lt_of_not_le hfits), RunSummary.foldl_setDuration, if_neg hfits]

/-- The lines of a report that fits are written. -/
theorem receive_of_fits {ω : Type} (terminal : Terminal ω) {c : Console} {r : TestReport}
    (h : c.summary.duration.nanos + r.duration.nanos ≤ Span.longest) :
    receive terminal c r = writeLines terminal (lines r) >>=
      fun written => pure (.ok (), (c.count r).remember written) :=
  if_neg fun hover => absurd (overflows_iff.mp hover) (Nat.not_lt_of_le h)

/-- Nothing is written about a report that does not fit, and the receipt of it panics. -/
theorem receive_of_overflow {ω : Type} (terminal : Terminal ω) {c : Console} {r : TestReport}
    (h : Span.longest < c.summary.duration.nanos + r.duration.nanos) :
    receive terminal c r = pure (.error overflow, c.count r) := if_pos (overflows_iff.mpr h)

/-- If all durations fit together, no report is passed over.  Induction on the reports. -/
theorem countable_eq_self (rs : List TestReport) : ∀ {sum : Nat},
    sum + (Span.ofReports rs).nanos ≤ Span.longest → countable sum rs = rs := by
  induction rs with
  | nil => exact fun _ => rfl
  | cons r rest ih =>
    intro sum h
    rw [Span.nanos_ofReports_cons, ← Nat.add_assoc] at h
    rw [countable, if_pos (Nat.le_trans (Nat.le_add_right _ _) h), ih h]

end Console

end Assay
