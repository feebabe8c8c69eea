import Assay.Dict
import Assay.Run.Bridge

/-
  The built-in host.

  The host keeps a ledger: a sub-run for every test that it handled, with a name and a verdict.  A
  test keeps its own name if no sub-run has it yet; otherwise a number is added.  For each name of a
  test the ledger counts the numbers that are used up.  The next number may still be taken, because
  a test can be called `a#01` itself, so a search goes on from it to a name that has not been
  given.  It comes to an end: each of its steps meets a given name, and never the same one twice.

  `candidate` is the name with a given number, and the name itself at zero; different numbers give
  different names, by reading the number back.  `firstFree` is the search, `give` gives a test its
  name, and `bridge` is the whole of what the host does.  A counter is kept for each name, so that a
  search does not start from the beginning; that it could, without another result, is part of
  `Assay.Proofs.Naming`.
-/

namespace Assay

/-- The verdict of a sub-run. -/
inductive Verdict where
  | passed | failed | skipped | errored
  deriving DecidableEq, Repr

/-- The name of a verdict. -/
def Verdict.name : Verdict → String
  | passed => "passed"
  | failed => "failed"
  | skipped => "skipped"
  | errored => "errored"

/-- A sub-run of the host. -/
structure SubRun where
  name : String
  verdict : Verdict
  deriving DecidableEq, Repr

/-- What a host keeps: the sub-runs, in order, the names that it has given, and for each name of a
test the number at which the search for the next name starts. -/
structure Ledger where
  subRuns : List SubRun
  given : List String
  counters : Dict Nat
  deriving DecidableEq, Repr, Inhabited

namespace Ledger

/-- The ledger before the first test. -/
def empty : Ledger := ⟨[], [], .empty⟩

/-! ## Names -/

/-- A name with a number, which has at least two digits. -/
def numbered (name : String) (k : Nat) : String :=
  name ++ "#" ++ (if k < 10 then "0" else "") ++ toString k

/-- The names that a sub-run may get, in the order in which they are tried: the name of the test,
and then the numbered ones. -/
def candidate (name : String) (k : Nat) : String := if k = 0 then name else numbered name k

theorem candidate_zero (name : String) : candidate name 0 = name := if_pos rfl

theorem candidate_of_pos {name : String} {k : Nat} (h : 0 < k) :
    candidate name k = numbered name k :=
  if_neg (Nat.ne_of_gt h)

/-- The number can be read off a numbered name. -/
theorem numbered_injective {name : String} {j k : Nat} (h : numbered name j = numbered name k) :
    j = k := by
  -- Zeros in front do not change the number that digits stand for.
  have hvalue : ∀ n : Nat, Nat.ofDigitChars 10
      ((if n < 10 then "0" else "").toList ++ (toString n).toList) 0 = n := by
    intro n
    split <;> simp [Nat.ofDigitChars_cons]
  have hchars := congrArg String.toList h
  simp only [numbered, String.toList_append, List.append_assoc] at hchars
  have hdigits := List.append_cancel_left (List.append_cancel_left hchars)
  rw [← hvalue j, hdigits, hvalue k]

/-- A numbered name is longer than the name. -/
theorem numbered_ne (name : String) (k : Nat) : numbered name k ≠ name := by
  intro h
  have hlength := congrArg (fun s : String => s.toList.length) h
  simp [numbered] at hlength

/-- No name is tried twice. -/
theorem candidate_injective {name : String} {j k : Nat} (h : candidate name j = candidate name k) :
    j = k := by
  unfold candidate at h
  split at h
  · next hj =>
    split at h
    · next hk => rw [hj, hk]
    · exact absurd h.symm (numbered_ne name k)
  · split at h
    · exact absurd h (numbered_ne name j)
    · exact numbered_injective h

/-- The given names that a search has not met on its way to a number. -/
def ahead (given : List String) (name : String) (k : Nat) : List String :=
  given.filter fun u => (List.range k).all fun j => u != candidate name j

/-- A search that meets a given name has fewer of them ahead. -/
theorem length_ahead_lt {given : List String} {name : String} {k : Nat}
    (h : candidate name k ∈ given) :
    (ahead given name (k + 1)).length < (ahead given name k).length := by
  have hahead : candidate name k ∈ ahead given name k := by
    refine List.mem_filter.mpr ⟨h, List.all_eq_true.mpr fun j hj => bne_iff_ne.mpr fun heq => ?_⟩
    exact Nat.ne_of_gt (List.mem_range.mp hj) (candidate_injective heq)
  have hfilter : ahead given name (k + 1) =
    (ahead given name k).filter fun u => u != candidate name k := by
    simp [ahead, List.filter_filter, List.range_succ, Bool.and_comm]
  rw [hfilter]
  exact List.length_filter_lt_length_iff_exists.mpr ⟨_, hahead, by simp⟩

/-- The first number, from a given one on, whose name has not been given. -/
def firstFree (given : List String) (name : String) (k : Nat) : Nat :=
  if candidate name k ∈ given then firstFree given name (k + 1) else k
termination_by (ahead given name k).length
decreasing_by exact length_ahead_lt ‹_›

/-- The number at which the search for a name starts. -/
def counter (l : Ledger) (name : String) : Nat := (l.counters.get? name).getD 0

/-- Gives a name to the sub-run of a test. -/
def give (l : Ledger) (test : String) : String × Ledger :=
  let k := firstFree l.given test (l.counter test)
  let name := candidate test k
  (name, { l with given := l.given ++ [name], counters := l.counters.insert test (k + 1) })

/-! ## Verdicts -/

/-- The verdict of an execution, and what the host tells the run. -/
def judge (test : String) : Execution → Verdict × Except TestError Unit
  | .passed _ => (.passed, .ok ())
  | .failed _ => (.failed, .ok ())
  | .skipped _ => (.skipped, .ok ())
  | .broken cause => (.errored, .error (.broken test cause))
  | .fatal error => (.errored, .error (.fatal test error))

/-- Enters a sub-run. -/
def enter (l : Ledger) (name : String) (verdict : Verdict) : Ledger :=
  { l with subRuns := l.subRuns ++ [⟨name, verdict⟩] }

/-- The built-in bridge: it names a sub-run, executes the test once, enters the verdict and tells
about errors. -/
def bridge : Bridge Ledger := fun t l =>
  let (name, l) := l.give t.name
  .execute fun e =>
    let (verdict, result) := judge t.name e
    .done result (l.enter name verdict)

end Ledger

end Assay
