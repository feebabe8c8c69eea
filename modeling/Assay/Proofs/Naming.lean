import Assay.Run.Ledger
import Mathlib.Data.List.Nodup

/-
  The names of sub-runs.

  Whatever tests a host handles, their sub-runs have different names, and each of them has the first
  name that was free when its test came (`Ledger.FirstChoice`): the name of the test, or the one
  with the least number behind it.  A test may be called like a numbered one, and then this name is
  taken when the numbers come to it.

  The ledger does not look at all numbers for this, because it starts at a counter of its own for
  each name of a test.  That no free number is passed over in this way is the invariant of the
  ledger (`Ledger.Sound`): the numbers below a counter are used up, the sub-runs have the names that
  have been given, and no two of these are the same.

  1. The search.  From a number on, it arrives at a name that has not been given and has met given
     names only (`firstFree_spec`, by induction along the search).  There are finitely many given
     names, so it makes at most as many steps (`firstFree_le`); this is why it terminates.

  2. The counters.  In a sound ledger the name that is given is the first choice
     (`Sound.firstChoice`), as what the search does not look at has been counted, and it is a new
     one (`give_not_mem`).

  3. Handling tests.  One test keeps the ledger sound (`Sound.handle`), and so do all of them
     (`Sound.handleAll`, by induction on the tests).  The theorem starts from the empty ledger.
-/

namespace Assay.Ledger

/-! ## The search -/

/-- The search arrives at a name that has not been given, and it has met given names only.
Induction along the search. -/
theorem firstFree_spec (given : List String) (name : String) (k : Nat) :
    k ≤ firstFree given name k ∧ candidate name (firstFree given name k) ∉ given ∧
      ∀ j, k ≤ j → j < firstFree given name k → candidate name j ∈ given := by
  fun_induction firstFree given name k with
  | case1 k hgiven ih =>
    obtain ⟨hle, hfree, hmet⟩ := ih
    refine ⟨Nat.le_of_succ_le hle, hfree, fun j hj hlt => ?_⟩
    rcases Nat.eq_or_lt_of_le hj with rfl | hj
    · exact hgiven
    · exact hmet j hj hlt
  | case2 k hfree => exact ⟨Nat.le_refl k, hfree, fun j hj hlt => absurd hlt (Nat.not_lt.mpr hj)⟩

/-- The search makes at most one step for each name that is ahead of it. -/
theorem firstFree_le (given : List String) (name : String) (k : Nat) :
    firstFree given name k ≤ k + (ahead given name k).length := by
  fun_induction firstFree given name k with
  | case1 k hgiven ih =>
    have hfewer := length_ahead_lt hgiven
    omega
  | case2 k hfree => exact Nat.le_add_right _ _

/-! ## The counters -/

/-- The first name, among those that a sub-run of a test may get, that has not been given before. -/
inductive FirstChoice (before : List String) (test : String) : String → Prop where
  /-- The name of the test is free. -/
  | own : test ∉ before → FirstChoice before test test
  /-- It has been given, and so have the numbered names with all smaller numbers. -/
  | numbered (k : Nat) : test ∈ before → 1 ≤ k → numbered test k ∉ before →
    (∀ j, 1 ≤ j → j < k → Ledger.numbered test j ∈ before) →
    FirstChoice before test (Ledger.numbered test k)

/-- A candidate is the first choice if it is free and those before it are not. -/
theorem firstChoice_candidate {before : List String} {test : String} {k : Nat}
    (hfree : candidate test k ∉ before) (hmet : ∀ j < k, candidate test j ∈ before) :
    FirstChoice before test (candidate test k) := by
  rcases Nat.eq_zero_or_pos k with rfl | hk
  · rw [candidate_zero] at hfree ⊢
    exact .own hfree
  · rw [candidate_of_pos hk] at hfree ⊢
    have hown := hmet 0 hk
    rw [candidate_zero] at hown
    refine .numbered k hown hk hfree fun j hj hlt => ?_
    rw [← candidate_of_pos hj]
    exact hmet j hlt

/-- What holds of a ledger between two tests: the sub-runs have the given names, no two of them the
same, and the numbers below a counter are used up. -/
structure Sound (l : Ledger) : Prop where
  names : l.subRuns.map SubRun.name = l.given
  nodup : l.given.Nodup
  counted : ∀ test, ∀ j < l.counter test, candidate test j ∈ l.given

/-- The ledger of a new host is sound. -/
theorem sound_empty : empty.Sound :=
  ⟨rfl, List.nodup_nil, fun _ j hj => absurd hj (Nat.not_lt_zero j)⟩

/-- The counter after a name has been given: it moves for the test in question only. -/
theorem counter_give (l : Ledger) (test name : String) :
    (l.give test).2.counter name =
      if name = test then firstFree l.given test (l.counter test) + 1 else l.counter name := by
  show ((l.counters.insert test _).get? name).getD 0 = _
  rw [Dict.get?_insert]
  split <;> rfl

/-- In a sound ledger the name that is given is the first choice: what the search does not look at
has been counted. -/
theorem Sound.firstChoice {l : Ledger} (h : l.Sound) (test : String) :
    FirstChoice l.given test (l.give test).1 := by
  obtain ⟨-, hfree, hmet⟩ := firstFree_spec l.given test (l.counter test)
  refine firstChoice_candidate hfree fun j hj => ?_
  rcases Nat.lt_or_ge j (l.counter test) with hlt | hge
  · exact h.counted test j hlt
  · exact hmet j hge hj

/-- The name that is given is a new one. -/
theorem give_not_mem (l : Ledger) (test : String) : (l.give test).1 ∉ l.given :=
  (firstFree_spec l.given test (l.counter test)).2.1

/-! ## Handling tests -/

/-- The ledger after one more test has been handled, whose execution is given. -/
def handle (l : Ledger) (t : TestCase) (e : Execution) : Ledger :=
  ((bridge t l).run (fun s : Unit => (e, s)) none ()).bridge

/-- Handling a test adds the name that its sub-run gets. -/
theorem given_handle (l : Ledger) (t : TestCase) (e : Execution) :
    (l.handle t e).given = l.given ++ [(l.give t.name).1] := rfl

/-- A ledger stays sound when a test is handled. -/
theorem Sound.handle {l : Ledger} (h : l.Sound) (t : TestCase) (e : Execution) :
    (l.handle t e).Sound where
  names := by
    show (l.subRuns ++ [_]).map SubRun.name = l.given ++ [_]
    rw [List.map_append, h.names]
    rfl
  nodup := by
    rw [given_handle, List.nodup_append]
    refine ⟨h.nodup, List.nodup_singleton _, fun a ha b hb heq => ?_⟩
    rw [heq, List.mem_singleton.mp hb] at ha
    exact give_not_mem l t.name ha
  counted := by
    intro test j hj
    rw [given_handle, List.mem_append]
    have hcounter := counter_give l t.name test
    rw [show (l.handle t e).counter test = (l.give t.name).2.counter test from rfl, hcounter] at hj
    split at hj
    · next heq =>
      -- The counter has moved behind the name that has just been given.
      rw [heq]
      obtain ⟨-, -, hmet⟩ := firstFree_spec l.given t.name (l.counter t.name)
      rcases Nat.eq_or_lt_of_le (Nat.le_of_lt_succ hj) with rfl | hlt
      · exact .inr (List.mem_singleton.mpr rfl)
      · rcases Nat.lt_or_ge j (l.counter t.name) with hcounted | hsearched
        · exact .inl (h.counted t.name j hcounted)
        · exact .inl (hmet j hsearched hlt)
    · exact .inl (h.counted test j hj)

/-- The ledger after some more tests. -/
def handleAll (l : Ledger) (handled : List (TestCase × Execution)) : Ledger :=
  handled.foldl (fun l h => l.handle h.1 h.2) l

theorem handleAll_cons (l : Ledger) (h : TestCase × Execution)
    (rest : List (TestCase × Execution)) :
    l.handleAll (h :: rest) = (l.handle h.1 h.2).handleAll rest := by
  rw [handleAll, List.foldl_cons, ← handleAll]

/-- Handling some tests adds one name for each of them, its first choice at that time.  Induction on
the tests, the ledger being sound all along. -/
theorem Sound.handleAll : ∀ (handled : List (TestCase × Execution)) {l : Ledger}, l.Sound →
    (l.handleAll handled).Sound ∧ ∃ names, (l.handleAll handled).given = l.given ++ names ∧
      names.length = handled.length ∧
      ∀ i h, handled[i]? = some h →
        ∃ n, names[i]? = some n ∧ FirstChoice (l.given ++ names.take i) h.1.name n := by
  intro handled
  induction handled with
  | nil =>
    intro l hl
    refine ⟨hl, [], (List.append_nil _).symm, rfl, fun i h hi => ?_⟩
    rw [List.getElem?_nil] at hi
    cases hi
  | cons h rest ih =>
    intro l hl
    obtain ⟨hsound, names, hgiven, hlength, hchoice⟩ := ih (hl.handle h.1 h.2)
    rw [given_handle, List.append_assoc, List.singleton_append] at hgiven
    rw [handleAll_cons]
    refine ⟨hsound, (l.give h.1.name).1 :: names, hgiven, ?_, fun i h' hi => ?_⟩
    · rw [List.length_cons, List.length_cons, hlength]
    · cases i with
      | zero =>
        rw [List.getElem?_cons_zero, Option.some.injEq] at hi
        refine ⟨(l.give h.1.name).1, List.getElem?_cons_zero, ?_⟩
        rw [List.take_zero, List.append_nil, ← hi]
        exact hl.firstChoice h.1.name
      | succ i =>
        rw [List.getElem?_cons_succ] at hi
        obtain ⟨n, hn, hfirst⟩ := hchoice i h' hi
        rw [given_handle, List.append_assoc, List.singleton_append] at hfirst
        refine ⟨n, ?_, ?_⟩
        · rw [List.getElem?_cons_succ, hn]
        · rw [List.take_succ_cons]
          exact hfirst

/-- The names of sub-runs.  Whatever tests a new host handles and whatever comes of them, there is
one sub-run for each test, no two of them have the same name, and each has the first name that was
free when its test was handled.  The search for the next name, of whatever test, makes at most one
step for each name that has been given. -/
theorem sub_runs_have_first_free_names (handled : List (TestCase × Execution)) :
    let l := empty.handleAll handled
    let names := l.subRuns.map SubRun.name
    names.length = handled.length ∧ names.Nodup ∧
    (∀ i h, handled[i]? = some h → ∃ n, names[i]? = some n ∧
      FirstChoice (names.take i) h.1.name n) ∧
    ∀ test, firstFree l.given test (l.counter test) ≤ l.counter test + names.length := by
  intro l names
  obtain ⟨hsound, added, hgiven, hlength, hchoice⟩ := sound_empty.handleAll handled
  have hadded : names = added := hsound.names.trans hgiven
  refine ⟨?_, ?_, ?_, fun test => ?_⟩
  · rw [hadded, hlength]
  · have hnodup := hsound.nodup
    rw [← hsound.names] at hnodup
    exact hnodup
  · rw [hadded]
    exact hchoice
  · have hahead : (ahead l.given test (l.counter test)).length ≤ l.given.length :=
      List.length_filter_le _ _
    have hnames : names.length = l.given.length := congrArg List.length hsound.names
    have hsteps := firstFree_le l.given test (l.counter test)
    omega

/-- A test that is called like a numbered one takes this name away from the tests that come
later. -/
example : (empty.handleAll (["login#01", "login", "login", "login", "login#01"].map fun name =>
    (.ofRequest default name default, .skipped "not focused"))).given =
      ["login#01", "login", "login#02", "login#03", "login#01#01"] := by
  decide +kernel

end Assay.Ledger
