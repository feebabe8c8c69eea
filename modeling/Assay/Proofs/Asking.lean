import Assay.Run.Executor

/-
  Asking checkers and providers, with every call noted.

  Whatever a collaborator does, a call to it adds one entry to the log and replaces the state that
  the collaborators share.  So a stage of a test is described by three things: its answer, its
  calls, and the shared state that it leaves.  `ExecutorState.after` is the state of an executor
  after some calls; stages that follow each other add their calls (`after_after`), and all else in
  the state is left alone by definition.

  1. Checkers.  They are asked one after the other, each in the state that the one before it left,
     up to the first one that errs: `Checker.ask` has their answers and the state in the end.  What
     the answers come to is `Checker.merge`, everything that was found or the first error.  There
     are two courses that this can take (`ask_cases`, by induction on the checkers): all are asked
     and none errs, or the last one that is asked errs and no other does.  The two exclude each
     other (`found_ne_erred`).  `checkAll_logged` ties this to the executor: what it answers is
     `merge` of the answers, what it notes is one call for each answer, and what it leaves is the
     state of the last one.

  2. Providers.  Fixtures and mocks are provided in the same way, each by an optional provider that
     is called if the test needs it.  `Provision` has what the two differ in as its fields: the
     call, the error for a missing provider and the one for a provider that fails.  A provision is
     ready, or there is a fault, and never both (`fault_or_ready`, `Fault.unique`), and `run_spec`
     says that it answers accordingly.

  Nothing is assumed about collaborators: a checker or provider is any function of the shared state.
-/

namespace Assay

/-- The state of an executor after some calls. -/
def ExecutorState.after {σ : Type} (s : ExecutorState σ) (calls : List Call) (world : σ) :
    ExecutorState σ := { s with calls := s.calls ++ calls, world := world }

namespace ExecutorState

variable {σ : Type} (s : ExecutorState σ)

@[simp] theorem calls_after (calls : List Call) (w : σ) :
    (s.after calls w).calls = s.calls ++ calls := rfl

@[simp] theorem world_after (calls : List Call) (w : σ) : (s.after calls w).world = w := rfl

/-- No calls and the same shared state are no change. -/
theorem after_nil : s.after [] s.world = s := by
  rw [after, List.append_nil]

/-- Calls after calls are all the calls, and the later shared state counts. -/
theorem after_after (calls more : List Call) (w w' : σ) :
    (s.after calls w).after more w' = s.after (calls ++ more) w' := by
  rw [after, calls_after, List.append_assoc]
  rfl

end ExecutorState

/-- What comes second goes on with the answer and the state of what comes first. -/
theorem bind_apply {σ α β : Type} (x : StateM σ α) (f : α → StateM σ β) (w : σ) :
    (x >>= f) w = f (x w).1 (x w).2 := rfl

/-! ## Checkers -/

namespace Checker

variable {σ : Type} (t : TestCase) (r : Response)

/-- The answers of some checkers that are asked in order, up to the first one that errs, and the
state that they leave. -/
def ask : List (Checker σ) → σ → List (Except CheckError (List Diagnostic)) × σ
  | [], w => ([], w)
  | c :: rest, w =>
    match c.check t r w with
    | (.error e, w) => ([.error e], w)
    | (.ok found, w) => (.ok found :: (ask rest w).1, (ask rest w).2)

/-- What some answers come to: everything that was found, or the first error. -/
def merge : List (Except CheckError (List Diagnostic)) → Except CheckError (List Diagnostic)
  | [] => .ok []
  | .error e :: _ => .error e
  | .ok found :: rest => (merge rest).map (found ++ ·)

/-- The calls of the checkers that were asked. -/
def callsOf (cs : List (Checker σ)) (asked : Nat) : List Call :=
  (cs.take asked).map fun c => .check c.name t r

/-- If no checker has erred, then everything that was found is put together in order. -/
theorem merge_found (found : List (List Diagnostic)) :
    merge (found.map .ok) = .ok found.flatten := by
  induction found with
  | nil => rfl
  | cons first rest ih =>
    rw [List.map_cons, merge, ih]
    rfl

/-- If the last checker has erred, then its error counts. -/
theorem merge_erred (found : List (List Diagnostic)) (e : CheckError) :
    merge (found.map .ok ++ [.error e]) = .error e := by
  induction found with
  | nil => rfl
  | cons first rest ih =>
    rw [List.map_cons, List.cons_append, merge, ih]
    rfl

/-- Either all checkers are asked and none errs, or the last one that is asked errs and no other
does.  Induction on the checkers. -/
theorem ask_cases : ∀ (cs : List (Checker σ)) (w : σ),
    (∃ found : List (List Diagnostic), (ask t r cs w).1 = found.map .ok ∧
      found.length = cs.length) ∨
    ∃ (found : List (List Diagnostic)) (e : CheckError),
      (ask t r cs w).1 = found.map .ok ++ [.error e] ∧ found.length < cs.length := by
  intro cs
  induction cs with
  | nil =>
    intro w
    exact .inl ⟨[], rfl, rfl⟩
  | cons c rest ih =>
    intro w
    rw [ask]
    cases c.check t r w with
    | mk answer w' =>
      cases answer with
      | error e => exact .inr ⟨[], e, rfl, Nat.succ_pos _⟩
      | ok first =>
        rcases ih w' with ⟨found, hfound, hlen⟩ | ⟨found, e, hfound, hlen⟩
        · exact .inl ⟨first :: found, congrArg (.ok first :: ·) hfound, congrArg (· + 1) hlen⟩
        · exact .inr ⟨first :: found, e, congrArg (.ok first :: ·) hfound, Nat.succ_lt_succ hlen⟩

/-- The answers of checkers none of which errs do not end with an error. -/
theorem found_ne_erred (found found' : List (List Diagnostic)) (e : CheckError) :
    (found.map .ok : List (Except CheckError (List Diagnostic))) ≠ found'.map .ok ++
      [.error e] := by
  intro h
  have hmem : (.error e : Except CheckError (List Diagnostic)) ∈ found.map .ok := by
    rw [h]
    exact List.mem_append_right _ (List.mem_singleton_self _)
  obtain ⟨ds, -, hds⟩ := List.mem_map.mp hmem
  cases hds

/-- If no checker errs, then all are asked. -/
theorem length_of_found {cs : List (Checker σ)} {w : σ} {found : List (List Diagnostic)}
    (h : (ask t r cs w).1 = found.map .ok) : found.length = cs.length := by
  rcases ask_cases t r cs w with ⟨found', hfound, hlen⟩ | ⟨found', e, hfound, -⟩
  · have hsame := congrArg List.length (h.symm.trans hfound)
    rw [List.length_map, List.length_map] at hsame
    exact hsame.trans hlen
  · exact absurd (h.symm.trans hfound) (found_ne_erred _ _ _)

/-- The first checker is asked first, and the others only if it does not err. -/
theorem checkAll_cons (c : Checker σ) (rest : List (Checker σ)) (w : σ) :
    checkAll t r (c :: rest) w = match c.check t r w with
      | (.error e, w) => (.error e, w)
      | (.ok found, w) => ((checkAll t r rest w).1.map (found ++ ·), (checkAll t r rest w).2) := by
  rw [checkAll, bind_apply]
  cases c.check t r w with
  | mk answer w' => cases answer <;> rfl

/-- Asking the checkers of a test adds a call for each one that is asked.  Induction on the
checkers. -/
theorem checkAll_logged : ∀ (cs : List (Checker σ)) (s : ExecutorState σ),
    checkAll t r (cs.map Executor.logged) s = (merge (ask t r cs s.world).1,
      s.after (callsOf t r cs (ask t r cs s.world).1.length) (ask t r cs s.world).2) := by
  intro cs
  induction cs with
  | nil =>
    intro s
    exact congrArg (Prod.mk _) s.after_nil.symm
  | cons c rest ih =>
    intro s
    have hcall : (Executor.logged c).check t r s =
        ((c.check t r s.world).1, s.after [.check c.name t r] (c.check t r s.world).2) := rfl
    rw [List.map_cons, checkAll_cons, hcall, ask]
    cases c.check t r s.world with
    | mk answer w =>
      cases answer with
      | error e => rfl
      | ok found =>
        simp only [ih, ExecutorState.after_after, ExecutorState.world_after]
        rfl

end Checker

/-! ## Providers -/

/-- What a test may need before its request is sent, and the provider that is asked for it: the call
that this is, what it means that there is no provider, and what it means that the provider
refuses. -/
structure Provision (σ ε : Type) where
  needed : Bool
  provider : Option (StateM σ (Except ε Unit))
  call : Call
  missing : RunFault
  refused : ε → RunFault

namespace Provision

variable {σ ε : Type} (p : Provision σ ε)

/-- Why what is needed is not provided. -/
inductive Fault (w : σ) : RunFault → Prop where
  | missing (needed : p.needed = true) (provider : p.provider = none) : Fault w p.missing
  | refused {act : StateM σ (Except ε Unit)} {e : ε} (needed : p.needed = true)
    (provider : p.provider = some act) (answer : (act w).1 = .error e) : Fault w (p.refused e)

/-- What is needed is provided. -/
def Ready (w : σ) : Prop := ∀ cause, ¬ p.Fault w cause

/-- The provider is called if it is needed and there is one. -/
def calls : List Call := if p.needed && p.provider.isSome then [p.call] else []

/-- The state that the provider leaves. -/
def left (w : σ) : σ :=
  match p.provider with
  | some act => if p.needed then (act w).2 else w
  | none => w

/-- Asks the provider if this is needed. -/
def run : StateM (ExecutorState σ) (Except RunFault Unit) :=
  if p.needed then
    match p.provider with
    | none => pure (.error p.missing)
    | some act => do
      let r ← Executor.call p.call act
      return r.mapError p.refused
  else pure (.ok ())

/-- What is not needed need not be provided. -/
theorem ready_of_unneeded {p : Provision σ ε} {w : σ} (hunneeded : p.needed = false) :
    p.Ready w := by
  intro cause h
  cases h with
  | missing needed => rw [hunneeded] at needed; cases needed
  | refused needed => rw [hunneeded] at needed; cases needed

/-- The answer comes with the calls and the state of the provider; it is an error for the faults,
and only for them. -/
theorem run_spec (s : ExecutorState σ) : ∃ answer,
    p.run s = (answer, s.after p.calls (p.left s.world)) ∧
    ((answer = .ok () ∧ p.Ready s.world) ∨ ∃ cause, answer = .error cause ∧
      p.Fault s.world cause) := by
  rw [run, calls, left]
  cases hneeded : p.needed with
  | false =>
    refine ⟨.ok (), ?_, .inl ⟨rfl, ready_of_unneeded hneeded⟩⟩
    cases p.provider <;> exact congrArg (Prod.mk _) s.after_nil.symm
  | true =>
    cases hprovider : p.provider with
    | none =>
      exact ⟨.error p.missing, congrArg (Prod.mk _) s.after_nil.symm,
        .inr ⟨_, rfl, .missing hneeded hprovider⟩⟩
    | some act =>
      refine ⟨(act s.world).1.mapError p.refused, rfl, ?_⟩
      cases hanswer : (act s.world).1 with
      | error e => exact .inr ⟨_, rfl, .refused hneeded hprovider hanswer⟩
      | ok u =>
        refine .inl ⟨rfl, ?_⟩
        intro cause h
        cases h with
        | missing _ provider => rw [hprovider] at provider; cases provider
        | refused _ provider answer =>
          rw [hprovider] at provider
          cases provider
          rw [hanswer] at answer
          cases answer

/-- There is one fault at most. -/
theorem Fault.unique {p : Provision σ ε} {w : σ} {c c' : RunFault} (h : p.Fault w c)
    (h' : p.Fault w c') : c = c' := by
  cases h with
  | missing _ hprovider =>
    cases h' with
    | missing => rfl
    | refused _ hprovider' => rw [hprovider] at hprovider'; cases hprovider'
  | refused _ hprovider hanswer =>
    cases h' with
    | missing _ hprovider' => rw [hprovider] at hprovider'; cases hprovider'
    | refused _ hprovider' hanswer' =>
      rw [hprovider] at hprovider'
      cases hprovider'
      rw [hanswer] at hanswer'
      cases hanswer'
      rfl

/-- What is ready is provided. -/
theorem run_of_ready {p : Provision σ ε} {s : ExecutorState σ} (h : p.Ready s.world) :
    p.run s = (.ok (), s.after p.calls (p.left s.world)) := by
  obtain ⟨answer, hrun, ⟨rfl, -⟩ | ⟨cause, -, hfault⟩⟩ := p.run_spec s
  · exact hrun
  · exact absurd hfault (h cause)

/-- A fault ends in its error. -/
theorem run_of_fault {p : Provision σ ε} {s : ExecutorState σ} {cause : RunFault}
    (h : p.Fault s.world cause) : p.run s = (.error cause, s.after p.calls (p.left s.world)) := by
  obtain ⟨answer, hrun, ⟨-, hready⟩ | ⟨cause', rfl, hfault⟩⟩ := p.run_spec s
  · exact absurd h (hready cause)
  · rw [h.unique hfault]
    exact hrun

/-- There is a fault, or what is needed is provided. -/
theorem fault_or_ready (w : σ) : (∃ cause, p.Fault w cause) ∨ p.Ready w := by
  by_cases h : ∃ cause, p.Fault w cause
  · exact .inl h
  · exact .inr fun cause hfault => h ⟨cause, hfault⟩

end Provision

end Assay
