import Assay.Output.Sink

/-
  What is called when a report goes to all sinks, and when they are finalized.

  Neither depends on what the sinks do: a sink that panics or fails changes the state that the next
  one finds, but not whether the next one is called.  So the calls are known in advance (`receives`,
  `finalizes`), and the state is that of the sinks applied one after the other (`receivedBy`,
  `finalizedBy`).

  Handing out a report and finalizing go through the sinks by a place that grows, and note each call
  in the same step in which they make it.  Each is described by one lemma about any first place, by
  induction on the sinks (`dispatchFrom_spec`, `finalizeFrom_spec`), and the lemmas about whole
  outputs are this one at place zero.  They are tagged for simplification, so that the proofs about
  runs never unfold the code of the outputs again.

  What the sinks do at their end is collected by `endings`; the failure that counts is the first one
  among them (`firstFailing`), a panic counting as a failure.  Sinks that have been finalized are
  not finalized again (`finalize_of_finalized`), and giving them up calls none of them
  (`drop_of_finalized`).
-/

namespace Assay.Outputs

variable {ω : Type}

/-! ## Calls -/

/-- A report is received once by each sink, in order. -/
def receives (count : Nat) (report : TestReport) : List SinkCall :=
  (List.range count).map fun i => .receive i report

/-- Each sink is finalized once, in order. -/
def finalizes (count : Nat) : List SinkCall := (List.range count).map .finalize

/-! ## Handing out a report -/

/-- The first sink receives the report, and then the others. -/
theorem dispatchFrom_cons (report : TestReport) (i : Nat) (s : Sink ω) (rest : List (Sink ω))
    (o : Outputs ω) :
    dispatchFrom report i (s :: rest) o = dispatchFrom report (i + 1) rest
      { o with calls := o.calls ++ [.receive i report], world := (s.receive report o.world).2 } :=
  rfl

/-- The state after some sinks have received a report. -/
def receivedBy (sinks : List (Sink ω)) (report : TestReport) (w : ω) : ω :=
  sinks.foldl (fun w s => (s.receive report w).2) w

/-- The state after some sinks have received some reports. -/
def received (sinks : List (Sink ω)) (reports : List TestReport) (w : ω) : ω :=
  reports.foldl (fun w r => receivedBy sinks r w) w

/-- What a report that is handed to some sinks leaves as it is, and the calls that it adds.
Induction on the sinks; the place of the first one grows. -/
theorem dispatchFrom_spec (report : TestReport) :
    ∀ (sinks : List (Sink ω)) (i : Nat) (o : Outputs ω),
    (dispatchFrom report i sinks o).sinks = o.sinks ∧
    (dispatchFrom report i sinks o).finalized = o.finalized ∧
    (dispatchFrom report i sinks o).world = receivedBy sinks report o.world ∧
    (dispatchFrom report i sinks o).calls =
      o.calls ++ (List.range' i sinks.length).map fun k => .receive k report := by
  intro sinks
  induction sinks with
  | nil =>
    intro i o
    exact ⟨rfl, rfl, rfl, (List.append_nil _).symm⟩
  | cons s rest ih =>
    intro i o
    obtain ⟨hsinks, hfinal, hworld, hcalls⟩ := ih (i + 1)
      { o with calls := o.calls ++ [.receive i report], world := (s.receive report o.world).2 }
    rw [dispatchFrom_cons]
    refine ⟨hsinks, hfinal, hworld, ?_⟩
    rw [hcalls, List.length_cons, List.range'_succ, List.map_cons, List.append_assoc]
    rfl

@[simp] theorem dispatch_sinks (o : Outputs ω) (report : TestReport) :
    (o.dispatch report).sinks = o.sinks := (dispatchFrom_spec report o.sinks 0 o).1

@[simp] theorem dispatch_finalized (o : Outputs ω) (report : TestReport) :
    (o.dispatch report).finalized = o.finalized := (dispatchFrom_spec report o.sinks 0 o).2.1

/-- Handing out a report calls every sink once, in order. -/
@[simp] theorem dispatch_calls (o : Outputs ω) (report : TestReport) :
    (o.dispatch report).calls = o.calls ++ receives o.sinks.length report := by
  rw [receives, List.range_eq_range']
  exact (dispatchFrom_spec report o.sinks 0 o).2.2.2

/-- Handing out a report leaves the state that the sinks leave. -/
@[simp] theorem dispatch_world (o : Outputs ω) (report : TestReport) :
    (o.dispatch report).world = receivedBy o.sinks report o.world :=
  (dispatchFrom_spec report o.sinks 0 o).2.2.1

/-! ## Finalizing -/

/-- What some sinks say when they are finalized one after the other. -/
def endings : List (Sink ω) → ω → List (Except Panic (Except SinkError Unit))
  | [], _ => []
  | s :: rest, w => (s.finalize w).1 :: endings rest (s.finalize w).2

/-- The first of some sinks that fails or panics when they are finalized, and its failure. -/
def firstFailing (sinks : List (Sink ω)) (w : ω) : Option FinalizeError :=
  (sinks.zip (endings sinks w)).findSome? fun e => (settle e.2).map (FinalizeError.mk e.1.name)

/-- The first sink fails first if it fails. -/
theorem firstFailing_cons (s : Sink ω) (rest : List (Sink ω)) (w : ω) :
    firstFailing (s :: rest) w =
      ((settle (s.finalize w).1).map (FinalizeError.mk s.name)).or
        (firstFailing rest (s.finalize w).2) := by
  rw [firstFailing, endings, List.zip_cons_cons, List.findSome?_cons]
  cases settle (s.finalize w).1 with
  | none => rfl
  | some e => rfl

/-- The first sink is finalized, and then the others; a failure that came before stays the first
one. -/
theorem finalizeFrom_cons (i : Nat) (s : Sink ω) (rest : List (Sink ω))
    (first : Option FinalizeError) (o : Outputs ω) :
    finalizeFrom i (s :: rest) first o = finalizeFrom (i + 1) rest
      (first.orElse fun _ => (settle (s.finalize o.world).1).map (FinalizeError.mk s.name))
      { o with calls := o.calls ++ [.finalize i], world := (s.finalize o.world).2 } :=
  rfl

/-- The failure and the calls of finalizing some sinks.  Induction on the sinks; the place of the
first one grows, and a failure that came before stays the first one. -/
theorem finalizeFrom_spec : ∀ (sinks : List (Sink ω)) (i : Nat) (first : Option FinalizeError)
    (o : Outputs ω),
    (finalizeFrom i sinks first o).1 = first.or (firstFailing sinks o.world) ∧
    (finalizeFrom i sinks first o).2.finalized = o.finalized ∧
    (finalizeFrom i sinks first o).2.calls =
      o.calls ++ (List.range' i sinks.length).map .finalize := by
  intro sinks
  induction sinks with
  | nil =>
    intro i first o
    exact ⟨(Option.or_none).symm, rfl, (List.append_nil _).symm⟩
  | cons s rest ih =>
    intro i first o
    obtain ⟨hfirst, hfinal, hcalls⟩ := ih (i + 1)
      (first.orElse fun _ => (settle (s.finalize o.world).1).map (FinalizeError.mk s.name))
      { o with calls := o.calls ++ [.finalize i], world := (s.finalize o.world).2 }
    rw [finalizeFrom_cons]
    refine ⟨?_, hfinal, ?_⟩
    · rw [hfirst, firstFailing_cons]
      cases first with
      | some f => rfl
      | none => rfl
    · rw [hcalls, List.length_cons, List.range'_succ, List.map_cons, List.append_assoc]
      rfl

/-- Finalizing adds no sink and loses none. -/
theorem finalizeFrom_sinks : ∀ (sinks : List (Sink ω)) (i : Nat) (first : Option FinalizeError)
    (o : Outputs ω), (finalizeFrom i sinks first o).2.sinks = o.sinks := by
  intro sinks
  induction sinks with
  | nil => exact fun _ _ _ => rfl
  | cons s rest ih =>
    intro i first o
    rw [finalizeFrom_cons, ih]

/-- The state after some sinks have been finalized. -/
def finalizedBy (sinks : List (Sink ω)) (w : ω) : ω := sinks.foldl (fun w s => (s.finalize w).2) w

/-- Finalizing leaves the state that the sinks leave. -/
theorem finalizeFrom_world : ∀ (sinks : List (Sink ω)) (i : Nat) (first : Option FinalizeError)
    (o : Outputs ω), (finalizeFrom i sinks first o).2.world = finalizedBy sinks o.world := by
  intro sinks
  induction sinks with
  | nil => exact fun _ _ _ => rfl
  | cons s rest ih =>
    intro i first o
    rw [finalizeFrom_cons, ih]
    rfl

section Finalize

variable {o : Outputs ω}

/-- The failure of outputs is that of the first sink that fails. -/
theorem finalize_failure (h : o.finalized = false) :
    o.finalize.1 = firstFailing o.sinks o.world := by
  rw [finalize, h, if_neg Bool.false_ne_true]
  exact (finalizeFrom_spec o.sinks 0 none { o with finalized := true }).1

/-- Finalizing calls every sink once, in order. -/
theorem finalize_calls (h : o.finalized = false) :
    o.finalize.2.calls = o.calls ++ finalizes o.sinks.length := by
  rw [finalize, h, if_neg Bool.false_ne_true, finalizes, List.range_eq_range']
  exact (finalizeFrom_spec o.sinks 0 none { o with finalized := true }).2.2

theorem finalize_world (h : o.finalized = false) :
    o.finalize.2.world = finalizedBy o.sinks o.world := by
  rw [finalize, h, if_neg Bool.false_ne_true]
  exact finalizeFrom_world o.sinks 0 none { o with finalized := true }

/-- Outputs are finalized once this has been done. -/
theorem finalize_finalized (o : Outputs ω) : o.finalize.2.finalized = true := by
  cases h : o.finalized with
  | true =>
    rw [finalize, h, if_pos rfl]
    exact h
  | false =>
    rw [finalize, h, if_neg Bool.false_ne_true]
    exact (finalizeFrom_spec o.sinks 0 none { o with finalized := true }).2.1

@[simp] theorem finalize_sinks (o : Outputs ω) : o.finalize.2.sinks = o.sinks := by
  rw [finalize]
  split
  · rfl
  · exact finalizeFrom_sinks o.sinks 0 none { o with finalized := true }

/-- Sinks that have been finalized are not finalized again, and there is no failure to tell. -/
theorem finalize_of_finalized (h : o.finalized = true) : o.finalize = (none, o) := by
  rw [finalize, if_pos h]

/-- Giving up sinks that have been finalized calls none of them. -/
theorem drop_of_finalized (h : o.finalized = true) : o.drop = o := by
  rw [drop, h]
  rfl

end Finalize

end Assay.Outputs
