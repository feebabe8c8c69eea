import Assay.Proofs.Outputs

/-
  The life of the outputs of a run.

  Sinks may be added, reports handed out and the outputs finalized in any order and any number of
  times (`Operation`), until the outputs are given up.  What comes of this is read off the log of
  calls in two ways: the reports that one sink has received (`heard`), and the sinks that have been
  finalized (`ended`).

  A single operation adds to one of these or to neither, so each is described by one lemma about a
  call list and one induction on the operations.

  1. What a sink receives.  A sink that is there receives every report that is handed out, and one
     that comes later receives those that are handed out after it has been added (`heard_perform`).

  2. What is finalized.  The state has one flag that matters: before the first finalization nothing
     is ended (`perform_unfinalized`), and after it nothing more is (`perform_finalized`).  Giving
     the outputs up finalizes them if nothing else has (`drop_calls`).

  3. Replaying the log.  A log is only worth something if its calls are really made.  So it is
     replayed: each of its calls is made to the sink that it names (`replay`), and the world that
     comes of this is the world that the outputs have (`Faithful`).  Each operation keeps this, a
     sink that is added because the calls before name other sinks (`replay_append_sink`), and a
     report or the end because what they do to the world is what they log (`replay_receives`,
     `replay_finalizes`).

  4. The whole life.  The operations are cut at the first one that finalizes
     (`eq_unfinalized_append`), and `finalization_of_lifetime` says what happens there and that
     nothing is finalized behind it.  `lifetime_of_outputs` puts all of this together for any
     operations with a drop behind them, whatever the sinks do: they may fail and they may panic.
-/

/-- The place of the sink that is called. -/
def Assay.SinkCall.place : Assay.SinkCall → Nat
  | .receive i _ => i
  | .finalize i => i

namespace Assay.Outputs

variable {ω : Type}

/-! ## Operations -/

/-- What can be done with outputs before they are given up. -/
inductive Operation (ω : Type) where
  | add (sink : Sink ω)
  | dispatch (report : TestReport)
  | finalize

namespace Operation

/-- The sink that is added. -/
def sink? : Operation ω → Option (Sink ω)
  | add s => some s
  | _ => none

/-- The report that is handed out. -/
def report? : Operation ω → Option TestReport
  | dispatch r => some r
  | _ => none

/-- The operation finalizes the outputs. -/
def isFinalize : Operation ω → Bool
  | finalize => true
  | _ => false

/-- The sinks that some operations add, in order. -/
def added (ops : List (Operation ω)) : List (Sink ω) := ops.filterMap sink?

/-- The reports that some operations hand out, in order. -/
def dispatched (ops : List (Operation ω)) : List TestReport := ops.filterMap report?

/-- The operations before the first one that finalizes. -/
def unfinalized (ops : List (Operation ω)) : List (Operation ω) :=
  ops.takeWhile fun op => !op.isFinalize

/-- The operations after a sink has been added; the sink is named by its place among those that
are. -/
def afterAdding : Nat → List (Operation ω) → List (Operation ω)
  | _, [] => []
  | 0, add _ :: rest => rest
  | k + 1, add _ :: rest => afterAdding k rest
  | k, dispatch _ :: rest => afterAdding k rest
  | k, finalize :: rest => afterAdding k rest

end Operation

open Operation

/-- Carries out some operations; what each finalization returns is kept. -/
def perform : List (Operation ω) → Outputs ω → List (Option FinalizeError) × Outputs ω
  | [], o => ([], o)
  | .add s :: rest, o => perform rest (o.add s)
  | .dispatch r :: rest, o => perform rest (o.dispatch r)
  | .finalize :: rest, o =>
    (o.finalize.1 :: (perform rest o.finalize.2).1, (perform rest o.finalize.2).2)

/-- Operations after operations are carried out on what these have left. -/
theorem perform_append (xs ys : List (Operation ω)) : ∀ o : Outputs ω,
    perform (xs ++ ys) o = ((perform xs o).1 ++ (perform ys (perform xs o).2).1,
      (perform ys (perform xs o).2).2) := by
  induction xs with
  | nil => exact fun _ => rfl
  | cons op rest ih =>
    intro o
    cases op with
    | add s => exact ih _
    | dispatch r => exact ih _
    | finalize =>
      rw [List.cons_append, perform, ih]
      rfl

/-! ## Reading the log -/

/-- The reports that a sink has received. -/
def heard (k : Nat) (calls : List SinkCall) : List TestReport :=
  calls.filterMap fun c => match c with
    | .receive i r => if i = k then some r else none
    | .finalize _ => none

/-- The sinks that have been finalized, in order. -/
def ended (calls : List SinkCall) : List Nat :=
  calls.filterMap fun c => match c with
    | .receive _ _ => none
    | .finalize i => some i

/-- What a sink has received is told by all parts of a log, in order. -/
@[simp] theorem heard_append (k : Nat) (xs ys : List SinkCall) :
    heard k (xs ++ ys) = heard k xs ++ heard k ys := List.filterMap_append

/-- So is which sinks have been finalized. -/
@[simp] theorem ended_append (xs ys : List SinkCall) : ended (xs ++ ys) = ended xs ++ ended ys :=
  List.filterMap_append

/-- No report is received while sinks are finalized. -/
@[simp] theorem heard_finalizes (k count : Nat) : heard k (finalizes count) = [] := by
  simp [heard, finalizes]

/-- Finalizing ends every sink, in order. -/
@[simp] theorem ended_finalizes (count : Nat) : ended (finalizes count) = List.range count := by
  rw [ended, finalizes, List.filterMap_map]
  exact List.filterMap_some

@[simp] theorem ended_receives (count : Nat) (r : TestReport) : ended (receives count r) = [] := by
  simp [ended, receives]

/-- A report reaches each sink once. -/
@[simp] theorem heard_receives (k count : Nat) (r : TestReport) :
    heard k (receives count r) = if k < count then [r] else [] := by
  induction count with
  | zero => rfl
  | succ n ih =>
    have hsucc : receives (n + 1) r = receives n r ++ [.receive n r] := by
      simp [receives, List.range_succ]
    rw [hsucc, heard_append, ih]
    rcases Nat.lt_trichotomy k n with h | rfl | h
    · simp [heard, h, Nat.lt_succ_of_lt h, Nat.ne_of_gt h]
    · simp [heard]
    · simp [heard, Nat.not_lt_of_gt h, Nat.ne_of_lt h, show ¬ k < n + 1 by omega]

/-- Some reports reach each sink in order. -/
@[simp] theorem heard_flatMap_receives (k count : Nat) (rs : List TestReport) :
    heard k (rs.flatMap (receives count)) = if k < count then rs else [] := by
  induction rs with
  | nil => exact (ite_self _).symm
  | cons r rest ih =>
    rw [List.flatMap_cons, heard_append, heard_receives, ih]
    split <;> rfl

/-! ## What a sink receives -/

/-- Finalizing hands out no report. -/
@[simp] theorem heard_calls_finalize (k : Nat) (o : Outputs ω) :
    heard k o.finalize.2.calls = heard k o.calls := by
  cases h : o.finalized with
  | true => rw [finalize_of_finalized h]
  | false => rw [finalize_calls h, heard_append, heard_finalizes, List.append_nil]

/-- Nor does giving up. -/
@[simp] theorem heard_calls_drop (k : Nat) (o : Outputs ω) :
    heard k o.drop.calls = heard k o.calls := by
  rw [drop]
  split
  · exact heard_calls_finalize k o
  · rfl

/-- A sink that is there receives every report, and one that comes later receives the reports that
are handed out after it has been added.  Induction on the operations; the sinks that are there
grow. -/
theorem heard_perform (k : Nat) : ∀ (ops : List (Operation ω)) (o : Outputs ω),
    heard k (perform ops o).2.calls = heard k o.calls ++
      if k < o.sinks.length then dispatched ops else
        dispatched (afterAdding (k - o.sinks.length) ops) := by
  intro ops
  induction ops with
  | nil =>
    intro o
    rw [afterAdding]
    split <;> exact (List.append_nil _).symm
  | cons op rest ih =>
    intro o
    cases op with
    | add s =>
      have hlen : (o.add s).sinks.length = o.sinks.length + 1 := List.length_append
      rw [perform, ih, hlen]
      refine congrArg _ ?_
      rcases Nat.lt_trichotomy k o.sinks.length with h | h | h
      · rw [if_pos (Nat.lt_succ_of_lt h), if_pos h]
        rfl
      · -- This is the sink that has just been added.
        rw [if_pos (by omega), if_neg (by omega), h, Nat.sub_self, afterAdding]
      · have hk : k - o.sinks.length = (k - (o.sinks.length + 1)) + 1 := by omega
        rw [if_neg (by omega), if_neg (by omega), hk, afterAdding]
    | dispatch r =>
      rw [perform, ih, dispatch_sinks, dispatch_calls, heard_append, heard_receives,
        List.append_assoc]
      refine congrArg _ ?_
      by_cases h : k < o.sinks.length
      · rw [if_pos h, if_pos h, if_pos h]
        rfl
      · rw [if_neg h, if_neg h, if_neg h, afterAdding]
        rfl
    | finalize =>
      rw [perform, ih, finalize_sinks, heard_calls_finalize, afterAdding]
      rfl

/-! ## What is finalized -/

/-- Once the outputs are finalized nothing is finalized again, and every further finalization
returns no failure. -/
theorem perform_finalized : ∀ (ops : List (Operation ω)) (o : Outputs ω), o.finalized = true →
    (∀ r ∈ (perform ops o).1, r = none) ∧ (perform ops o).2.finalized = true ∧
    ∃ later, (perform ops o).2.calls = o.calls ++ later ∧ ended later = [] := by
  intro ops
  induction ops with
  | nil =>
    intro o h
    exact ⟨fun _ hr => absurd hr List.not_mem_nil, h, [], (List.append_nil _).symm, rfl⟩
  | cons op rest ih =>
    intro o h
    cases op with
    | add s => exact ih (o.add s) h
    | dispatch r =>
      obtain ⟨hnone, hfinal, later, hcalls, hlater⟩ :=
        ih (o.dispatch r) ((dispatch_finalized o r).trans h)
      refine ⟨hnone, hfinal, receives o.sinks.length r ++ later, ?_, ?_⟩
      · rw [perform, hcalls, dispatch_calls, List.append_assoc]
      · rw [ended_append, ended_receives, hlater, List.append_nil]
    | finalize =>
      rw [perform, finalize_of_finalized h]
      obtain ⟨hnone, hfinal, hlater⟩ := ih o h
      refine ⟨fun r hr => ?_, hfinal, hlater⟩
      rcases List.mem_cons.mp hr with rfl | hr
      · rfl
      · exact hnone r hr

/-- Before the first finalization no sink is ended. -/
theorem perform_unfinalized : ∀ (ops : List (Operation ω)) (o : Outputs ω),
    (∀ op ∈ ops, op.isFinalize = false) →
    (perform ops o).1 = [] ∧ (perform ops o).2.finalized = o.finalized ∧
    ended (perform ops o).2.calls = ended o.calls := by
  intro ops
  induction ops with
  | nil => exact fun o _ => ⟨rfl, rfl, rfl⟩
  | cons op rest ih =>
    intro o h
    have hrest : ∀ op ∈ rest, op.isFinalize = false :=
      fun op hop => h op (List.mem_cons_of_mem _ hop)
    cases op with
    | add s => exact ih (o.add s) hrest
    | dispatch r =>
      obtain ⟨hnone, hfinal, hended⟩ := ih (o.dispatch r) hrest
      rw [dispatch_finalized] at hfinal
      rw [dispatch_calls, ended_append, ended_receives, List.append_nil] at hended
      exact ⟨hnone, hfinal, hended⟩
    | finalize => exact absurd (h .finalize List.mem_cons_self) Bool.noConfusion

/-- The sinks are those that have been added, in order. -/
theorem sinks_perform_append : ∀ (ops : List (Operation ω)) (o : Outputs ω),
    (perform ops o).2.sinks = o.sinks ++ added ops := by
  intro ops
  induction ops with
  | nil => exact fun _ => (List.append_nil _).symm
  | cons op rest ih =>
    intro o
    cases op with
    | add s =>
      rw [perform, ih]
      exact List.append_assoc _ _ _
    | dispatch r =>
      rw [perform, ih, dispatch_sinks]
      rfl
    | finalize =>
      rw [perform, ih, finalize_sinks]
      rfl

theorem sinks_perform (ops : List (Operation ω)) (world : ω) :
    (perform ops (start world)).2.sinks = added ops := sinks_perform_append ops (start world)

/-- Giving the outputs up adds no sink and loses none. -/
@[simp] theorem drop_sinks (o : Outputs ω) : o.drop.sinks = o.sinks := by
  rw [drop]
  split
  · exact finalize_sinks o
  · rfl

/-- Operations go on with a finalization, or there is none. -/
theorem eq_unfinalized_append (ops : List (Operation ω)) :
    (∀ op ∈ unfinalized ops, op.isFinalize = false) ∧
    (unfinalized ops = ops ∨ ∃ rest, ops = unfinalized ops ++ .finalize :: rest) := by
  induction ops with
  | nil => exact ⟨fun _ h => absurd h List.not_mem_nil, .inl rfl⟩
  | cons op rest ih =>
    obtain ⟨hopen, hsplit⟩ := ih
    cases h : op.isFinalize with
    | true =>
      have hop : op = .finalize := by
        cases op with
        | finalize => rfl
        | add s => cases h
        | dispatch r => cases h
      subst hop
      exact ⟨fun _ hmem => absurd hmem List.not_mem_nil, .inr ⟨rest, rfl⟩⟩
    | false =>
      have hcons : unfinalized (op :: rest) = op :: unfinalized rest := by
        rw [unfinalized, List.takeWhile_cons, h]
        rfl
      rw [hcons]
      refine ⟨?_, ?_⟩
      · intro op' hmem
        rcases List.mem_cons.mp hmem with rfl | hmem
        · exact h
        · exact hopen op' hmem
      · rcases hsplit with hsame | ⟨more, hmore⟩
        · exact .inl (congrArg (op :: ·) hsame)
        · exact .inr ⟨more, congrArg (op :: ·) hmore⟩

/-- As many results are kept as there were finalizations. -/
theorem length_perform : ∀ (ops : List (Operation ω)) (o : Outputs ω),
    (perform ops o).1.length = ops.countP Operation.isFinalize := by
  intro ops
  induction ops with
  | nil => exact fun _ => rfl
  | cons op rest ih =>
    intro o
    cases op with
    | add s => exact ih _
    | dispatch r => exact ih _
    | finalize =>
      rw [perform, List.length_cons, ih, List.countP_cons]
      rfl

/-- Giving up outputs that have not been finalized finalizes each sink. -/
theorem drop_calls {o : Outputs ω} (h : o.finalized = false) :
    o.drop.calls = o.calls ++ finalizes o.sinks.length := by
  rw [← finalize_calls h, drop, h]
  cases hsinks : o.sinks with
  | cons s rest => rfl
  | nil =>
    rw [finalize_calls h, hsinks]
    exact (List.append_nil _).symm

/-! ## Replaying the log -/

/-- The world after a call to one of some sinks. -/
def replayCall (sinks : List (Sink ω)) (w : ω) : SinkCall → ω
  | .receive i r => (sinks[i]?).elim w fun s => (s.receive r w).2
  | .finalize i => (sinks[i]?).elim w fun s => (s.finalize w).2

/-- The world after some calls to some sinks, one after the other. -/
def replay (sinks : List (Sink ω)) (calls : List SinkCall) (w : ω) : ω :=
  calls.foldl (replayCall sinks) w

/-- A log is replayed part by part. -/
theorem replay_append (sinks : List (Sink ω)) (xs ys : List SinkCall) (w : ω) :
    replay sinks (xs ++ ys) w = replay sinks ys (replay sinks xs w) := List.foldl_append

/-- One call to each of some sinks is replayed from the place of the first one.  Induction on the
sinks. -/
theorem replay_each {call : Nat → SinkCall} {act : Sink ω → ω → ω}
    (hcall : ∀ (sinks : List (Sink ω)) (w : ω) (i : Nat),
      replayCall sinks w (call i) = (sinks[i]?).elim w fun s => act s w) :
    ∀ (rest before : List (Sink ω)) (w : ω),
      replay (before ++ rest) ((List.range' before.length rest.length).map call) w =
        rest.foldl (fun w s => act s w) w := by
  intro rest
  induction rest with
  | nil => exact fun _ _ => rfl
  | cons s rest ih =>
    intro before w
    have hnext := ih (before ++ [s]) (act s w)
    rw [List.append_assoc, List.length_append, List.singleton_append, List.length_singleton]
      at hnext
    have hfirst : replayCall (before ++ s :: rest) w (call before.length) = act s w := by
      rw [hcall, List.getElem?_append_right (Nat.le_refl _), Nat.sub_self]
      rfl
    rw [List.length_cons, List.range'_succ, List.map_cons, replay, List.foldl_cons, hfirst]
    exact hnext

/-- Handing a report to all sinks is replayed as it was done. -/
theorem replay_receives (sinks : List (Sink ω)) (r : TestReport) (w : ω) :
    replay sinks (receives sinks.length r) w = receivedBy sinks r w := by
  rw [receives, List.range_eq_range']
  exact replay_each (fun _ _ _ => rfl) sinks [] w

/-- Finalizing all sinks is replayed as it was done. -/
theorem replay_finalizes (sinks : List (Sink ω)) (w : ω) :
    replay sinks (finalizes sinks.length) w = finalizedBy sinks w := by
  rw [finalizes, List.range_eq_range']
  exact replay_each (fun _ _ _ => rfl) sinks [] w

/-- Calls to sinks that are there are replayed in the same way when one more sink is added. -/
theorem replay_append_sink {sinks : List (Sink ω)} (s : Sink ω) : ∀ {calls : List SinkCall} (w : ω),
    (∀ c ∈ calls, c.place < sinks.length) →
    replay (sinks ++ [s]) calls w = replay sinks calls w := by
  intro calls
  induction calls with
  | nil => exact fun _ _ => rfl
  | cons c rest ih =>
    intro w h
    obtain ⟨hfirst, hothers⟩ := List.forall_mem_cons.mp h
    have hcall : replayCall (sinks ++ [s]) w c = replayCall sinks w c := by
      cases c <;> exact congrArg (fun o => Option.elim o _ _) (List.getElem?_append_left hfirst)
    rw [replay, List.foldl_cons, hcall]
    exact ih _ hothers

/-- The log of the outputs tells what has been done to the world: its calls name sinks that are
there, and replaying them leads to the world that is there. -/
structure Faithful (o : Outputs ω) (world : ω) : Prop where
  places : ∀ c ∈ o.calls, c.place < o.sinks.length
  world : o.world = replay o.sinks o.calls world

/-- A report is handed to sinks that are there. -/
theorem place_of_mem_receives {count : Nat} {r : TestReport} {c : SinkCall}
    (h : c ∈ receives count r) : c.place < count := by
  obtain ⟨i, hi, rfl⟩ := List.mem_map.mp h
  exact List.mem_range.mp hi

/-- Sinks that are finalized are there. -/
theorem place_of_mem_finalizes {count : Nat} {c : SinkCall} (h : c ∈ finalizes count) :
    c.place < count := by
  obtain ⟨i, hi, rfl⟩ := List.mem_map.mp h
  exact List.mem_range.mp hi

namespace Faithful

variable {o : Outputs ω} {world : ω}

/-- A sink that is added does not change what has been done. -/
theorem add (h : o.Faithful world) (s : Sink ω) : (o.add s).Faithful world where
  places := by
    intro c hc
    have hlen : (o.add s).sinks.length = o.sinks.length + 1 := List.length_append
    rw [hlen]
    exact Nat.lt_succ_of_lt (h.places c hc)
  world := h.world.trans (replay_append_sink s world h.places).symm

/-- Handing out a report does what it logs. -/
theorem dispatch (h : o.Faithful world) (r : TestReport) : (o.dispatch r).Faithful world where
  places := by
    rw [dispatch_calls, dispatch_sinks]
    exact List.forall_mem_append.mpr ⟨h.places, fun c => place_of_mem_receives⟩
  world := by
    rw [dispatch_world, dispatch_sinks, dispatch_calls, replay_append, ← h.world, replay_receives]

/-- Finalizing does what it logs. -/
theorem finalize (h : o.Faithful world) : o.finalize.2.Faithful world := by
  cases hfinal : o.finalized with
  | true =>
    rw [finalize_of_finalized hfinal]
    exact h
  | false =>
    constructor
    · rw [finalize_calls hfinal, finalize_sinks]
      exact List.forall_mem_append.mpr ⟨h.places, fun c => place_of_mem_finalizes⟩
    · rw [finalize_world hfinal, finalize_sinks, finalize_calls hfinal, replay_append, ← h.world,
        replay_finalizes]

/-- Giving the outputs up does what it logs. -/
theorem drop (h : o.Faithful world) : o.drop.Faithful world := by
  rw [Outputs.drop]
  split
  · exact h.finalize
  · exact h

/-- All operations keep the log faithful.  Induction on the operations. -/
theorem perform (ops : List (Operation ω)) : ∀ {o : Outputs ω}, o.Faithful world →
    (perform ops o).2.Faithful world := by
  induction ops with
  | nil => exact fun h => h
  | cons op rest ih =>
    intro o h
    cases op with
    | add s => exact ih (h.add s)
    | dispatch r => exact ih (h.dispatch r)
    | finalize => exact ih h.finalize

end Faithful

/-! ## The whole life -/

/-- The outputs when they are finalized for the first time, or given up without that. -/
def atFirstFinalize (ops : List (Operation ω)) (world : ω) : Outputs ω :=
  (perform (unfinalized ops) (start world)).2

/-- What the first finalization does to the log and which results are returned: the sinks that are
there are finalized in one go, each once, and nothing is finalized before or after. -/
theorem finalization_of_lifetime (ops : List (Operation ω)) (world : ω) :
    (∃ later, (perform ops (start world)).2.drop.calls =
        (atFirstFinalize ops world).calls ++ finalizes (added (unfinalized ops)).length ++ later ∧
      ended (atFirstFinalize ops world).calls = [] ∧ ended later = []) ∧
    (∀ first ∈ (perform ops (start world)).1.head?,
      first = firstFailing (added (unfinalized ops)) (atFirstFinalize ops world).world) ∧
    ∀ further ∈ (perform ops (start world)).1.tail, further = none := by
  obtain ⟨hopen, hsplit⟩ := eq_unfinalized_append ops
  obtain ⟨hnone, hfinal, hended⟩ := perform_unfinalized (unfinalized ops) (start world) hopen
  have hfinal : (atFirstFinalize ops world).finalized = false := hfinal
  have hsinks : (atFirstFinalize ops world).sinks = added (unfinalized ops) :=
    sinks_perform (unfinalized ops) world
  rcases hsplit with hsame | ⟨rest, hrest⟩
  · -- The outputs are given up without having been finalized.
    have hreached : perform ops (start world) = ([], atFirstFinalize ops world) := by
      rw [atFirstFinalize, ← hnone, hsame]
    rw [hreached]
    refine ⟨⟨[], ?_, hended, rfl⟩, ?_, ?_⟩
    · rw [drop_calls hfinal, hsinks, List.append_nil]
    · intro first hfirst
      cases hfirst
    · intro further hfurther
      cases hfurther
  · have hperform : perform ops (start world) =
        ((atFirstFinalize ops world).finalize.1 ::
          (perform rest (atFirstFinalize ops world).finalize.2).1,
          (perform rest (atFirstFinalize ops world).finalize.2).2) := by
      refine (congrArg (fun xs => perform xs (start world)) hrest).trans ?_
      rw [perform_append, hnone]
      rfl
    obtain ⟨hfurther, hdone, later, hlater, hlate⟩ :=
      perform_finalized rest _ (finalize_finalized (atFirstFinalize ops world))
    rw [hperform]
    refine ⟨⟨later, ?_, hended, hlate⟩, ?_, hfurther⟩
    · rw [drop_of_finalized hdone, hlater, finalize_calls hfinal, hsinks]
    · intro first hfirst
      cases hfirst
      rw [finalize_failure hfinal, hsinks]

/-- The life of outputs, whatever is done with them and whatever the sinks do.  Each sink receives
every report that is handed out after it has been added, once and in order.  The sinks that are
there when the outputs are finalized for the first time, or given up, are finalized in order and in
one go, each of them once; no sink is finalized at any other time.  Each finalization returns a
result: the first one the failure of the first sink that fails or panics, and every other one none.
The calls of the log are really made: replayed one after the other, they lead from the first world
to the last one. -/
theorem lifetime_of_outputs (ops : List (Operation ω)) (world : ω) :
    let outcome := perform ops (start world)
    let present := added (unfinalized ops)
    (∀ k, heard k outcome.2.drop.calls = dispatched (afterAdding k ops)) ∧
    ended outcome.2.drop.calls = List.range present.length ∧
    (∃ later, outcome.2.drop.calls =
        (atFirstFinalize ops world).calls ++ finalizes present.length ++ later ∧
      ended (atFirstFinalize ops world).calls = [] ∧ ended later = []) ∧
    outcome.1.length = ops.countP Operation.isFinalize ∧
    (∀ first ∈ outcome.1.head?, first = firstFailing present (atFirstFinalize ops world).world) ∧
    (∀ further ∈ outcome.1.tail, further = none) ∧
    outcome.2.drop.world = replay (added ops) outcome.2.drop.calls world := by
  obtain ⟨⟨later, hcalls, hearly, hlate⟩, hfirst, hfurther⟩ := finalization_of_lifetime ops world
  refine ⟨fun k => ?_, ?_, ⟨later, hcalls, hearly, hlate⟩, length_perform ops _, hfirst,
    hfurther, ?_⟩
  · have hnone : ¬ k < (start world).sinks.length := Nat.not_lt_zero k
    rw [heard_calls_drop, heard_perform, if_neg hnone]
    rfl
  · rw [hcalls, ended_append, ended_append, hearly, hlate, ended_finalizes, List.append_nil]
    rfl
  · have hstart : (start world).Faithful world := ⟨List.forall_mem_nil _, rfl⟩
    rw [← sinks_perform, ← drop_sinks]
    exact (hstart.perform ops).drop.world

end Assay.Outputs
