import Assay.Files.Tree
import Assay.Report.Basic

/-
  Outputs of a run.

  A sink receives the report of every test and is finalized at the end.  A sink may panic in either;
  a panic stays with the sink that raised it.  `Outputs` is the list of sinks of a run: every report
  goes to all of them in order, and they are finalized once, all of them, whatever happens to some.

  What a sink does changes a state `ω`, the same for all sinks of a run, and `Outputs` carries it
  along with a log of the calls that have been made.  A call and its entry in the log are one step
  (`dispatchFrom`, `finalizeFrom`), so the log cannot tell of a call that was not made.

  A panic at the receipt of a report is passed over by `dispatch`; what the sink has done before it
  panicked stays done.  At the end a panic counts as a failure, with its text (`settle`).
  `finalize` does nothing the second time, and `drop` finalizes what has not been finalized, so that
  a run which is given up leaves no sink open. One report and one end are described in
  `Assay.Proofs.Outputs`, and every sequence of operations in `Assay.Proofs.Lifetime`.
-/

namespace Assay

/-- Why a sink could not write what it received. -/
inductive SinkError where
  | io (error : IoError)
  | serialization (message : String)
  | panicked (message : String)
  deriving DecidableEq, Repr

/-- The wording of such a failure. -/
def SinkError.message : SinkError → String
  | io e => s!"I/O error: {e.message}"
  | serialization m => s!"serialization error: {m}"
  | panicked m => s!"sink panicked: {m}"

/-- A panic, with its text if it has one. -/
structure Panic where
  text : Option String
  deriving DecidableEq, Repr

/-- A sink; what it does changes a state. -/
structure Sink (ω : Type) where
  name : String
  receive : TestReport → StateM ω (Except Panic Unit)
  finalize : StateM ω (Except Panic (Except SinkError Unit))

/-- A call to a sink, which is named by its place in the list. -/
inductive SinkCall where
  | receive (sink : Nat) (report : TestReport)
  | finalize (sink : Nat)
  deriving DecidableEq, Repr

/-- The first failure of some sinks to finalize. -/
structure FinalizeError where
  sink : String
  error : SinkError
  deriving DecidableEq, Repr

/-- The sinks of a run, whether they have been finalized, and the calls made to them. -/
structure Outputs (ω : Type) where
  sinks : List (Sink ω)
  finalized : Bool
  calls : List SinkCall
  world : ω

namespace Outputs

variable {ω : Type}

/-- No sinks yet. -/
def start (world : ω) : Outputs ω := ⟨[], false, [], world⟩

/-- The sinks of a run. -/
def ofSinks (sinks : List (Sink ω)) (world : ω) : Outputs ω := ⟨sinks, false, [], world⟩

/-- One more sink. -/
def add (o : Outputs ω) (s : Sink ω) : Outputs ω := { o with sinks := o.sinks ++ [s] }

/-- Hands a report to some sinks, the first of which has the given place. -/
def dispatchFrom (report : TestReport) : Nat → List (Sink ω) → Outputs ω → Outputs ω
  | _, [], o => o
  | i, s :: rest, o =>
    let (_, world) := s.receive report o.world
    dispatchFrom report (i + 1) rest
      { o with calls := o.calls ++ [.receive i report], world := world }

/-- Hands a report to every sink, in order.  Panics are contained. -/
def dispatch (o : Outputs ω) (report : TestReport) : Outputs ω := dispatchFrom report 0 o.sinks o

/-- What a sink says about its end, a panic turned into a failure. -/
def settle : Except Panic (Except SinkError Unit) → Option SinkError
  | .ok (.ok ()) => none
  | .ok (.error e) => some e
  | .error p => some (.panicked (p.text.getD "unknown panic"))

/-- Finalizes some sinks, the first of which has the given place; the first failure counts. -/
def finalizeFrom :
    Nat → List (Sink ω) → Option FinalizeError → Outputs ω → Option FinalizeError × Outputs ω
  | _, [], first, o => (first, o)
  | i, s :: rest, first, o =>
    let (r, world) := s.finalize o.world
    let failure := (settle r).map fun e => FinalizeError.mk s.name e
    finalizeFrom (i + 1) rest (first.orElse fun _ => failure)
      { o with calls := o.calls ++ [.finalize i], world := world }

/-- Finalizes every sink, in order, unless this has been done before. -/
def finalize (o : Outputs ω) : Option FinalizeError × Outputs ω :=
  if o.finalized then (none, o)
  else finalizeFrom 0 o.sinks none { o with finalized := true }

/-- Gives the sinks up: they are finalized if this has not been done. -/
def drop (o : Outputs ω) : Outputs ω :=
  if !o.finalized && !o.sinks.isEmpty then o.finalize.2 else o

end Outputs

end Assay
