import Assay.Output.Desk

/-
  Sinks that keep a journal.

  A guest notes what it receives in the journal of a desk and does nothing else, or misbehaves as it
  is told to: it panics at some reports or at the end, or fails to finalize.

  A note is made before the panic, so the journal shows every report that a guest was handed, also
  those at which it panicked.  The texts in the journal have the name of the guest in front, the
  name of the test and the kind of its outcome, or `finalize` at the end.
-/

namespace Assay

/-- A sink that notes its reports: its name, whether it notes its end too, the tests at whose
reports it panics, and how its end fails. -/
structure Guest where
  name : String
  notesEnd : Bool
  panicAt : List String
  panicAtEnd : Option Panic
  failAtEnd : Option SinkError
  deriving Repr

namespace Guest

/-- A guest that notes its reports and never fails. -/
def quiet (name : String) : Guest := ⟨name, false, [], none, none⟩

/-- Notes a report, and panics if it is told to. -/
def receive (g : Guest) (r : TestReport) : StateM Desk (Except Panic Unit) := fun d =>
  (if g.panicAt.contains r.name then .error ⟨some s!"cannot receive {r.name}"⟩ else .ok (),
    d.note s!"{g.name}:{r.name}:{r.kind.name}")

/-- Notes the end, and panics or fails if it is told to. -/
def finalize (g : Guest) : StateM Desk (Except Panic (Except SinkError Unit)) := fun d =>
  (match g.panicAtEnd, g.failAtEnd with
    | some p, _ => .error p
    | none, some e => .ok (.error e)
    | none, none => .ok (.ok ()),
    if g.notesEnd then d.note s!"{g.name}:finalize" else d)

/-- The sink of a guest. -/
def sink (g : Guest) : Sink Desk := ⟨g.name, g.receive, g.finalize⟩

end Guest

end Assay
