import Assay.Run.Error

/-
  Bridges to a host.

  A run hands every test to a bridge, together with the means to execute it.  A bridge should
  execute the test once and tell what came of it, but nothing holds it to this: it may execute the
  test never or several times, and return what it likes.  `Handling` is one such dialogue, and
  `Recorded` what the run keeps of it: the last execution.

  A bridge is data and not a function that calls the executor: a tree whose inner nodes ask for an
  execution and go on with its result.  So every bridge comes to an end, an execution cannot be
  started from elsewhere, and a proof about all bridges is an induction on the dialogue
  (`Handling.run`).

  Two bridges that misbehave serve as examples here, `idle` and `twice`.  The built-in one is
  `Ledger.bridge`.  What becomes of the result of a run when a bridge hides what it has learned is
  worked out in `Assay.Proofs.Bridges`.
-/

namespace Assay

/-- How a bridge handles one test: it is done, or it executes the test and goes on with what it
learns. -/
inductive Handling (β : Type) where
  | done (result : Except TestError Unit) (state : β)
  | execute (next : Execution → Handling β)

/-- A bridge with a state of its own. -/
def Bridge (β : Type) := TestCase → β → Handling β

namespace Handling

/-- The outcome of a dialogue. -/
structure Recorded (β ε : Type) where
  result : Except TestError Unit
  bridge : β
  last : Option Execution
  executor : ε

/-- Carries a dialogue through; `last` is the last execution so far. -/
def run {β ε : Type} (execute : StateM ε Execution) :
    Handling β → Option Execution → ε → Recorded β ε
  | done result state, last, s => ⟨result, state, last, s⟩
  | .execute next, _, s =>
    let (e, s) := execute s
    run execute (next e) (some e) s

end Handling

namespace Bridge

/-- A bridge that never executes a test and is content. -/
def idle {β : Type} : Bridge β := fun _ b => .done (.ok ()) b

/-- A bridge that executes every test twice and is content. -/
def twice {β : Type} : Bridge β := fun _ b => .execute fun _ => .execute fun _ => .done (.ok ()) b

end Bridge

end Assay
