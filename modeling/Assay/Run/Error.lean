import Assay.Case.Basic
import Assay.Json.Decode
import Assay.Output.Sink
import Assay.Run.Fault

/-
  How a run fails.

  A run fails because its tests cannot be loaded, because a test is broken or errors, because tests
  fail, or because an output cannot be finalized.  Only the third kind is about the system under
  test.

  `TestError` is what a bridge tells the run about a test, and `RunError` what the run tells its
  caller; a test that failed is no `TestError`, because a bridge does not report it.  A failed run
  carries its summary, which is otherwise only there if the run was a success.  Which of several
  reasons is told is decided by `Runner.resultOf`.
-/

namespace Assay

/-- Why a directory of tests cannot be walked. -/
inductive WalkError where
  | io (path : String) (error : IoError)
  | loop (path ancestor : String)
  deriving DecidableEq, Repr

/-- The path at which walking ends. -/
def WalkError.path : WalkError → String
  | io p _ => p
  | loop p _ => p

/-- The wording of such a failure. -/
def WalkError.message : WalkError → String
  | io p e => s!"IO error for operation on {p}: {e.message}"
  | loop p a => s!"File system loop found: {p} points to an ancestor {a}"

/-- Why tests cannot be loaded. -/
inductive LoadError where
  | notFound (location : String)
  | walk (error : WalkError)
  | unreadable (path : String) (error : IoError)
  | parse (path : String) (error : DecodeError)
  | invalid (path : String) (error : CaseError)
  deriving DecidableEq, Repr

/-- The wording of such a failure. -/
def LoadError.message : LoadError → String
  | notFound p => s!"tests location not found: {p}"
  | walk e => s!"failed to read {e.path}: {e.message}"
  | unreadable p e => s!"failed to read {p}: {e.message}"
  | parse p e => s!"failed to parse {p}: {e.message}"
  | invalid p e => s!"invalid test case in {p}: {e.message}"

/-- Why a test has no verdict, as it is told to the run. -/
inductive TestError where
  | broken (test : String) (cause : RunFault)
  | fatal (test : String) (error : RunFault)
  deriving Repr

namespace TestError

/-- The test that has no verdict. -/
def test : TestError → String
  | broken t _ => t
  | fatal t _ => t

/-- The wording of such an error. -/
def message : TestError → String
  | broken t c => s!"test `{t}` is broken: {c.message}"
  | fatal t e => s!"test `{t}` errored: {e.message}"

end TestError

/-- Why a run is no success. -/
inductive RunError where
  | load (error : LoadError)
  | test (error : TestError)
  | assertionsFailed (first : String) (summary : RunSummary)
  | finalize (failure : FinalizeError)
  deriving Repr

namespace RunError

/-- The wording of such an error. -/
def message : RunError → String
  | load e => s!"failed to load test cases: {e.message}"
  | test e => e.message
  | assertionsFailed first s =>
    s!"{s.failed} of {s.total} test case(s) failed, first failure: `{first}`"
  | finalize f => s!"output `{f.sink}` failed to finalize: {f.error.message}"

/-- The run could not be carried out, as opposed to tests that failed. -/
def isInfrastructure : RunError → Bool
  | assertionsFailed _ _ => false
  | _ => true

end RunError

end Assay
