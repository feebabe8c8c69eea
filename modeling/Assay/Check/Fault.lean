import Assay.Case.Assertion
import Assay.Json.Path
import Assay.Regex.Basic

/-
  Why a check cannot be made.

  A mismatch between a response and its expectations is a diagnostic.  A fault is something else:
  the expectations themselves cannot be evaluated, whatever the response.

  A fault ends the check at once: what has been found up to there is not reported, and the test errs
  instead of failing.  A `CheckError` is a fault together with the name of the checker that met it;
  the wordings say which expectation could not be evaluated, and why.
-/

namespace Assay

/-- Why a database gives no rows. -/
inductive DatabaseError where
  | connection (message : String)
  | query (query message : String)
  deriving DecidableEq, Repr

/-- The wording of a database error. -/
def DatabaseError.message : DatabaseError → String
  | connection m => s!"database connection error: {m}"
  | query q m => s!"query `{q}` failed: {m}"

/-- Why expectations cannot be evaluated. -/
inductive CheckFault where
  | bodyPattern (error : Regex.Error)
  | headerPattern (header : String) (error : Regex.Error)
  | pattern (pattern : String) (error : Regex.Error)
  | path (error : Json.PathError)
  | lengthOperator (operator : Operator)
  | database (error : DatabaseError)
  | other (message : String)
  deriving Repr

/-- The wording of a fault. -/
def CheckFault.message : CheckFault → String
  | bodyPattern e => s!"invalid expected body regex: {e.message}"
  | headerPattern h e => s!"invalid regex for header `{h}`: {e.message}"
  | pattern p e => s!"invalid regex /{p}/: {e.message}"
  | path e => e.message
  | lengthOperator o => s!"operator `{o.symbol}` cannot compare lengths"
  | database e => e.message
  | other m => m

/-- A fault, and the checker that met it. -/
structure CheckError where
  checker : String
  fault : CheckFault
  deriving Repr

/-- The wording of a check error. -/
def CheckError.message (e : CheckError) : String :=
  s!"checker `{e.checker}` failed: {e.fault.message}"

end Assay
