import Assay.Check.Assertions
import Assay.Check.Body
import Assay.Check.Database
import Assay.Check.Headers

/-
  Checkers, and what a list of them finds.

  The checkers of a run are asked one after the other, in the order in which they were added, and
  what they find is put together in this order.  The first fault ends the check.

  A checker answers within a state, that of the collaborators of the run: the built-in checkers of
  bodies, headers and assertions leave it as it is (`Checker.ofFunction`), that of databases hands
  it to the database, and a checker from elsewhere may do with it what it likes.  When a checker
  meets a fault, the ones behind it are not asked, and what those before it have found is not
  reported.
-/

namespace Assay

/-- A checker: it compares a response with the expectations of a test, and may change a state. -/
structure Checker (σ : Type) where
  name : String
  check : TestCase → Response → StateM σ (Except CheckError (List Diagnostic))

namespace Checker

variable {σ : Type}

/-- A checker that needs nothing but the test and the response. -/
def ofFunction (name : String) (check : TestCase → Response → Except CheckError (List Diagnostic)) :
    Checker σ := ⟨name, fun t r => pure (check t r)⟩

/-- Checks status and body. -/
def body [PatternEngine] : Checker σ := ofFunction Check.Body.name Check.Body.check

/-- Checks headers. -/
def headers [PatternEngine] : Checker σ := ofFunction Check.Headers.name Check.Headers.check

/-- Checks typed assertions. -/
def assertions [PatternEngine] : Checker σ :=
  ofFunction Check.Assertions.name Check.Assertions.check

/-- Checks the rows of queries. -/
def database [PatternEngine] (db : Check.Database.Source σ) : Checker σ :=
  ⟨Check.Database.name, fun t _ => Check.Database.check db t⟩

/-- Asks some checkers in order. -/
def checkAll (t : TestCase) (r : Response) :
    List (Checker σ) → StateM σ (Except CheckError (List Diagnostic))
  | [] => pure (.ok [])
  | c :: rest => do
    match ← c.check t r with
    | .error e => return .error e
    | .ok found =>
      let others ← checkAll t r rest
      return others.map fun ds => found ++ ds

end Checker

end Assay
