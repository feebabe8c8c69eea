import Assay.Check.Fault
import Assay.Check.Structure

/-
  Checking the state of a database.

  Each check of a test is a query and the rows it has to give.  A database answers queries and may
  change with every one; its state is of any type.

  The rows that a query gives are taken together as one array, and compared with the array of the
  expected rows by the same rules and options as any other document; so a check can say whether the
  order of rows counts, and whether a row may have columns that nobody expects.  The place of a
  mismatch starts with the index of the check in the definition, `db_checks[0]` for the first one. A
  query that the database refuses is a fault of the whole check, and no further query is made.
-/

namespace Assay.Check.Database

/-- The name of the checker. -/
def name : String := "database"

/-- A database: the rows that a query gives, each as an object, or why it gives none. -/
abbrev Source (σ : Type) := String → StateM σ (Except DatabaseError (List Json))

/-- Checks the rows of some queries, the first of which has the given index; the first fault ends
the check. -/
def checkAll [PatternEngine] {σ : Type} (db : Source σ) :
    Nat → List DbCheck → StateM σ (Except CheckError (List Diagnostic))
  | _, [] => pure (.ok [])
  | i, c :: rest => do
    match ← db c.query with
    | .error e => return .error ⟨name, .database e⟩
    | .ok rows =>
      let found := Json.diagnoseAt name s!"db_checks[{i}]" c.compare (.array c.rows) (.array rows)
      let others ← checkAll db (i + 1) rest
      return others.map fun ds => found ++ ds

/-- Checks the queries of a test. -/
def check [PatternEngine] {σ : Type} (db : Source σ) (t : TestCase) :
    StateM σ (Except CheckError (List Diagnostic)) :=
  checkAll db 0 t.dbChecks

end Assay.Check.Database
