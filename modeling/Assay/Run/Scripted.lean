import Assay.Run.Executor

/-
  Scripted collaborators.

  A run can be carried out without any server: fixtures and mocks are those of a list, a database
  answers from a table, and requests get the replies of a script, one after the other.

  Whatever is not in the script is refused in the way a real collaborator would refuse it: an
  unknown fixture or service, an unknown query, or a request for which no reply is left.  Of several
  fixtures or services the first one that is refused counts.  `Replies` is the only part with a
  state; the other collaborators answer from their tables and leave the state as it is.
-/

namespace Assay.Scripted

/-! ## Fixtures and mocks -/

/-- Fixtures that are known, and those that fail to load with a message. -/
structure Fixtures where
  known : List String
  failing : Dict String
  deriving Repr

/-- Loads fixtures in order; the first one that fails or is not known is reported. -/
def Fixtures.load (f : Fixtures) : List String → Except FixtureError Unit
  | [] => .ok ()
  | n :: rest =>
    match f.failing.get? n with
    | some m => .error (.load n m)
    | none => if f.known.contains n then f.load rest else .error (.notFound n)

/-- Services that cannot be mocked, those whose definitions are refused with a message, and what is
reported when mocks are verified. -/
structure Mocks where
  unknown : List String
  invalid : Dict String
  found : List Diagnostic
  deriving Repr

/-- Prepares the mocks of some services in order. -/
def Mocks.prepare (m : Mocks) : List String → Except MockError Unit
  | [] => .ok ()
  | service :: rest =>
    match m.invalid.get? service with
    | some text => .error (.invalidDefinition service text)
    | none =>
      if m.unknown.contains service then .error (.unknownService service) else m.prepare rest

/-- A mock server that follows a script. -/
def Mocks.server {σ : Type} (m : Mocks) : MockServer σ :=
  ⟨fun definitions => pure (m.prepare definitions.keys), pure m.found⟩

/-! ## Databases and checkers -/

/-- The answers of a database: rows, or the message of a failed connection. -/
abbrev Answers := Dict (Except String (List Json))

/-- A database that answers from a table. -/
def database {σ : Type} (answers : Answers) : Check.Database.Source σ := fun query =>
  pure (match answers.get? query with
    | some (.ok rows) => .ok rows
    | some (.error m) => .error (.connection m)
    | none => .error (.query query "unknown query"))

/-- A checker that always finds the same. -/
def finding {σ : Type} (name : String) (found : List Diagnostic) : Checker σ :=
  .ofFunction name fun _ _ => .ok found

/-- A checker that always fails. -/
def failing {σ : Type} (name message : String) : Checker σ :=
  .ofFunction name fun _ _ => .error ⟨name, .other message⟩

/-! ## Replies -/

/-- The replies of a script. -/
abbrev Replies := List (Except SendError Response)

/-- Answers a request with the next reply. -/
def reply (_ : PreparedRequest) : StateM Replies (Except SendError Response)
  | [] => (.error (.other "no canned reply"), [])
  | r :: rest => (r, rest)

end Assay.Scripted
