import Assay.Case.Basic
import Assay.Template.Basic
import Assay.Template.BuiltIn

/-
  Resolving the variables of a test case.

  A name that starts with `$` belongs to a built-in variable and to nothing else.  Any other name is
  looked up in the variables of the test, then in what earlier tests captured, then in the variables
  of the run.  A placeholder whose name has no value stays in the text.  A value that is put into a
  text is never looked into again.

  `TestCase.mapTemplates` says which parts of a test case are templates; `Scopes.resolveCase` fills
  in all of them with the same values.

  `lookup` is the order of the scopes, `value?` what a name stands for, and `resolve` what becomes
  of a text: its new text, what was filled in, and the names that were left; `resolveCase` lists the
  latter for a whole test, each of them once.  That a test depends on its scopes only through the
  names to which it refers is shown in `Assay.Proofs.Templates`.
-/

namespace Assay

/-- Where a value comes from. -/
inductive Scope where
  | builtIn | test | captured | run
  deriving DecidableEq, Repr

/-- The name of a scope. -/
def Scope.name : Scope → String
  | builtIn => "builtin"
  | test => "test"
  | captured => "captured"
  | run => "run"

/-- Everything that the placeholders of one test are filled in from. -/
structure Scopes where
  test : Dict String
  captured : Dict String
  run : Dict String
  generated : BuiltIn → String

/-- A placeholder that was filled in. -/
structure ResolvedVariable where
  name : String
  value : String
  scope : Scope
  deriving DecidableEq, Repr

/-- A text with its placeholders filled in: the names that had a value, and those that had none. -/
structure Resolution where
  text : String
  resolved : List ResolvedVariable
  unresolved : List String
  deriving DecidableEq, Repr

/-- Every placeholder had a value. -/
def Resolution.isComplete (r : Resolution) : Bool := r.unresolved.isEmpty

namespace Scopes

/-- The value of a name that belongs to no built-in variable. -/
def userValue (s : Scopes) (name : String) : Option (String × Scope) :=
  match s.test.get? name with
  | some v => some (v, .test)
  | none =>
    match s.captured.get? name with
    | some v => some (v, .captured)
    | none => (s.run.get? name).map fun v => (v, .run)

/-- The value of a name and where it comes from. -/
def lookup (s : Scopes) (name : String) : Option (String × Scope) :=
  if Template.isBuiltInName name then
    (BuiltIn.ofName? name).map fun b => (s.generated b, .builtIn)
  else s.userValue name

/-- The value of a name. -/
def value? (s : Scopes) (name : String) : Option String := (s.lookup name).map Prod.fst

/-- Fills in the placeholders of a text. -/
def resolve (s : Scopes) (text : String) : Resolution where
  text := Template.fill s.value? text
  resolved := (Template.names text).filterMap fun n =>
    (s.lookup n).map fun v => ⟨n, v.1, v.2⟩
  unresolved := (Template.names text).filter fun n => (s.lookup n).isNone

end Scopes

/-! ## The templates of a test case -/

mutual
/-- The strings of a document, in order. -/
def Json.strings : Json → List String
  | .string s => [s]
  | .array items => stringsOfItems items
  | .object members => stringsOfMembers members
  | .null => []
  | .bool _ => []
  | .number _ => []
/-- The strings of some items. -/
def Json.stringsOfItems : List Json → List String
  | [] => []
  | v :: rest => strings v ++ stringsOfItems rest
/-- The strings under some members. -/
def Json.stringsOfMembers : List (String × Json) → List String
  | [] => []
  | (_, v) :: rest => strings v ++ stringsOfMembers rest
end

namespace TestCase

/-- The values of a dictionary, in order. -/
def valuesOf {α : Type} (d : Dict α) : List α := d.entries.map Prod.snd

/-- The templates of a test case, in the order in which they are filled in. -/
def templates (t : TestCase) : List String :=
  [t.request.path] ++ valuesOf t.request.query ++ valuesOf t.request.headers ++
    t.request.body.toList ++ t.expect.body.toList ++ valuesOf t.expect.headers ++
    (valuesOf t.mocks).flatMap Json.strings

/-- Changes every template of a test case, and nothing else. -/
def mapTemplates (f : String → String) (t : TestCase) : TestCase :=
  { t with
    request := { t.request with
      path := f t.request.path
      query := t.request.query.mapValues f
      headers := t.request.headers.mapValues f
      body := t.request.body.map f }
    expect := { t.expect with
      body := t.expect.body.map f
      headers := t.expect.headers.mapValues f }
    mocks := t.mocks.mapValues (Json.mapStrings f) }

end TestCase

/-- Names in increasing order, each once. -/
def sortedNames (names : List String) : List String :=
  (Dict.ofList (names.map fun n => (n, ()))).keys

/-- Fills in the templates of a test case, and tells which names have no value. -/
def Scopes.resolveCase (s : Scopes) (t : TestCase) : TestCase × List String :=
  (t.mapTemplates fun text => (s.resolve text).text,
    sortedNames (t.templates.flatMap fun text => (s.resolve text).unresolved))

end Assay
