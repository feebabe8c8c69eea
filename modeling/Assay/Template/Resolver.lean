import Assay.Template.Scopes
import Assay.Text.Slice

/-
  Resolving variables step by step.

  `Scopes.resolve` says what becomes of a text if every built-in variable has its value from the
  start.  A resolver generates such a value only when it is needed.  It is made for one test and
  keeps what it has generated for as long as it lives, so that a name has the same value in all
  templates of the test.

  A text is gone through by byte offsets: `Template.scan` finds the placeholders,
  `Resolver.substitute` copies what stands between them and puts values in their places.  Wherever
  the text is cut there has to be a boundary of characters.  A cut anywhere else is the end of
  everything: then there is no result.

  The templates of a test are gone through in order, each in its place
  (`TestCase.traverseTemplates`), and the names without a value are noted on the way.

  Both say the same: the result of `resolveCase` is that of `Scopes.resolveCase` with the values
  that were generated on the way, and there always is one.  `Assay.Proofs.Filling` has this for one
  text, `Assay.Proofs.Resolving` for a whole test, and `Assay.Proofs.Settling` asks what happens
  when a resolved text is resolved again.
-/

namespace Assay

/-! ## Scanning -/

namespace Template

/-- The references of a text from an offset on, in order. -/
def scan (s : List Char) (start : Nat) : Option (List Reference) :=
  match _h : Text.from? s start with
  | none => none
  | some rest =>
    match _ho : Text.find? opening rest with
    | none => some []
    | some skipped =>
      let inner := start + skipped + 2
      match Text.from? s inner with
      | none => none
      | some body =>
        match Text.find? closing body with
        | none => some []
        | some length =>
          let stop := inner + length + 2
          (Text.slice? s inner (inner + length)).bind fun raw =>
            (scan s stop).map fun later =>
              let name := nameOf raw
              if name.isEmpty then later else ⟨name, start + skipped, stop⟩ :: later
termination_by Text.byteLength s - start
decreasing_by
  have hlength := Text.byteLength_of_from? _h
  obtain ⟨⟨before, after⟩, hsplit, -⟩ := Option.map_eq_some_iff.mp _ho
  have hrest := congrArg Text.byteLength (Text.eq_of_splitFirst hsplit)
  have hopening : Text.byteLength opening = 2 := by decide
  rw [Text.byteLength_append, Text.byteLength_append, hopening] at hrest
  omega

end Template

/-! ## Looking up names -/

/-- What a resolver has generated: values by name, and how many there are. -/
structure Generated where
  values : Dict String
  count : Nat

/-- Nothing has been generated. -/
def Generated.nothing : Generated := ⟨.empty, 0⟩

/-- Steps of a resolver: they may generate values, and they may fail to cut a text. -/
abbrev Resolving (α : Type) := StateT Generated Option α

/-- A resolver of variables: the variables of the test, of earlier tests and of the run, and what
the value that is generated after so many others will be. -/
structure Resolver where
  test : Dict String
  captured : Dict String
  run : Dict String
  supply : Nat → BuiltIn → String

namespace Resolver

variable (r : Resolver)

/-- The value of a name that belongs to no built-in variable. -/
def userValue (name : String) : Option (String × Scope) :=
  ((r.test.get? name).map (·, .test)).or <|
    ((r.captured.get? name).map (·, .captured)).or <| (r.run.get? name).map (·, .run)

/-- The value of a built-in variable: the one that has been generated under this name, or a new
one. -/
def builtIn (name : String) : Resolving (Option String) := fun g =>
  match g.values.get? name with
  | some value => some (some value, g)
  | none =>
    match BuiltIn.ofName? name with
    | none => some (none, g)
    | some b =>
      let value := r.supply g.count b
      some (some value, ⟨g.values.insert name value, g.count + 1⟩)

/-- The value of a name and where it comes from. -/
def lookup (name : String) : Resolving (Option (String × Scope)) := do
  if Template.isBuiltInName name then
    let value ← r.builtIn name
    return value.map (·, .builtIn)
  else return r.userValue name

/-! ## Texts -/

/-- A cut that has to be at a boundary of characters. -/
def cut {α : Type} (part : Option α) : Resolving α := fun g => part.map (·, g)

/-- Goes on behind an offset, with the references from there on. -/
def substitute (s : List Char) : Nat → List Template.Reference → Resolving Resolution
  | last, [] => do
    let tail ← cut (Text.slice? s last (Text.byteLength s))
    return ⟨String.ofList tail, [], []⟩
  | last, ref :: rest => do
    let before ← cut (Text.slice? s last ref.start)
    match ← r.lookup ref.name with
    | some (value, scope) => do
      let done ← substitute s ref.stop rest
      return ⟨String.ofList before ++ value ++ done.text, ⟨ref.name, value, scope⟩ :: done.resolved,
        done.unresolved⟩
    | none => do
      let own ← cut (Text.slice? s ref.start ref.stop)
      let done ← substitute s ref.stop rest
      return ⟨String.ofList before ++ String.ofList own ++ done.text, done.resolved,
        ref.name :: done.unresolved⟩

/-- Fills in the placeholders of a text. -/
def resolve (text : String) : Resolving Resolution := do
  let refs ← cut (Template.scan text.toList 0)
  if refs.isEmpty then return ⟨text, [], []⟩ else r.substitute text.toList 0 refs

end Resolver

/-! ## Going through the templates of a test -/

section Traversal

variable {m : Type → Type} [Monad m]

namespace Dict

variable {α β : Type}

/-- Applies an action to the values of some entries, in order; the keys stay. -/
def traverseValuesOf (f : α → m β) :
    (es : List (String × α)) → m { out : List (String × β) // out.map Prod.fst = es.map Prod.fst }
  | [] => pure ⟨[], rfl⟩
  | e :: rest => do
    let w ← f e.2
    let out ← traverseValuesOf f rest
    return ⟨(e.1, w) :: out.1, congrArg (e.1 :: ·) out.2⟩

/-- Entries with the same keys are in order as well. -/
theorem sorted_of_keys {es : List (String × α)} {out : List (String × β)}
    (h : out.map Prod.fst = es.map Prod.fst) (hsorted : es.Pairwise fun a b => a.1 < b.1) :
    out.Pairwise fun a b => a.1 < b.1 :=
  List.pairwise_map.mp (h ▸ List.pairwise_map.mpr hsorted)

/-- Applies an action to every value, in order; the keys stay. -/
def traverseValues (f : α → m β) (d : Dict α) : m (Dict β) := do
  let out ← traverseValuesOf f d.entries
  return ⟨out.1, sorted_of_keys out.2 d.sorted⟩

end Dict

mutual
/-- Applies an action to every string of a document, in order. -/
def Json.traverseStrings (f : String → m String) : Json → m Json
  | .string s => do
    let s ← f s
    return .string s
  | .array items => do
    let items ← traverseItems f items
    return .array items
  | .object members => do
    let members ← traverseMembers f members
    return .object members
  | .null => pure .null
  | .bool b => pure (.bool b)
  | .number n => pure (.number n)
/-- The same for every item. -/
def Json.traverseItems (f : String → m String) : List Json → m (List Json)
  | [] => pure []
  | v :: rest => do
    let v ← traverseStrings f v
    let rest ← traverseItems f rest
    return v :: rest
/-- The same for the value of every member. -/
def Json.traverseMembers (f : String → m String) : List (String × Json) → m (List (String × Json))
  | [] => pure []
  | (k, v) :: rest => do
    let v ← traverseStrings f v
    let rest ← traverseMembers f rest
    return (k, v) :: rest
end

/-- Applies an action to a text that may be absent. -/
def traverseText (f : String → m String) : Option String → m (Option String)
  | none => pure none
  | some s => do
    let s ← f s
    return some s

/-- Applies an action to every template of a test case, in order. -/
def TestCase.traverseTemplates (f : String → m String) (t : TestCase) : m TestCase := do
  let path ← f t.request.path
  let query ← t.request.query.traverseValues f
  let headers ← t.request.headers.traverseValues f
  let body ← traverseText f t.request.body
  let expectedBody ← traverseText f t.expect.body
  let expectedHeaders ← t.expect.headers.traverseValues f
  let mocks ← t.mocks.traverseValues (Json.traverseStrings f)
  return { t with
    request := { t.request with path := path, query := query, headers := headers, body := body }
    expect := { t.expect with body := expectedBody, headers := expectedHeaders }
    mocks := mocks }

end Traversal

namespace Resolver

variable (r : Resolver)

/-- Fills in one template, and notes the names that have no value. -/
def fill (text : String) : StateT (List String) (StateT Generated Option) String := fun noted => do
  let done ← r.resolve text
  return (done.text, noted ++ done.unresolved)

/-- Fills in the templates of a test case, and tells which names have no value. -/
def resolveCase (t : TestCase) : Resolving (TestCase × List String) := do
  let (filled, noted) ← t.traverseTemplates r.fill []
  return (filled, sortedNames noted)

end Resolver

end Assay
