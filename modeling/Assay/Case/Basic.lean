import Assay.Case.Assertion
import Assay.Http.Request
import Assay.Text.Search
import Assay.Uuid

/-
  Test cases.

  A test case says which request to send and what the response has to look like.  Most of its fields
  may be left out of a definition; `TestCase.decode` fills in the defaults, and the identifier,
  which is new unless the definition gives one.  `validate` states what every loaded test case
  satisfies.

  Every type here has a `shape`, which says what it is called and how many fields it has, a `decode`
  and an `encode`.  A field that is left out has its default, and one that nobody knows is passed
  over.  Texts, lists and dictionaries of a test that are empty or missing are not written;
  everything else is, also where it is the default.

  Decoding does not look at how the parts of a test go together.  This is what `TestCase.validate`
  is for: it refuses a test without a name, and a path of a capture that does not start at the root
  of a document.  It does not read the rest of such a path, so a test that is accepted may still
  meet an error when its variables are captured; `Assay.Proofs.Refusals` tells in which cases.  The
  round trip of a whole definition, with its members in any order, is in `Assay.Proofs.Definitions`.
-/

namespace Assay

/-! ## The declared status -/

/-- What a definition says about running a test. -/
inductive DeclaredStatus where
  | none | focus | skipped | broken
  deriving DecidableEq, Repr, Inhabited

namespace DeclaredStatus

/-- The name in definitions. -/
def name : DeclaredStatus → String
  | none => "none"
  | focus => "focus"
  | skipped => "skipped"
  | broken => "broken"

/-- The statuses with their names. -/
def names : List (String × DeclaredStatus) := [
  ("none", none), ("focus", focus), ("skipped", skipped), ("broken", broken)]

/-- Decodes a status from its name. -/
def decode : Json.Decoder DeclaredStatus := Json.asName names

/-- The status as a document. -/
def encode (s : DeclaredStatus) : Json := .string s.name

end DeclaredStatus

/-! ## Options of the comparison -/

/-- How an expected document is compared with an actual one. -/
structure CompareOptions where
  ignoreValues : Bool
  ignoreArrayOrder : Bool
  disallowExtraFields : Bool
  deriving DecidableEq, Repr

namespace CompareOptions

/-- Values count, the order of arrays counts, and further fields are allowed. -/
def strict : CompareOptions := ⟨false, false, false⟩

instance : Inhabited CompareOptions := ⟨strict⟩

/-- How the record describes itself. -/
def shape : Json.RecordShape := ⟨"struct CompareOptions", 3⟩

/-- Decodes options; each may be left out. -/
def decode : Json.Decoder CompareOptions := Json.asRecord shape fun fs =>
  CompareOptions.mk
    <$> fs.withDefault shape 0 "ignore_values" Json.asBool false
    <*> fs.withDefault shape 1 "ignore_array_order" Json.asBool false
    <*> fs.withDefault shape 2 "disallow_extra_fields" Json.asBool false

/-- The options as a document. -/
def encode (o : CompareOptions) : Json :=
  .object [("ignore_values", .bool o.ignoreValues),
    ("ignore_array_order", .bool o.ignoreArrayOrder),
    ("disallow_extra_fields", .bool o.disallowExtraFields)]

end CompareOptions

/-! ## Database checks -/

/-- A query and the rows it has to give after the request. -/
structure DbCheck where
  query : String
  rows : List Json
  compare : CompareOptions
  deriving Repr, Inhabited

namespace DbCheck

/-- How the record describes itself. -/
def shape : Json.RecordShape := ⟨"struct DbCheck", 3⟩

/-- Decodes a database check. -/
def decode : Json.Decoder DbCheck := Json.asRecord shape fun fs =>
  DbCheck.mk
    <$> fs.required shape 0 "query" Json.asText
    <*> fs.withDefault shape 1 "rows" (Json.asList Json.asJson) []
    <*> fs.withDefault shape 2 "compare" CompareOptions.decode .strict

/-- The database check as a document. -/
def encode (c : DbCheck) : Json :=
  .object [("query", .string c.query), ("rows", .array c.rows), ("compare", c.compare.encode)]

end DbCheck

/-! ## Expectations -/

/-- What the response of a test has to look like. -/
structure Expectations where
  status : Option StatusExpectation
  headers : Dict String
  body : Option String
  compare : CompareOptions
  assertions : List Assertion
  deriving Repr

namespace Expectations

/-- Any response will do. -/
def anything : Expectations := ⟨none, .empty, none, .strict, []⟩

instance : Inhabited Expectations := ⟨anything⟩

/-- How the record describes itself. -/
def shape : Json.RecordShape := ⟨"struct Expectations", 5⟩

/-- Decodes expectations; each may be left out. -/
def decode : Json.Decoder Expectations := Json.asRecord shape fun fs =>
  Expectations.mk
    <$> fs.withDefault shape 0 "status" (Json.asOption StatusExpectation.decode) none
    <*> fs.withDefault shape 1 "headers" (Json.asDict Json.asText) .empty
    <*> fs.withDefault shape 2 "body" (Json.asOption Json.asText) none
    <*> fs.withDefault shape 3 "compare" CompareOptions.decode .strict
    <*> fs.withDefault shape 4 "assertions" (Json.asList Assertion.decode) []

/-- The expectations as a document. -/
def encode (e : Expectations) : Json :=
  .object [("status", (e.status.map StatusExpectation.encode).getD .null),
    ("headers", Json.ofTexts e.headers.entries), ("body", Json.textOrNull e.body),
    ("compare", e.compare.encode), ("assertions", .array (e.assertions.map Assertion.encode))]

end Expectations

/-! ## Test cases -/

/-- A single test. -/
structure TestCase where
  id : Uuid
  name : String
  description : Option String
  file : Option String
  status : DeclaredStatus
  request : Request
  expect : Expectations
  fixtures : List String
  mocks : Dict Json
  bindings : Dict String
  capture : Dict String
  dbChecks : List DbCheck
  deriving Repr, Inhabited

/-- Why a test case is not acceptable. -/
inductive CaseError where
  | emptyName
  | badCapture (test : String) (variableName path : String)
  deriving DecidableEq, Repr

/-- The wording of this refusal. -/
def CaseError.message : CaseError → String
  | emptyName => "test case has an empty name"
  | badCapture test var path =>
    s!"invalid test case `{test}`: capture `{var}` uses `{path}`, expected a path starting with '$'"

namespace TestCase

/-- A test case without expectations. -/
def ofRequest (id : Uuid) (name : String) (request : Request) : TestCase :=
  ⟨id, name, none, none, .none, request, .anything, [], .empty, .empty, .empty, []⟩

/-- The path of a capture starts with a dollar sign, blanks in front apart. -/
def isRooted (path : String) : Bool := (Text.trimLeft path.toList).head? = some '$'

/-- What every loaded test case satisfies: its name is not blank, and what it captures is given by
paths from the root.  Of several bad captures the first in the order of names is reported. -/
def validate (t : TestCase) : Except CaseError Unit :=
  if Text.blank t.name then .error .emptyName
  else
    match t.capture.entries.find? fun e => !isRooted e.2 with
    | some (var, path) => .error (.badCapture t.name var path)
    | none => .ok ()

/-- The test is focused. -/
def isFocused (t : TestCase) : Bool := t.status == .focus

/-! ## As a document -/

/-- How the record describes itself. -/
def shape : Json.RecordShape := ⟨"struct TestCase", 12⟩

/-- Decodes an identifier from its text. -/
def decodeId : Json.Decoder Uuid
  | .string s => (Uuid.parse s).mapError fun e => .custom s!"UUID parsing failed: {e.message}"
  | v => v.unexpected "a UUID string"

/-- Decodes a test case; `fresh` is its identifier unless the definition gives one. -/
def decode (fresh : Uuid) : Json.Decoder TestCase := Json.asRecord shape fun fs =>
  TestCase.mk
    <$> fs.withDefault shape 0 "id" decodeId fresh
    <*> fs.required shape 1 "name" Json.asText
    <*> fs.withDefault shape 2 "description" (Json.asOption Json.asText) none
    <*> fs.withDefault shape 3 "file" (Json.asOption Json.asPath) none
    <*> fs.withDefault shape 4 "status" DeclaredStatus.decode .none
    <*> fs.required shape 5 "request" Request.decode
    <*> fs.withDefault shape 6 "expect" Expectations.decode .anything
    <*> fs.withDefault shape 7 "fixtures" (Json.asList Json.asText) []
    <*> fs.withDefault shape 8 "mocks" (Json.asDict Json.asJson) .empty
    <*> fs.withDefault shape 9 "variables" (Json.asDict Json.asText) .empty
    <*> fs.withDefault shape 10 "capture" (Json.asDict Json.asText) .empty
    <*> fs.withDefault shape 11 "db_checks" (Json.asList DbCheck.decode) []

/-- A list as a member; an empty one is left out. -/
def listMember (name : String) (vs : List Json) : List (String × Json) :=
  if vs.isEmpty then [] else [(name, .array vs)]

/-- The test case as a document, without its identifier. -/
def encodeMembers (t : TestCase) : List (String × Json) :=
  [("name", .string t.name)] ++ Request.textMember "description" t.description ++
    Request.textMember "file" t.file ++
    [("status", t.status.encode), ("request", t.request.encode), ("expect", t.expect.encode)] ++
    listMember "fixtures" (t.fixtures.map .string) ++
    (if t.mocks.isEmpty then [] else [("mocks", .object t.mocks.entries)]) ++
    Request.textsMember "variables" t.bindings ++ Request.textsMember "capture" t.capture ++
    listMember "db_checks" (t.dbChecks.map DbCheck.encode)

/-- The test case as a document. -/
def encode (t : TestCase) : Json := .object (("id", .string t.id.text) :: t.encodeMembers)

end TestCase

end Assay
