import Assay.Http.Method

/-
  The request of a test case.

  The path is relative to the host of the run.  Path, query values, header values and body may hold
  variables, which are filled in just before the request is sent.  Query parameters and headers are
  dictionaries, so both are sent in the order of their names.

  A body is a text, whatever its type.  A header for the type of a JSON body is not part of a
  request; it is added when the request is prepared, unless the request has one under any spelling
  of its name (`hasContentType`).

  Only the path has to be there in a definition.  `textsMember` and `textMember` write a member only
  if there is something to write, here and for test cases.
-/

namespace Assay

/-- The request that a test case sends. -/
structure Request where
  method : Method
  path : String
  query : Dict String
  headers : Dict String
  body : Option String
  deriving DecidableEq, Repr, Inhabited

namespace Request

/-- A request without parameters, headers and body. -/
def ofPath (method : Method) (path : String) : Request := ⟨method, path, .empty, .empty, none⟩

/-- A GET request. -/
def get (path : String) : Request := ofPath .get path

/-- The same request with one more header. -/
def withHeader (r : Request) (name value : String) : Request :=
  { r with headers := r.headers.insert name value }

/-- The same request with one more query parameter. -/
def withQuery (r : Request) (name value : String) : Request :=
  { r with query := r.query.insert name value }

/-- The same request with the given body. -/
def withBody (r : Request) (body : String) : Request := { r with body := some body }

/-- The request states its content type. -/
def hasContentType (r : Request) : Bool := r.headers.keys.any fun k => Text.alike k "content-type"

/-! ## As a document -/

/-- How the record describes itself. -/
def shape : Json.RecordShape := ⟨"struct RequestSpec", 5⟩

/-- Decodes a request. -/
def decode : Json.Decoder Request := Json.asRecord shape fun fs =>
  Request.mk
    <$> fs.withDefault shape 0 "method" Method.decode .get
    <*> fs.required shape 1 "path" Json.asText
    <*> fs.withDefault shape 2 "query" (Json.asDict Json.asText) .empty
    <*> fs.withDefault shape 3 "headers" (Json.asDict Json.asText) .empty
    <*> fs.withDefault shape 4 "body" (Json.asOption Json.asText) none

/-- A dictionary of texts as a member; an empty one is left out. -/
def textsMember (name : String) (d : Dict String) : List (String × Json) :=
  if d.isEmpty then [] else [(name, Json.ofTexts d.entries)]

/-- A text as a member; an absent one is left out. -/
def textMember (name : String) : Option String → List (String × Json)
  | none => []
  | some s => [(name, .string s)]

/-- The request as a document. -/
def encode (r : Request) : Json :=
  .object ([("method", r.method.encode), ("path", .string r.path)] ++
    textsMember "query" r.query ++ textsMember "headers" r.headers ++ textMember "body" r.body)

end Request

end Assay
