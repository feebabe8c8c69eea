import Assay.Case.Basic
import Assay.Text.Blank
import Assay.Yaml.Shape

/-
  Test definitions as they are written in files.

  A file of tests holds a list of test cases in YAML; a blank file holds none.  `suiteShape` says
  what is expected at every place of such a list, and so which scalars are texts.

  A text is understood in two steps.  A reader (`DefinitionReader`) makes a document of it, and
  `decodeFrom` makes test cases of the items of this document, one after the other.  The reader in
  use is that of `Assay.Yaml`.  The second step, and all that is done with the tests afterwards, is
  the same for any other one, and what is said about loading is said for all of them.

  A shape exists beside each decoder because YAML does not tell texts from other scalars: the same
  scalar is a text in a header and a number in the rows of a query.  Shapes say no more than that,
  and everything else is left to the decoders.
-/

namespace Assay.Load

open Yaml (Shape)

/-! ## The shape of a list of tests -/

/-- Options of a comparison. -/
def compareShape : Shape :=
  .record [("ignore_values", .truth), ("ignore_array_order", .truth),
    ("disallow_extra_fields", .truth)]

/-- A request. -/
def requestShape : Shape :=
  .record [("method", .text), ("path", .text), ("query", .dict .text), ("headers", .dict .text),
    ("body", .optional .text)]

/-- The status codes that are accepted. -/
def statusShape : Shape := .held [("min", .any), ("max", .any)]

/-- The fields of the kinds of assertions. -/
def assertionShape : Shape :=
  .tagged "type" [
    ("status_code", [("expected", statusShape)]),
    ("response_time", [("max_ms", .any)]),
    ("header_exists", [("name", .any), ("value", .any)]),
    ("header_matches", [("name", .any), ("pattern", .any)]),
    ("body_contains", [("text", .any), ("ignore_case", .any)]),
    ("body_matches", [("pattern", .any)]),
    ("json_path", [("path", .any), ("expected", .any)]),
    ("json_path_matches", [("path", .any), ("operator", .any), ("value", .any)]),
    ("body_equals", [("expected", .any)]),
    ("content_type", [("expected", .any)]),
    ("body_length", [("operator", .any), ("length", .any)])]

/-- What the response has to look like. -/
def expectShape : Shape :=
  .record [("status", .optional statusShape), ("headers", .dict .text), ("body", .optional .text),
    ("compare", compareShape), ("assertions", .list assertionShape)]

/-- A query and its rows. -/
def dbCheckShape : Shape :=
  .record [("query", .text), ("rows", .list .any), ("compare", compareShape)]

/-- A test case. -/
def caseShape : Shape :=
  .record [("id", .text), ("name", .text), ("description", .optional .text),
    ("file", .optional .text), ("status", .name), ("request", requestShape),
    ("expect", expectShape), ("fixtures", .list .text),
    ("mocks", .dict .any), ("variables", .dict .text), ("capture", .dict .text),
    ("db_checks", .list dbCheckShape)]

/-- A list of test cases. -/
def suiteShape : Shape := .list caseShape

/-! ## Reading a file -/

/-- A reader of files of tests: it makes a document of a text, or says why it cannot. -/
class DefinitionReader where
  read : String → Except String Json

/-- The reader of YAML. -/
instance : DefinitionReader where
  read text :=
    (Yaml.Document.ofText text >>= Yaml.Document.toJson suiteShape).mapError Yaml.Fault.message

/-- Decodes test cases one after the other; the one with number `n` gets the identifier `fresh n`
unless it has one of its own. -/
def decodeFrom (fresh : Nat → Uuid) : Nat → List Json → Except DecodeError (List TestCase)
  | _, [] => .ok []
  | n, v :: rest => do
    let t ← TestCase.decode (fresh n) v
    let ts ← decodeFrom fresh (n + 1) rest
    return t :: ts

/-- The test cases of a text; the first one has the number `n`. -/
def parse [DefinitionReader] (fresh : Nat → Uuid) (n : Nat) (text : String) :
    Except DecodeError (List TestCase) :=
  if Text.blank text then .ok []
  else
    match DefinitionReader.read text with
    | .error message => .error (.custom message)
    | .ok (.array items) => decodeFrom fresh n items
    | .ok v => v.unexpected "a sequence"

end Assay.Load
