import Assay.Json.Decode

/-
  Typed assertions on a response.

  A definition names the kind of an assertion under `type`; the fields beside it are those of the
  kind.

  `Assertion` has one constructor for each kind, with the fields of the kind.  The kinds are listed
  with their names in one table, `Assertion.kinds`; decoding looks the name up, and then reads the
  fields of the kind from the same members (`decodeFields`), so that an unknown kind, a missing
  field and a field of the wrong type are refused in one way for all kinds.

  An optional field that is written as `null` is decoded as if it were missing.  For most kinds this
  is the same thing; for a value that is expected under a path it is not, since there `null` is a
  value that a document can have (see `Assay.Proofs.Expecting`).  What is decoded can be written
  down again and is then read as it was (`Assay.Proofs.Definitions`); what the assertions mean is
  said in `Assay.Check.Assertions`.
-/

namespace Assay

/-! ## Status codes -/

/-- The status codes that are accepted. -/
inductive StatusExpectation where
  | exact (code : UInt16)
  | range (min max : UInt16)
  | oneOf (codes : List UInt16)
  deriving DecidableEq, Repr

namespace StatusExpectation

/-- Any code from 200 to 299. -/
instance : Inhabited StatusExpectation := ⟨.range 200 299⟩

/-- The code is accepted. -/
def accepts : StatusExpectation → UInt16 → Bool
  | exact code, status => status == code
  | range min max, status => min ≤ status && status ≤ max
  | oneOf codes, status => codes.contains status

/-- The codes as they are shown. -/
def text : StatusExpectation → String
  | exact code => s!"= {code}"
  | range min max => s!"in {min}-{max}"
  | oneOf codes => "in [" ++ ", ".intercalate (codes.map toString) ++ "]"

/-- How the record of a range describes itself. -/
def rangeShape : Json.RecordShape := ⟨"struct variant StatusExpectation::Range", 2⟩

/-- Decodes a range, which is written as an object only: a list means the codes it lists. -/
def decodeRange : Json.Decoder StatusExpectation
  | .array _ => Json.unexpected (.array []) rangeShape.name
  | v => Json.asRecord rangeShape (fun fs =>
      StatusExpectation.range
        <$> fs.required rangeShape 0 "min" Json.asWord16
        <*> fs.required rangeShape 1 "max" Json.asWord16) v

/-- Decodes an expectation: a code, a range or a list of codes, whichever fits first. -/
def decode : Json.Decoder StatusExpectation := fun v =>
  match Json.asWord16 v with
  | .ok code => .ok (.exact code)
  | .error _ =>
    match decodeRange v with
    | .ok r => .ok r
    | .error _ =>
      match Json.asList Json.asWord16 v with
      | .ok codes => .ok (.oneOf codes)
      | .error _ => .error (.noVariant "StatusExpectation")

/-- A code as a document. -/
def encodeCode (code : UInt16) : Json := Json.word code.toUInt64

/-- The expectation as a document. -/
def encode : StatusExpectation → Json
  | exact code => encodeCode code
  | range min max => .object [("min", encodeCode min), ("max", encodeCode max)]
  | oneOf codes => .array (codes.map encodeCode)

end StatusExpectation

/-! ## Comparison operators -/

/-- How two values are compared. -/
inductive Operator where
  | equals | notEquals | greaterThan | greaterThanOrEqual | lessThan | lessThanOrEqual
  | contains | matchesPattern
  deriving DecidableEq, Repr, Inhabited

namespace Operator

/-- The operators with the names they have in definitions. -/
def names : List (String × Operator) := [
  ("equals", equals), ("not_equals", notEquals), ("greater_than", greaterThan),
  ("greater_than_or_equal", greaterThanOrEqual), ("less_than", lessThan),
  ("less_than_or_equal", lessThanOrEqual), ("contains", contains), ("matches", matchesPattern)]

/-- The name in definitions. -/
def name : Operator → String
  | equals => "equals"
  | notEquals => "not_equals"
  | greaterThan => "greater_than"
  | greaterThanOrEqual => "greater_than_or_equal"
  | lessThan => "less_than"
  | lessThanOrEqual => "less_than_or_equal"
  | contains => "contains"
  | matchesPattern => "matches"

/-- The operator as it is shown. -/
def symbol : Operator → String
  | equals => "=="
  | notEquals => "!="
  | greaterThan => ">"
  | greaterThanOrEqual => ">="
  | lessThan => "<"
  | lessThanOrEqual => "<="
  | contains => "contains"
  | matchesPattern => "matches"

/-- Decodes an operator from its name. -/
def decode : Json.Decoder Operator := Json.asName names

/-- The operator as a document. -/
def encode (o : Operator) : Json := .string o.name

end Operator

/-! ## Assertions -/

/-- One typed check of a response. -/
inductive Assertion where
  | statusCode (expected : StatusExpectation)
  | responseTime (maxMillis : UInt64)
  | headerExists (name : String) (value : Option String)
  | headerMatches (name pattern : String)
  | bodyContains (text : String) (ignoreCase : Bool)
  | bodyMatches (pattern : String)
  | jsonPath (path : String) (expected : Option Json)
  | jsonPathMatches (path : String) (operator : Operator) (value : Json)
  | bodyEquals (expected : String)
  | isJson
  | isXml
  | contentType (expected : String)
  | bodyLength (operator : Operator) (length : UInt64)
  deriving Repr, Inhabited

namespace Assertion

/-- The assertion as it is shown. -/
def text : Assertion → String
  | statusCode expected => s!"status {expected.text}"
  | responseTime ms => s!"response within {ms}ms"
  | headerExists name (some value) => s!"header `{name}` is `{value}`"
  | headerExists name none => s!"header `{name}` is present"
  | headerMatches name pattern => s!"header `{name}` ~ /{pattern}/"
  | bodyContains fragment _ => s!"body contains `{fragment}`"
  | bodyMatches pattern => s!"body ~ /{pattern}/"
  | jsonPath path (some value) => s!"{path} == {value.compact}"
  | jsonPath path none => s!"{path} is present"
  | jsonPathMatches path operator value => s!"{path} {operator.symbol} {value.compact}"
  | bodyEquals _ => "body equals expected"
  | isJson => "body is JSON"
  | isXml => "body is XML"
  | contentType expected => s!"content type contains `{expected}`"
  | bodyLength operator length => s!"body length {operator.symbol} {length}"

/-! ## As a document -/

/-- The kinds of assertions. -/
inductive Kind where
  | statusCode | responseTime | headerExists | headerMatches | bodyContains | bodyMatches
  | jsonPath | jsonPathMatches | bodyEquals | isJson | isXml | contentType | bodyLength
  deriving DecidableEq, Repr

/-- The kinds with the names they have in definitions. -/
def kinds : List (String × Kind) := [
  ("status_code", .statusCode), ("response_time", .responseTime),
  ("header_exists", .headerExists), ("header_matches", .headerMatches),
  ("body_contains", .bodyContains), ("body_matches", .bodyMatches),
  ("json_path", .jsonPath), ("json_path_matches", .jsonPathMatches),
  ("body_equals", .bodyEquals), ("is_json", .isJson), ("is_xml", .isXml),
  ("content_type", .contentType), ("body_length", .bodyLength)]

/-- How the record of a kind describes itself. -/
def shapeOf (variant : String) (size : Nat) : Json.RecordShape :=
  ⟨s!"struct variant Assertion::{variant}", size⟩

/-- Reads the fields of a kind. -/
def decodeFields (fs : Json.Fields) : Kind → Except DecodeError Assertion
  | .statusCode =>
    let s := shapeOf "StatusCode" 1
    Json.finishTagged fs s (statusCode <$> fs.required s 0 "expected" StatusExpectation.decode)
  | .responseTime =>
    let s := shapeOf "ResponseTime" 1
    Json.finishTagged fs s (responseTime <$> fs.required s 0 "max_ms" Json.asWord64)
  | .headerExists =>
    let s := shapeOf "HeaderExists" 2
    Json.finishTagged fs s (headerExists <$> fs.required s 0 "name" Json.asText
      <*> fs.optional s 1 "value" Json.asText)
  | .headerMatches =>
    let s := shapeOf "HeaderMatches" 2
    Json.finishTagged fs s (headerMatches <$> fs.required s 0 "name" Json.asText
      <*> fs.required s 1 "pattern" Json.asText)
  | .bodyContains =>
    let s := shapeOf "BodyContains" 2
    Json.finishTagged fs s (bodyContains <$> fs.required s 0 "text" Json.asText
      <*> fs.withDefault s 1 "ignore_case" Json.asBool false)
  | .bodyMatches =>
    let s := shapeOf "BodyMatches" 1
    Json.finishTagged fs s (bodyMatches <$> fs.required s 0 "pattern" Json.asText)
  | .jsonPath =>
    let s := shapeOf "JsonPath" 2
    Json.finishTagged fs s (jsonPath <$> fs.required s 0 "path" Json.asText
      <*> fs.optional s 1 "expected" Json.asJson)
  | .jsonPathMatches =>
    let s := shapeOf "JsonPathMatches" 3
    Json.finishTagged fs s (jsonPathMatches <$> fs.required s 0 "path" Json.asText
      <*> fs.required s 1 "operator" Operator.decode <*> fs.required s 2 "value" Json.asJson)
  | .bodyEquals =>
    let s := shapeOf "BodyEquals" 1
    Json.finishTagged fs s (bodyEquals <$> fs.required s 0 "expected" Json.asText)
  | .isJson => .ok isJson
  | .isXml => .ok isXml
  | .contentType =>
    let s := shapeOf "ContentType" 1
    Json.finishTagged fs s (contentType <$> fs.required s 0 "expected" Json.asText)
  | .bodyLength =>
    let s := shapeOf "BodyLength" 2
    Json.finishTagged fs s (bodyLength <$> fs.required s 0 "operator" Operator.decode
      <*> fs.required s 1 "length" Json.asSize)

/-- Decodes an assertion. -/
def decode : Json.Decoder Assertion := fun v => do
  let (kind, fs) ← Json.splitTag "Assertion" "type" kinds v
  decodeFields fs kind

/-- A tagged record. -/
def tagged (type : String) (members : List (String × Json)) : Json :=
  .object (("type", .string type) :: members)

/-- The assertion as a document. -/
def encode : Assertion → Json
  | statusCode expected => tagged "status_code" [("expected", expected.encode)]
  | responseTime ms => tagged "response_time" [("max_ms", Json.word ms)]
  | headerExists name value =>
    tagged "header_exists" [("name", .string name), ("value", Json.textOrNull value)]
  | headerMatches name pattern =>
    tagged "header_matches" [("name", .string name), ("pattern", .string pattern)]
  | bodyContains fragment ignoreCase =>
    tagged "body_contains" [("text", .string fragment), ("ignore_case", .bool ignoreCase)]
  | bodyMatches pattern => tagged "body_matches" [("pattern", .string pattern)]
  | jsonPath path expected =>
    tagged "json_path" [("path", .string path), ("expected", expected.getD .null)]
  | jsonPathMatches path operator value =>
    tagged "json_path_matches"
      [("path", .string path), ("operator", operator.encode), ("value", value)]
  | bodyEquals expected => tagged "body_equals" [("expected", .string expected)]
  | isJson => tagged "is_json" []
  | isXml => tagged "is_xml" []
  | contentType expected => tagged "content_type" [("expected", .string expected)]
  | bodyLength operator length =>
    tagged "body_length" [("operator", operator.encode), ("length", Json.word length)]

end Assertion

end Assay
