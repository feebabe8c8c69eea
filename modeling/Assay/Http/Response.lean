import Assay.Json.Decode
import Assay.Json.Reader
import Assay.Text.Casing
import Assay.Text.Search
import Assay.Text.Slice
import Assay.Text.Utf8
import Assay.Time.Span

/-
  Responses, as checks and reports see them.

  A header is found by its name in any case of the basic Latin letters; of several spellings the
  first in the order of names counts.  A preview of the body is cut at a number of bytes, never
  inside a character.

  The body is a text.  What comes over the wire is bytes, which need not be well-formed UTF-8
  (`Response.ofBytes`); a malformed sequence becomes a replacement character once and for all, and
  all checks see the text.

  There are two previews, of which `previewOf` says what is shown and `cutPreview?` how it is found:
  an offset goes back until it stands between two characters, and the text is cut there.  The second
  one could fail, at the start of the text or inside a character.  `Assay.Proofs.Previews` shows
  that it never does, and that both agree.

  A response in a report has its duration in whole milliseconds, so what is read back is the
  response with its duration cut off (see `Assay.Proofs.Reports`).
-/

namespace Assay

/-! ## Status codes -/

/-- The reason phrases of common status codes. -/
def reasonPhrases : List (UInt16 × String) := [
  (200, "OK"), (201, "Created"), (202, "Accepted"), (204, "No Content"),
  (301, "Moved Permanently"), (302, "Found"), (304, "Not Modified"),
  (400, "Bad Request"), (401, "Unauthorized"), (403, "Forbidden"), (404, "Not Found"),
  (405, "Method Not Allowed"), (409, "Conflict"), (422, "Unprocessable Entity"),
  (429, "Too Many Requests"), (500, "Internal Server Error"), (502, "Bad Gateway"),
  (503, "Service Unavailable"), (504, "Gateway Timeout")]

/-- A status code. -/
structure Status where
  code : UInt16
  deriving DecidableEq, Repr

namespace Status

/-- The reason phrase. -/
def reason (s : Status) : String := (reasonPhrases.lookup s.code).getD "Unknown"

/-- A status from 200 to 299. -/
def isSuccess (s : Status) : Bool := 200 ≤ s.code && s.code < 300

/-- The status as it is shown. -/
def text (s : Status) : String := s!"{s.code} {s.reason}"

end Status

/-! ## Responses -/

/-- A response that a test received. -/
structure Response where
  status : UInt16
  statusText : String
  headers : Dict String
  body : String
  duration : Span
  deriving DecidableEq, Repr, Inhabited

namespace Response

/-- A response from what came over the wire. -/
def ofBytes (status : UInt16) (headers : Dict String) (body : List UInt8) (duration : Span) :
    Response :=
  ⟨status, (Status.mk status).reason, headers, Text.ofBytes body, duration⟩

/-- The value of a header, by its name in any case. -/
def header? (r : Response) (name : String) : Option String :=
  (r.headers.entries.find? fun e => Text.alike e.1 name).map Prod.snd

/-- The content type. -/
def contentType? (r : Response) : Option String := r.header? "content-type"

/-- The body as a document, if it is one. -/
def json? (r : Response) : Option Json := (Json.parse r.body).toOption

/-! ## Previews -/

/-- The longest front part of at most `max` bytes. -/
def takeBytes : Nat → List Char → List Char
  | _, [] => []
  | max, c :: rest => if c.utf8Size ≤ max then c :: takeBytes (max - c.utf8Size) rest else []

/-- A text of at most `max` bytes, or the longest front part of that size with an ellipsis. -/
def previewOf (body : List Char) (max : Nat) : List Char :=
  if Text.byteLength body ≤ max then body else takeBytes max body ++ ['.', '.', '.']

/-- The body, or what of it fits `max` bytes. -/
def preview (r : Response) (max : Nat) : String := String.ofList (previewOf r.body.toList max)

/-- The preview step by step: from `max` back to a boundary, and cut there.  There is no result if
the offset gets below zero or the cut is inside a character. -/
def cutPreview? (r : Response) (max : Nat) : Option String :=
  if r.body.utf8ByteSize ≤ max then some r.body
  else
    (Text.boundaryBefore? r.body.toUTF8.toList max).bind fun stop =>
      (Text.cutAt? stop r.body.toList).map fun parts => String.ofList parts.1 ++ "..."

/-! ## As a document -/

/-- How the record describes itself. -/
def shape : Json.RecordShape := ⟨"struct ResponseSpec", 5⟩

/-- Decodes a span from whole milliseconds. -/
def decodeMillis : Json.Decoder Span := fun v =>
  (Json.asWord64 v).map fun ms => Span.ofMillis ms.toNat

/-- Decodes a response. -/
def decode : Json.Decoder Response := Json.asRecord shape fun fs =>
  Response.mk
    <$> fs.required shape 0 "status" Json.asWord16
    <*> fs.required shape 1 "status_text" Json.asText
    <*> fs.withDefault shape 2 "headers" (Json.asDict Json.asText) .empty
    <*> fs.required shape 3 "body" Json.asText
    <*> fs.required shape 4 "duration" decodeMillis

/-- The response as a document. -/
def encode (r : Response) : Json :=
  .object [("status", Json.word r.status.toUInt64), ("status_text", .string r.statusText),
    ("headers", Json.ofTexts r.headers.entries), ("body", .string r.body),
    ("duration", Json.word r.duration.millisWord)]

end Response

end Assay
