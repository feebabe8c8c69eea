import Assay.Json.Decode
import Assay.Text.Blank
import Assay.Text.Casing

/-
  The methods of a request.

  A method may be written in any case and with blanks around it; its own name is in capitals.

  A text that names no method is refused as it was compared, trimmed and in capitals
  (`Unsupported`), so that the message shows what was looked for.
-/

namespace Assay

/-- A method that a test may use. -/
inductive Method where
  | get | post | put | patch | delete | head | options
  deriving DecidableEq, Repr, Inhabited

namespace Method

/-- The name of a method. -/
def name : Method → String
  | get => "GET"
  | post => "POST"
  | put => "PUT"
  | patch => "PATCH"
  | delete => "DELETE"
  | head => "HEAD"
  | options => "OPTIONS"

/-- All methods. -/
def all : List Method := [get, post, put, patch, delete, head, options]

/-- A request with this method usually has a body. -/
def hasBody : Method → Bool
  | post | put | patch => true
  | _ => false

/-- A text that names no method; it is kept trimmed and in capitals. -/
structure Unsupported where
  name : String
  deriving DecidableEq, Repr

/-- The wording of this refusal. -/
def Unsupported.message (e : Unsupported) : String := s!"unsupported HTTP method: {e.name}"

/-- Reads a method. -/
def parse (s : String) : Except Unsupported Method :=
  let wanted := Text.upper (Text.trim s)
  match all.find? fun m => m.name == wanted with
  | some m => .ok m
  | none => .error ⟨wanted⟩

/-- Decodes a method from its text. -/
def decode : Json.Decoder Method := fun v => do
  let s ← Json.asText v
  (parse s).mapError fun e => .custom e.message

/-- The method as a document. -/
def encode (m : Method) : Json := .string m.name

end Method

end Assay
