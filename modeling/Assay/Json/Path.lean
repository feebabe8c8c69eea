import Assay.Json.Writer
import Assay.Text.Blank
import Assay.Text.Search

/-
  Paths into a JSON document.

  A path starts with `$` and goes on with members and items: `$`, `$.user.name`, `$.items[0].id`.
  `[*]` ends a path at the array before it.  A document may lack what a path asks for, which is no
  fault of the path; a path is at fault when it does not start at the root, or when the index that a
  query arrives at is neither a number nor `*`.  Indices that a query never arrives at are not
  looked at.

  `Step` and `follow` are the other way to say the same: a path as data, followed one step at a
  time.

  `segments` splits a path at the dots outside of brackets, and `Segment.ofChars` cuts a segment
  into a name and an index.  Only one index is read: in a segment such as `items[0][1]` everything
  between the first opening bracket and the last closing one is the index, and it is no number.
  `querySegments` then goes down the document, one segment after the other, and stops as soon as
  something is missing.

  Three developments are about this function.  `Assay.Proofs.Routes` compares it with `follow` for
  the paths that can be written, `Assay.Proofs.Courses` says how far a query gets for any path and
  any document, and `Assay.Proofs.Paths` asks which of the printed places of a comparison can be
  queried.
-/

namespace Assay

/-! ## Paths as data -/

/-- One step into a document. -/
inductive Step where
  | member (key : String)
  | item (index : Nat)
  deriving DecidableEq, Repr

namespace Step

/-- The step as it is written in a path. -/
def text : Step → String
  | member key => s!".{key}"
  | item index => s!"[{index}]"

/-- Steps as they are written after a root. -/
def join (root : String) (steps : List Step) : String := root ++ String.join (steps.map text)

end Step

namespace Json

/-- The value of a member of an object. -/
def member? (v : Json) (key : String) : Option Json :=
  match v with
  | object members => lookup key members
  | _ => none

/-- An item of an array. -/
def item? (v : Json) (index : Nat) : Option Json :=
  match v with
  | array items => items[index]?
  | _ => none

/-- The value that one step leads to. -/
def step? (v : Json) : Step → Option Json
  | .member key => v.member? key
  | .item index => v.item? index

/-- The value that some steps lead to. -/
def follow : Json → List Step → Option Json
  | v, [] => some v
  | v, s :: rest => (v.step? s).bind fun w => follow w rest

/-! ## Paths as text -/

/-- Why a path cannot be followed, whatever the document. -/
inductive PathError where
  | missingRoot (path : String)
  | invalidIndex (index path : String)
  deriving DecidableEq, Repr

/-- The wording of this refusal. -/
def PathError.message : PathError → String
  | missingRoot path => s!"JSON path `{path}` must start with '$'"
  | invalidIndex index path => s!"invalid array index `{index}` in JSON path `{path}`"

/-- One segment of a path: a name, which may be empty, and what stands in brackets behind it. -/
structure Segment where
  name : List Char
  index : Option (List Char)
  deriving DecidableEq, Repr

/-- A segment has an index if it ends in a closing bracket and there is an opening one: the first
one ends the name. -/
def Segment.ofChars (s : List Char) : Segment :=
  match Text.splitFirst ['['] s with
  | some (name, inner) => if s.getLast? = some ']' then ⟨name, some inner.dropLast⟩ else ⟨s, none⟩
  | none => ⟨s, none⟩

/-- Splits at the dots that stand outside brackets. -/
def splitSegments : Bool → List Char → List (List Char)
  | _, [] => [[]]
  | inside, c :: rest =>
    if c = '.' && !inside then [] :: splitSegments inside rest
    else
      let inside := if c = '[' then true else if c = ']' then false else inside
      match splitSegments inside rest with
      | [] => [[c]]
      | piece :: more => (c :: piece) :: more

/-- The segments of what follows the root; empty ones do not count. -/
def segments (s : List Char) : List Segment :=
  ((splitSegments false s).filter fun p => !p.isEmpty).map Segment.ofChars

/-- The indices that a position in memory can have. -/
def indexLimit : Nat := 0x10000000000000000

/-- An index written with digits, with an optional plus sign. -/
def readIndex (s : List Char) : Option Nat :=
  let digits := match s with
    | '+' :: rest => rest
    | _ => s
  if !digits.isEmpty && digits.all Char.isDigit then
    let n := digits.foldl (fun n d => n * 10 + (d.toNat - 48)) 0
    if n < indexLimit then some n else none
  else none

/-- Follows the segments of a path; `path` is the whole of it, for the wording of a refusal. -/
def querySegments (path : String) : Json → List Segment → Except PathError (Option Json)
  | v, [] => .ok (some v)
  | v, seg :: rest =>
    match (if seg.name.isEmpty then some v else v.member? (String.ofList seg.name)) with
    | none => .ok none
    | some v =>
      match seg.index with
      | none => querySegments path v rest
      | some ['*'] => .ok (some v)
      | some index =>
        match readIndex index with
        | none => .error (.invalidIndex (String.ofList index) path)
        | some i =>
          match v.item? i with
          | none => .ok none
          | some v => querySegments path v rest

/-- What follows the root, without the dot that may stand there. -/
def afterRoot : List Char → List Char
  | '.' :: rest => rest
  | s => s

/-- The value under a path, if the document has one there. -/
def query (v : Json) (path : String) : Except PathError (Option Json) :=
  match Text.trimBoth path.toList with
  | '$' :: rest => querySegments (Text.trim path) v (segments (afterRoot rest))
  | _ => .error (.missingRoot (Text.trim path))

/-- A value as it is put into a text: a string as it is, anything else in compact form. -/
def plainText : Json → String
  | string s => s
  | v => v.compact

end Json

end Assay
