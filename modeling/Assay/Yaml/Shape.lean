import Assay.Yaml.Node
import Assay.Yaml.Plain

/-
  From a YAML document to a JSON document of an expected shape.

  The scalars of a YAML text do not say what they are: the scalar `5` is a number where anything
  goes, and a text where a text is expected.  So a document is read for a `Shape`, which says what
  is expected at every place, and the result is the JSON document that a decoder of that shape
  reads.

  What a decoder looks at only after it has seen the whole node, because the node names its own
  kind, is read as if anything went, and keeps the rule that a field is named by a text, or by its
  number.

  `shaped` is the reader.  References are followed where they stand, so a document that refers to
  itself has no end, and a short one may stand for a very large one.  This is why there are two
  limits: how deep nodes may be nested, with those that are referred to (`depthLimit`), and how many
  references may be followed, in relation to the size of the document (`referenceLimit`,
  `Node.size`).
-/

namespace Assay.Yaml

/-- What is expected of a node. -/
inductive Shape where
  /-- A text: any scalar. -/
  | text
  /-- A truth value. -/
  | truth
  /-- Any node. -/
  | any
  /-- One of several names: a scalar, or a tag on nothing. -/
  | name
  /-- A node of some shape, or null. -/
  | optional (of : Shape)
  /-- A sequence. -/
  | list (of : Shape)
  /-- A mapping from texts. -/
  | dict (of : Shape)
  /-- A mapping with these fields, or a sequence of their values. -/
  | record (fields : List (String × Shape))
  /-- A mapping with these fields, which is told from other nodes only by what it holds. -/
  | held (fields : List (String × Shape))
  /-- A mapping in which one field names the kind, and with it the other fields. -/
  | tagged (tag : String) (kinds : List (String × List (String × Shape)))

/-- How the keys of a mapping are read where any node goes: as texts, only if they stand for texts,
or not at all. -/
inductive KeyRule where
  | scalars | texts | unread
  deriving DecidableEq

/-- Reading a document, while counting down how many references may still be followed. -/
abbrev Shaping := StateT Nat (Except Fault)

namespace Shaping

variable (anchored : Array Node)

/-- The node itself, or the one it refers to. -/
def follow : Node → Shaping Node
  | .reference k => do
    let left ← get
    if left = 0 then throw .tooManyReferences
    set (left - 1)
    match anchored[k]? with
    | some n => return n
    | none => throw .unknownAnchor
  | n => return n

/-- The text of a scalar. -/
def textOf (n : Node) : Shaping String := do
  match ← follow anchored n with
  | .scalar _ _ s => return s
  | _ => throw .wrongNode

/-- A reader of the nodes inside, unless the document is nested too deep. -/
def enter {α : Type} (inner : Option α) : Shaping α :=
  match inner with
  | some f => return f
  | none => throw .tooDeep

/-! ## Any node -/

/-- Reads a node where anything goes, with a reader of the nodes inside. -/
def anyWith (keys : KeyRule) (inner : Option (Node → Shaping Json)) (n : Node) : Shaping Json := do
  match ← follow anchored n with
  | .scalar tag style s => liftM (scalarValue tag style s)
  | .sequence tag items =>
    if isLocal tag then throw .localTag
    let read ← enter inner
    return .array (← items.mapM read)
  | .mapping tag entries =>
    if isLocal tag then throw .localTag
    let read ← enter inner
    let members ← entries.mapM fun e => do
      let key ← match keys with
        | .scalars => textOf anchored e.1
        | .texts => do
          match ← read e.1 with
          | .string s => pure s
          | _ => throw .wrongNode
        | .unread => do
          let _ ← read e.1
          pure ""
      return (key, ← read e.2)
    return Json.ofMembers members
  | .reference _ => throw .unknownAnchor

/-- Reads a node where anything goes, up to a depth. -/
def any (keys : KeyRule) : Nat → Node → Shaping Json
  | 0 => anyWith anchored keys none
  | depth + 1 => anyWith anchored keys (some (any keys depth))

/-! ## Nodes that are looked at as a whole -/

/-- The name of a field: a text, or the number of the field. -/
def fieldName (fields : List (String × Shape)) (key : Json) : Shaping (Option String) :=
  match key with
  | .string s => return some s
  | .number (.integer n _) =>
    if n < 0 then throw .wrongNode else return (fields[n.toNat]?).map Prod.fst
  | _ => throw .wrongNode

/-- The names are all different. -/
def allDifferent (names : List String) : Shaping Unit :=
  if names.Nodup then return () else throw .repeatedField

/-- Reads the fields of a node that is looked at as a whole; `read` reads their values by shape. -/
def heldMembers (depth : Nat) (read : Shape → Node → Shaping Json) (fields : List (String × Shape))
    (entries : List (Node × Node)) : Shaping (List (String × Json)) := do
  let members ← entries.mapM fun e => do
    let key ← any anchored .unread depth e.1
    -- A kind without fields takes no notice of what stands beside its name.
    let name ← if fields.isEmpty then pure none else fieldName fields key
    match name.bind fun k => (fields.lookup k).map fun shape => (k, shape) with
    | some (k, shape) => return some (k, ← read shape e.2)
    | none =>
      let _ ← any anchored .unread depth e.2
      return none
  let known := members.filterMap id
  allDifferent (known.map Prod.fst)
  return known

/-- Reads a node that is looked at as a whole: a mapping as the fields, anything else as it
stands. -/
def heldNode (fields : List (String × Shape)) : Nat → Node → Shaping Json
  | 0, n => any anchored .texts 0 n
  | depth + 1, n => do
    match ← follow anchored n with
    | .mapping tag entries =>
      if isLocal tag then throw .localTag
      return Json.ofMembers
        (← heldMembers anchored depth (fun _ => any anchored .texts depth) fields entries)
    | n => any anchored .texts (depth + 1) n

/-- Reads a value inside a node that is looked at as a whole. -/
def heldValue (depth : Nat) : Shape → Node → Shaping Json
  | .held fields => heldNode anchored fields depth
  | _ => any anchored .texts depth

/-- Reads a node in which one field names the kind. -/
def taggedNode (tag : String) (kinds : List (String × List (String × Shape))) :
    Nat → Node → Shaping Json
  | 0, n => any anchored .texts 0 n
  | depth + 1, n => do
    match ← follow anchored n with
    | .mapping own entries =>
      if isLocal own then throw .localTag
      let keyed ← entries.mapM fun e => do
        match ← any anchored .unread depth e.1 with
        | .string s => return (s == tag, e)
        | _ => return (false, e)
      match keyed.filter Prod.fst with
      | [(_, e)] =>
        let kind ← textOf anchored e.2
        let rest := (keyed.filter fun k => !k.1).map Prod.snd
        let members ← heldMembers anchored depth (heldValue anchored depth)
          ((kinds.lookup kind).getD []) rest
        return Json.ofMembers ((tag, .string kind) :: members)
      | [] => return .object []
      | _ => throw .repeatedField
    | .sequence own items =>
      if isLocal own then throw .localTag
      match items with
      | [] => return .array []
      | first :: rest =>
        let kind ← textOf anchored first
        let fields := (kinds.lookup kind).getD []
        let values ← (rest.zip (fields.map Prod.snd ++ rest.map fun _ => .any)).mapM fun v =>
          heldValue anchored depth v.2 v.1
        return .array (.string kind :: values)
    | n => any anchored .texts (depth + 1) n

/-! ## Nodes of a shape -/

/-- A scalar that stands for null where null or another node is expected. -/
def isAbsent (tag : Option String) (style : ScalarStyle) (s : String) : Except Fault Bool :=
  if style = .plain then
    match tag with
    | none => .ok (s.isEmpty || isNull s)
    | some t =>
      if t = nullTag then if isNull s then .ok true else .error .wrongScalar
      else .ok false
  else .ok false

/-- Nothing is written. -/
def isBlankNode : Node → Bool
  | .scalar _ .plain s => s.isEmpty
  | _ => false

/-- Reads a node of a shape, with a reader of the nodes inside, for `depth` more levels. -/
def shapedWith (depth : Nat) (inner : Option (Shape → Node → Shaping Json)) :
    Shape → Node → Shaping Json
  | .text, n => do return .string (← textOf anchored n)
  | .any, n => any anchored .scalars depth n
  | .held fields, n => heldNode anchored fields depth n
  | .tagged tag kinds, n => taggedNode anchored tag kinds depth n
  | .truth, n => do
    match ← follow anchored n with
    | .scalar tag style s =>
      if style = .plain || (style = .literal && tag = some boolTag) then
        match truth? s with
        | some b => return .bool b
        | none => throw .wrongScalar
      else throw .wrongScalar
    | _ => throw .wrongNode
  | .name, n => do
    match ← follow anchored n with
    | .scalar tag style s =>
      if isLocal tag then
        let bare := (tag.getD "").toList.drop 1
        if style = .plain && (s.isEmpty || isNull s) then
          return .string (if bare.isEmpty then "!" else String.ofList bare)
        else throw .wrongScalar
      else return .string s
    | _ => throw .wrongNode
  | .optional shape, n => do
    match ← follow anchored n with
    | .scalar tag style s =>
      if ← liftM (isAbsent tag style s) then return .null
      else shapedWith depth inner shape (.scalar tag style s)
    | n => shapedWith depth inner shape n
  | .list shape, n => do
    match ← follow anchored n with
    | .sequence _ items => return .array (← items.mapM ((← enter inner) shape))
    | n => if isBlankNode n then return .array [] else throw .wrongNode
  | .dict shape, n => do
    match ← follow anchored n with
    | .mapping _ entries =>
      let read ← enter inner
      return Json.ofMembers (← entries.mapM fun e => do
        return (← textOf anchored e.1, ← read shape e.2))
    | n => if isBlankNode n then return .object [] else throw .wrongNode
  | .record fields, n => do
    match ← follow anchored n with
    | .sequence _ items =>
      let read ← enter inner
      let shapes := fields.map Prod.snd ++ items.map fun _ => .any
      return .array (← (items.zip shapes).mapM fun v => read v.2 v.1)
    | .mapping _ entries =>
      let read ← enter inner
      let members ← entries.mapM fun e => do
        let key ← textOf anchored e.1
        match fields.lookup key with
        | some shape => return some (key, ← read shape e.2)
        | none => return none
      let known := members.filterMap id
      allDifferent (known.map Prod.fst)
      return Json.ofMembers known
    | n => if isBlankNode n then return .object [] else throw .wrongNode

/-- Reads a node of a shape, up to a depth. -/
def shaped : Nat → Shape → Node → Shaping Json
  | 0 => shapedWith anchored 0 none
  | depth + 1 => shapedWith anchored (depth + 1) (some (shaped depth))

end Shaping

/-! ## Documents -/

mutual
/-- How large a node is: a scalar counts one, everything around nodes counts two. -/
def Node.size : Node → Nat
  | .scalar .. => 1
  | .reference _ => 1
  | .sequence _ items => itemsSize items + 2
  | .mapping _ entries => entriesSize entries + 2
/-- The sizes of some nodes together. -/
def Node.itemsSize : List Node → Nat
  | [] => 0
  | n :: rest => n.size + itemsSize rest
/-- The sizes of some entries together. -/
def Node.entriesSize : List (Node × Node) → Nat
  | [] => 0
  | (k, v) :: rest => k.size + v.size + entriesSize rest
end

/-- How deep a document may be nested. -/
def depthLimit : Nat := 128

/-- How many references may be followed for every unit of a document's size. -/
def referenceLimit : Nat := 100

/-- The document as a JSON document of a shape. -/
def Document.toJson (shape : Shape) (d : Document) : Except Fault Json :=
  (Shaping.shaped d.anchored depthLimit shape d.root).run' (d.root.size * referenceLimit)

end Assay.Yaml
