import Assay.Yaml.Lexer

/-
  YAML documents.

  A document is a tree of scalars, sequences and mappings.  A node may carry a tag, and it may be
  anchored so that other nodes stand for it; such a reference names the anchored node by the number
  under which it was opened.  A node may refer to a node that contains it, so what is referred to is
  looked up step by step and never substituted.

  `Reading` is what is left of the tokens together with the anchors that have been seen.  A node is
  read by its first token, and the entries of a container by one function for each way of writing
  them: a block, a row without an indentation of its own, and brackets.  An anchor that is given
  twice stands for the later node from then on.  A text without any token, such as one of comments
  only, is a document with an empty node, and stands for an empty list.
-/

namespace Assay.Yaml

/-- A node of a document. -/
inductive Node where
  | scalar (tag : Option String) (style : ScalarStyle) (text : String)
  | sequence (tag : Option String) (items : List Node)
  | mapping (tag : Option String) (entries : List (Node × Node))
  | reference (anchored : Nat)
  deriving Repr, Inhabited

/-- The node that stands where nothing is written. -/
def Node.empty : Node := .scalar none .plain ""

/-- A document: its root, and the nodes that are anchored, in the order in which they were
opened. -/
structure Document where
  root : Node
  anchored : Array Node
  deriving Repr

/-! ## Reading tokens -/

/-- Reading a document: the tokens that are left, what the tag handles stand for, the anchors with
the latest first, and the anchored nodes. -/
structure Reading where
  tokens : List Token
  handles : List (String × String)
  anchors : List (String × Nat)
  anchored : Array Node

/-- A step of reading a document. -/
abbrev Read := StateT Reading (Except Fault)

namespace Read

/-- The next token. -/
def peek : Read (Option Token) := do return (← get).tokens.head?

/-- Passes over the next token. -/
def skip : Read Unit := modify fun r => { r with tokens := r.tokens.tail }

/-- The next token is one of the given ones. -/
def sees (ts : List Token) : Read Bool := do return (← peek).any ts.contains

/-- Passes over the next token if it is the given one. -/
def takes (t : Token) : Read Bool := do
  if ← sees [t] then skip; return true else return false

/-- The tag that a handle and a suffix make. -/
def resolveTag (handle suffix : String) : Read String := do
  if handle.isEmpty then return suffix
  match (← get).handles.lookup handle with
  | some target => return target ++ suffix
  | none => throw .unknownHandle

/-- Reads the anchor and the tag in front of a node, in either order. -/
def readProperties : Read (Option String × Option String) := do
  let r ← get
  match r.tokens with
  | .anchor a :: .tag h s :: rest =>
    set { r with tokens := rest }
    return (some a, some (← resolveTag h s))
  | .tag h s :: .anchor a :: rest =>
    set { r with tokens := rest }
    return (some a, some (← resolveTag h s))
  | .anchor a :: rest =>
    set { r with tokens := rest }
    return (some a, none)
  | .tag h s :: rest =>
    set { r with tokens := rest }
    return (none, some (← resolveTag h s))
  | _ => return (none, none)

/-- Opens an anchored node: from here on its anchor stands for it. -/
def openAnchor (anchor : Option String) : Read (Option Nat) :=
  match anchor with
  | none => return none
  | some a => do
    let r ← get
    let n := r.anchored.size
    set { r with anchors := (a, n) :: r.anchors, anchored := r.anchored.push (.reference n) }
    return some n

/-- Closes an anchored node. -/
def closeAnchor (number : Option Nat) (node : Node) : Read Node := do
  match number with
  | none => return node
  | some n =>
    modify fun r => { r with anchored := r.anchored.setIfInBounds n node }
    return node

mutual
/-- Reads a node.  `block` allows the blocks that indentation opens, `indentless` a sequence whose
entries are not indented. -/
def readNode (block indentless : Bool) : Nat → Read Node
  | 0 => throw .tooDeep
  | fuel + 1 => do
    if let some (.aliasOf a) ← peek then
      skip
      match (← get).anchors.lookup a with
      | some n => return .reference n
      | none => throw .unknownAnchor
    let (anchor, tag) ← readProperties
    let number ← openAnchor anchor
    let node ← match ← peek with
      | some .blockEntry =>
        if indentless then pure (.sequence tag (← readIndentless fuel))
        else bare anchor tag
      | some (.scalar text style) => do
        skip
        pure (.scalar tag style text)
      | some .flowSequence => do
        skip
        pure (.sequence tag (← readFlowItems true fuel))
      | some .flowMapping => do
        skip
        pure (.mapping tag (← readFlowEntries true fuel))
      | some .blockSequence =>
        if block then do
          skip
          pure (.sequence tag (← readBlockItems fuel))
        else bare anchor tag
      | some .blockMapping =>
        if block then do
          skip
          pure (.mapping tag (← readBlockEntries fuel))
        else bare anchor tag
      | _ => bare anchor tag
    closeAnchor number node
/-- The entries of a sequence that indentation opened. -/
def readBlockItems : Nat → Read (List Node)
  | 0 => throw .tooDeep
  | fuel + 1 => do
    if ← takes .blockEnd then return []
    if !(← takes .blockEntry) then throw .missingEntry
    let item ← readUnless [.blockEntry, .blockEnd] true false fuel
    return item :: (← readBlockItems fuel)
/-- The entries of a sequence that are not indented further than the key they belong to. -/
def readIndentless : Nat → Read (List Node)
  | 0 => throw .tooDeep
  | fuel + 1 => do
    if !(← takes .blockEntry) then return []
    let item ← readUnless [.blockEntry, .key, .value, .blockEnd] true false fuel
    return item :: (← readIndentless fuel)
/-- The entries of a mapping that indentation opened. -/
def readBlockEntries : Nat → Read (List (Node × Node))
  | 0 => throw .tooDeep
  | fuel + 1 => do
    if ← takes .blockEnd then return []
    if !(← takes .key) then throw .missingKey
    let key ← readUnless [.key, .value, .blockEnd] true true fuel
    let value ←
      if ← takes .value then readUnless [.key, .value, .blockEnd] true true fuel else pure .empty
    return (key, value) :: (← readBlockEntries fuel)
/-- The items of a sequence in brackets.  An item with a key is a mapping of one entry. -/
def readFlowItems (first : Bool) : Nat → Read (List Node)
  | 0 => throw .tooDeep
  | fuel + 1 => do
    if ← takes .flowSequenceEnd then return []
    if !first then
      if !(← takes .flowEntry) then throw .missingSeparator
    if ← takes .flowSequenceEnd then return []
    let item ←
      if ← takes .key then do
        let ends := [Token.value, .flowEntry, .flowSequenceEnd]
        let key ←
          if ← sees ends then do
            skip
            pure .empty
          else readNode false false fuel
        let value ←
          if ← takes .value then readUnless [.flowEntry, .flowSequenceEnd] false false fuel
          else pure .empty
        pure (.mapping none [(key, value)])
      else readNode false false fuel
    return item :: (← readFlowItems false fuel)
/-- The entries of a mapping in braces. -/
def readFlowEntries (first : Bool) : Nat → Read (List (Node × Node))
  | 0 => throw .tooDeep
  | fuel + 1 => do
    if ← takes .flowMappingEnd then return []
    if !first then
      if !(← takes .flowEntry) then throw .missingSeparator
    if ← takes .flowMappingEnd then return []
    let entry ←
      if ← takes .key then do
        let key ← readUnless [.value, .flowEntry, .flowMappingEnd] false false fuel
        let value ←
          if ← takes .value then readUnless [.flowEntry, .flowMappingEnd] false false fuel
          else pure .empty
        pure (key, value)
      else do
        pure (← readNode false false fuel, .empty)
    return entry :: (← readFlowEntries false fuel)
/-- Reads a node, which is empty if one of the given tokens comes next. -/
def readUnless (ends : List Token) (block indentless : Bool) : Nat → Read Node
  | 0 => throw .tooDeep
  | fuel + 1 => do
    if ← sees ends then return .empty else readNode block indentless fuel
/-- A node of which nothing but its anchor or tag is written. -/
def bare (anchor tag : Option String) : Read Node :=
  if anchor.isSome || tag.isSome then return .scalar tag .plain "" else throw .missingContent
end

/-! ## Documents -/

/-- Reads the directives in front of a document.  The handles that need no directive come last. -/
def readDirectives : List Token → Bool → List (String × String) →
    Except Fault (List Token × List (String × String))
  | .version major minor :: rest, versioned, handles =>
    if versioned || major ≠ 1 || (minor ≠ 1 && minor ≠ 2) then .error .badDirective
    else readDirectives rest true handles
  | .tagPrefix handle target :: rest, versioned, handles =>
    if (handles.lookup handle).isSome then .error .badDirective
    else readDirectives rest versioned ((handle, target) :: handles)
  | ts, _, handles => .ok (ts, handles)

/-- What the handles stand for that need no directive. -/
def standardHandles : List (String × String) := [("!", "!"), ("!!", "tag:yaml.org,2002:")]

/-- A token that cannot be part of the content of a document. -/
def isOutside : Token → Bool
  | .version .. | .tagPrefix .. | .documentStart | .documentEnd => true
  | _ => false

end Read

/-- The document of some tokens: there must be exactly one.  A text of which no token is left,
because it has nothing but comments, is the document in which nothing is written. -/
def Document.ofTokens (ts : List Token) : Except Fault Document := do
  if ts.isEmpty then return ⟨.empty, #[]⟩
  let (behind, handles) ← Read.readDirectives ts false []
  let content ← match behind with
    | .documentStart :: rest => pure rest
    | ts' => if ts'.length = ts.length then pure ts else throw .missingDocumentStart
  let explicit := content.length < ts.length
  let start : Reading := ⟨content, handles ++ Read.standardHandles, [], #[]⟩
  let (root, last) ←
    if explicit && content.head?.all Read.isOutside then pure (.empty, start)
    else (Read.readNode true false (3 * content.length + 3)).run start
  -- The end of a document may be marked more than once.
  if last.tokens.all (· == .documentEnd) then return ⟨root, last.anchored⟩
  else throw .documentCount

/-- The document of a text. -/
def Document.ofText (text : String) : Except Fault Document := do
  Document.ofTokens (← Token.ofText text)

end Assay.Yaml
