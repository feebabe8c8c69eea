import Assay.Yaml.Scalar

/-
  From a YAML text to its tokens.

  Outside of brackets the structure of a text is given by indentation: a line that is indented
  further than the block around it opens a block, one that is indented less closes blocks.  A key
  needs no mark of its own.  So wherever one may begin its place is remembered as an `OpenKey`, and
  the colon that follows on the same line and within 1024 characters turns it into a key, together
  with the block it opens.

  The state is one record (`Lexer`), and `run` takes one step after the other on it.  A step passes
  over blanks and comments, forgets the keys that can no longer have begun (`refreshKeys`), closes
  the blocks that the indentation closes (`closeBlocks`), and then reads what the next character
  starts (`readToken`).  `emit` adds a token at the end; the start of a key and of its block are put
  in where the key began, before tokens that are there already.  Each step takes a character at
  least, and there is fuel for one step more than the text has characters.
-/

namespace Assay.Yaml

/-! ## The state of reading -/

/-- A place where a key may have begun: how many tokens stand before it, and where it is in the
text.  A required one stands where only a key can stand. -/
structure OpenKey where
  required : Bool
  position : Nat
  index : Nat
  line : Nat
  column : Nat

/-- Reading a text: what is left, the tokens so far, the column of the innermost block and of those
around it, the open key at this level of brackets and at those around it, and whether a key may
begin here. -/
structure Lexer where
  cursor : Cursor
  tokens : Array Token
  indent : Int
  outerIndents : List Int
  key : Option OpenKey
  outerKeys : List (Option OpenKey)
  keyAllowed : Bool

namespace Lexer

/-- The start of a text. -/
def start (s : List Char) : Lexer := ⟨.start s, #[], -1, [], none, [], true⟩

/-- The place is between brackets. -/
def inFlow (l : Lexer) : Bool := !l.outerKeys.isEmpty

/-- One more token. -/
def emit (l : Lexer) (t : Token) : Lexer := { l with tokens := l.tokens.push t }

/-- The place behind a mark of some characters, which is a token. -/
def emitMark (l : Lexer) (width : Nat) (t : Token) : Lexer :=
  { l.emit t with cursor := l.cursor.skipMany width }

/-- From here on a key may begin, or not. -/
def allowKey (l : Lexer) (allowed : Bool) : Lexer := { l with keyAllowed := allowed }

/-! ## Indentation -/

/-- Closes the blocks that are indented further than a column. -/
def closeBlocks (l : Lexer) (column : Int) : Lexer :=
  if l.inFlow then l else go l.indent l.outerIndents l
where
  /-- Closes blocks from the innermost on. -/
  go (indent : Int) (outer : List Int) (l : Lexer) : Lexer :=
    if column < indent then
      match outer with
      | [] => { l.emit .blockEnd with indent := -1, outerIndents := [] }
      | i :: rest => go i rest (l.emit .blockEnd)
    else { l with indent := indent, outerIndents := outer }

/-- Opens a block at a column, unless the innermost one is as far to the right; its token comes at
the given position. -/
def openBlock (l : Lexer) (column position : Nat) (t : Token) : Lexer :=
  if !l.inFlow && l.indent < column then
    { l with
      tokens := l.tokens.insertIdxIfInBounds position t
      indent := column
      outerIndents := l.indent :: l.outerIndents }
  else l

/-! ## Open keys -/

/-- Forgets the open key of this level. -/
def dropKey (l : Lexer) : Except Fault Lexer :=
  match l.key with
  | some k => if k.required then .error .missingColon else .ok { l with key := none }
  | none => .ok l

/-- Remembers that a key may begin here. -/
def openKey (l : Lexer) : Except Fault Lexer :=
  if l.keyAllowed then do
    let l ← l.dropKey
    let c := l.cursor
    return { l with
      key := some ⟨!l.inFlow && l.indent = c.column, l.tokens.size, c.index, c.line, c.column⟩ }
  else .ok l

/-- An open key that is on an earlier line or too far away is none. -/
def isStale (c : Cursor) (k : OpenKey) : Bool := k.line < c.line || k.index + 1024 < c.index

/-- Forgets the open key if it is stale. -/
def refresh (c : Cursor) : Option OpenKey → Except Fault (Option OpenKey)
  | none => .ok none
  | some k =>
    if isStale c k then if k.required then .error .missingColon else .ok none else .ok (some k)

/-- Forgets the open keys that are stale, at every level. -/
def refreshKeys (l : Lexer) : Except Fault Lexer := do
  let key ← refresh l.cursor l.key
  let outer ← l.outerKeys.mapM (refresh l.cursor)
  return { l with key := key, outerKeys := outer }

/-! ## Between tokens -/

/-- Passes over blanks, comments and line breaks.  A tab is no blank where a key may begin. -/
def skipBlanks : Nat → Lexer → Lexer
  | 0, l => l
  | fuel + 1, l =>
    let tabs := l.inFlow || !l.keyAllowed
    let c := (l.cursor.skipWhile fun ch => ch = ' ' || (tabs && ch = '\t')).skipComment
    if c.peek.any isBreak then
      skipBlanks fuel { l with cursor := c.skipLine, keyAllowed := l.keyAllowed || !l.inFlow }
    else { l with cursor := c }

/-- The place of the next token.  A mark of the byte order may stand at the very start of a text. -/
def approach (l : Lexer) : Lexer :=
  let c := l.cursor
  let c := if c.index = 0 && c.peek.any (·.toNat = 0xFEFF) then c.skip else c
  skipBlanks (c.rest.length + 1) { l with cursor := c }

/-! ## Names, tags and directives -/

/-- The characters of an address, beside letters and digits. -/
def isAddressMark (c : Char) : Bool := ";/?:@&=+$.%!~*'()".toList.contains c

/-- Reads the characters of an address; those that are written as bytes have a percent sign and two
hexadecimal digits for each byte. -/
def readAddress (brackets : Bool) : Nat → Cursor → List UInt8 → Except Fault (List UInt8 × Cursor)
  | 0, c, bytes => .ok (bytes, c)
  | fuel + 1, c, bytes =>
    match c.rest with
    | '%' :: a :: b :: _ =>
      match hexValue? a, hexValue? b with
      | some x, some y =>
        readAddress brackets fuel (c.skipMany 3) (bytes ++ [UInt8.ofNat (x * 16 + y)])
      | _, _ => .error .badTag
    | '%' :: _ => .error .badTag
    | ch :: _ =>
      if isNameChar ch || isAddressMark ch || (brackets && (ch = ',' || ch = '[' || ch = ']')) then
        readAddress brackets fuel c.skip (bytes ++ ch.toString.toUTF8.toList)
      else .ok (bytes, c)
    | [] => .ok (bytes, c)

/-- An address as text. -/
def address (brackets : Bool) (c : Cursor) : Except Fault (String × Cursor) := do
  let (bytes, c) ← readAddress brackets (c.rest.length + 1) c []
  match String.fromUTF8? ⟨bytes.toArray⟩ with
  | some s => return (s, c)
  | none => throw .badTag

/-- Reads an exclamation mark, the name behind it, and the exclamation mark that closes a handle. -/
def readHandle (c : Cursor) : String × Cursor :=
  let (name, c) := c.skip.takeWhile isNameChar
  if c.sees '!' then (String.ofList ('!' :: name ++ ['!']), c.skip) else
    (String.ofList ('!' :: name), c)

/-- A text that is a handle: two exclamation marks with a name between them, which may be empty. -/
def isHandle (s : String) : Bool := 1 < s.length && s.endsWith "!"

/-- Reads a tag: its handle and its suffix. -/
def readTag (inFlow : Bool) (c : Cursor) : Except Fault (Token × Cursor) := do
  let (handle, suffix, c) ←
    if c.peekAt 1 = some '<' then do
      let (s, c) ← address true (c.skipMany 2)
      if s.isEmpty || !c.sees '>' then throw .badTag
      pure ("", s, c.skip)
    else do
      let (handle, c) := readHandle c
      let (s, c) ← address false c
      if isHandle handle then
        if s.isEmpty then throw .badTag
        pure (handle, s, c)
      else
        -- It was no handle: what has been read is the beginning of a suffix.
        let suffix := String.ofList (handle.toList.drop 1) ++ s
        pure (if suffix.isEmpty then ("", "!", c) else ("!", suffix, c))
  if endsWord c.peek || (inFlow && c.sees ',') then return (.tag handle suffix, c)
  else throw .badTag

/-- Reads the name of an anchor, behind its mark. -/
def readAnchor (c : Cursor) : Except Fault (String × Cursor) :=
  let (name, c) := c.skip.takeWhile isNameChar
  let ended := endsWord c.peek ||
    c.peek.any fun ch => "?:,]\x7d%@".toList.contains ch || ch.toNat = 0x60
  if name.isEmpty || !ended then .error .badAnchor else .ok (String.ofList name, c)

/-- Reads a number of at most nine digits. -/
def readVersionNumber (c : Cursor) : Except Fault (Nat × Cursor) :=
  let (ds, c) := c.takeWhile Char.isDigit
  if ds.isEmpty || 9 < ds.length then .error .badDirective
  else .ok (ds.foldl (fun n d => n * 10 + (d.toNat - 48)) 0, c)

/-- Reads a directive: the version of the language, or what a tag handle stands for. -/
def readDirective (c : Cursor) : Except Fault (Token × Cursor) := do
  let (name, c) := c.skip.takeWhile isNameChar
  if !endsWord c.peek then throw .badDirective
  let c := c.skipWhile isBlank
  let (token, c) ← match String.ofList name with
    | "YAML" => do
      let (major, c) ← readVersionNumber c
      if !c.sees '.' then throw .badDirective
      let (minor, c) ← readVersionNumber c.skip
      pure (Token.version major minor, c)
    | "TAG" => do
      if !c.sees '!' then throw .badDirective
      let (handle, c) := readHandle c
      if (handle ≠ "!" && !isHandle handle) || !c.peek.any isBlank then throw .badDirective
      let (target, c) ← address true (c.skipWhile isBlank)
      if target.isEmpty || !endsWord c.peek then throw .badDirective
      pure (Token.tagPrefix handle target, c)
    | _ => throw .badDirective
  let c := (c.skipWhile isBlank).skipComment
  if endsLine c.peek then return (token, c) else throw .badDirective

/-! ## Reading one token -/

/-- Reads a token of the form of a name or a scalar, before which a key may begin. -/
def readNode (l : Lexer) (read : Cursor → Except Fault (Token × Cursor)) : Except Fault Lexer := do
  let l ← l.openKey
  let (token, c) ← read l.cursor
  return { l.emit token with cursor := c, keyAllowed := false }

/-- Opens a bracket. -/
def openFlow (l : Lexer) (t : Token) : Except Fault Lexer := do
  let l ← l.openKey
  return { l.emitMark 1 t with key := none, outerKeys := l.key :: l.outerKeys, keyAllowed := true }

/-- Closes a bracket. -/
def closeFlow (l : Lexer) (t : Token) : Except Fault Lexer := do
  let l ← l.dropKey
  let (key, outer) := match l.outerKeys with
    | k :: rest => (k, rest)
    | [] => (none, [])
  return { l.emitMark 1 t with key := key, outerKeys := outer, keyAllowed := false }

/-- A mark that opens an entry of a block: outside of brackets it needs a place where a key may
begin. -/
def blockMark (l : Lexer) (block t : Token) (fault : Fault) (allowed : Bool) :
    Except Fault Lexer := do
  if !l.inFlow && !l.keyAllowed then throw fault
  let l ← (l.openBlock l.cursor.column l.tokens.size block).dropKey
  return (l.emitMark 1 t).allowKey allowed

/-- A colon: it turns the open key into a key, or follows a key that has its own mark. -/
def valueMark (l : Lexer) : Except Fault Lexer :=
  match l.key with
  | some k =>
    let l := { l with tokens := l.tokens.insertIdxIfInBounds k.position .key, key := none }
    let l := l.openBlock k.column k.position .blockMapping
    .ok ((l.emitMark 1 .value).allowKey false)
  | none =>
    if !l.inFlow && !l.keyAllowed then .error .misplacedValue
    else
      let l := l.openBlock l.cursor.column l.tokens.size .blockMapping
      .ok ((l.emitMark 1 .value).allowKey !l.inFlow)

/-- Something at the start of a line that belongs to no block. -/
def outsideBlocks (l : Lexer) (read : Cursor → Except Fault (Token × Cursor)) :
    Except Fault Lexer := do
  let l ← (l.closeBlocks (-1)).dropKey
  let (token, c) ← read l.cursor
  return { l.emit token with cursor := c, keyAllowed := false }

/-- A block scalar. -/
def blockScalar (l : Lexer) (literal : Bool) : Except Fault Lexer := do
  let l ← l.dropKey
  let (text, c) ← scanBlock literal (l.indent + 1).toNat l.cursor
  let style := if literal then ScalarStyle.literal else .folded
  return { l.emit (.scalar (String.ofList text) style) with cursor := c, keyAllowed := true }

/-- A plain scalar.  One that ends at the start of a line leaves room for a key. -/
def plainScalar (l : Lexer) : Except Fault Lexer := do
  let l ← l.openKey
  let c := l.cursor
  let (text, c, broken) ← readPlain l.inFlow (l.indent + 1).toNat (c.rest.length + 1) c [] .empty
  return { l.emit (.scalar (String.ofList text) .plain) with cursor := c, keyAllowed := broken }

/-- A character that cannot begin a plain scalar. -/
def isIndicator (c : Char) : Bool := "-?:,[]\x7b\x7d#&*!|>'\"%@".toList.contains c || c.toNat = 0x60

/-- Reads the token at the place of the lexer, where `ch` stands. -/
def readToken (l : Lexer) (ch : Char) : Except Fault Lexer :=
  let c := l.cursor
  let apart := endsWord (c.peekAt 1)
  let quoted (double : Bool) (style : ScalarStyle) := l.readNode fun c => do
    let (text, c) ← scanQuoted double c
    return (Token.scalar (String.ofList text) style, c)
  if c.column = 0 && ch = '%' then l.outsideBlocks readDirective
  else if c.atDocumentMark '-' then l.outsideBlocks fun c => .ok (.documentStart, c.skipMany 3)
  else if c.atDocumentMark '.' then l.outsideBlocks fun c => .ok (.documentEnd, c.skipMany 3)
  else if ch = '[' then l.openFlow .flowSequence
  else if ch = '\x7b' then l.openFlow .flowMapping
  else if ch = ']' then l.closeFlow .flowSequenceEnd
  else if ch = '\x7d' then l.closeFlow .flowMappingEnd
  else if ch = ',' then do return ((← l.dropKey).emitMark 1 .flowEntry).allowKey true
  else if ch = '-' && apart then l.blockMark .blockSequence .blockEntry .misplacedEntry true
  else if ch = '?' && (l.inFlow || apart) then
    l.blockMark .blockMapping .key .misplacedKey !l.inFlow
  else if ch = ':' && (l.inFlow || apart) then l.valueMark
  else if ch = '*' then l.readNode fun c => (readAnchor c).map fun r => (.aliasOf r.1, r.2)
  else if ch = '&' then l.readNode fun c => (readAnchor c).map fun r => (.anchor r.1, r.2)
  else if ch = '!' then l.readNode (readTag l.inFlow)
  else if ch = '|' && !l.inFlow then l.blockScalar true
  else if ch = '>' && !l.inFlow then l.blockScalar false
  else if ch = '\'' then quoted false .single
  else if ch = '"' then quoted true .double
  else if !(isIndicator ch || isBlank ch) || ch = '-' || (!l.inFlow && (ch = '?' || ch = ':')) then
    l.plainScalar
  else .error .unexpectedCharacter

/-- The end of a text: all blocks are closed. -/
def finish (l : Lexer) : Except Fault (List Token) := do
  let l ← (l.closeBlocks (-1)).dropKey
  return l.tokens.toList

/-- Reads tokens up to the end of the text. -/
def run : Nat → Lexer → Except Fault (List Token)
  | 0, l => l.finish
  | fuel + 1, l => do
    let l ← l.approach.refreshKeys
    let l := l.closeBlocks l.cursor.column
    match l.cursor.peek with
    | none => l.finish
    | some ch => run fuel (← l.readToken ch)

end Lexer

/-- The tokens of a text. -/
def Token.ofText (text : String) : Except Fault (List Token) :=
  let s := text.toList
  if s.all isAllowed then (Lexer.start s).run (s.length + 1) else .error .controlCharacter

end Assay.Yaml
