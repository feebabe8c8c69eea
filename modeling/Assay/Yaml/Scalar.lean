import Assay.Yaml.Cursor

/-
  The scalars of a YAML text.

  A scalar that goes over several lines is folded: a single line break becomes a blank, of several
  ones the first is dropped.  `Fold` collects the blanks and line breaks between two words until it
  is known what becomes of them.

  There is one reader for each style: `scanQuoted` for both kinds of quotation marks, `readPlain`
  for plain scalars, and `scanBlock` for the literal and the folded block.  They give the text of
  the scalar and the cursor behind it, and know nothing of what the text stands for.  A plain scalar
  ends at a comment, at a colon that makes a key of it, and inside of brackets at the marks of
  these.
-/

namespace Assay.Yaml

/-! ## Folding -/

/-- What stands between two words: blanks of the same line, the first line break, and further
ones. -/
structure Fold where
  blanks : List Char
  first : List Char
  more : List Char

namespace Fold

/-- Nothing stands between two words. -/
def empty : Fold := ⟨[], [], []⟩

/-- What the characters between two words become. -/
def text (f : Fold) : List Char :=
  match f.first with
  | [] => f.blanks ++ f.more
  | ['\n'] => if f.more.isEmpty then [' '] else f.more
  | b => b ++ f.more

/-- One more line break. -/
def addBreak (f : Fold) (b : List Char) : Fold :=
  if f.first.isEmpty then ⟨[], b, []⟩ else { f with more := f.more ++ b }

/-- Whether a line break has been seen. -/
def hasBreak (f : Fold) : Bool := !f.first.isEmpty

end Fold

/-! ## Quoted scalars -/

/-- The value of a hexadecimal digit. -/
def hexValue? (c : Char) : Option Nat :=
  let n := c.toNat
  if 48 ≤ n && n ≤ 57 then some (n - 48)
  else if 65 ≤ n && n ≤ 70 then some (n - 55)
  else if 97 ≤ n && n ≤ 102 then some (n - 87)
  else none

/-- The character of some hexadecimal digits. -/
def hexChar (ds : List Char) (count : Nat) : Except Fault Char :=
  match (ds.take count).mapM hexValue? with
  | some vs =>
    let n := vs.foldl (fun n v => n * 16 + v) 0
    if vs.length = count && n.isValidChar then .ok (Char.ofNat n) else .error .badEscape
  | none => .error .badEscape

/-- What a backslash and a letter stand for, or how many hexadecimal digits follow. -/
def escapeOf (c : Char) : Option (Char ⊕ Nat) :=
  match c with
  | '0' => some (.inl (Char.ofNat 0))
  | 'a' => some (.inl (Char.ofNat 7))
  | 'b' => some (.inl (Char.ofNat 8))
  | 't' => some (.inl '\t')
  | '\t' => some (.inl '\t')
  | 'n' => some (.inl '\n')
  | 'v' => some (.inl (Char.ofNat 11))
  | 'f' => some (.inl (Char.ofNat 12))
  | 'r' => some (.inl '\r')
  | 'e' => some (.inl (Char.ofNat 27))
  | ' ' => some (.inl ' ')
  | '"' => some (.inl '"')
  | '/' => some (.inl '/')
  | '\\' => some (.inl '\\')
  | 'N' => some (.inl (Char.ofNat 0x85))
  | '_' => some (.inl (Char.ofNat 0xA0))
  | 'L' => some (.inl (Char.ofNat 0x2028))
  | 'P' => some (.inl (Char.ofNat 0x2029))
  | 'x' => some (.inr 2)
  | 'u' => some (.inr 4)
  | 'U' => some (.inr 8)
  | _ => none

/-- Where reading a quoted scalar stands: the text so far, what stands behind the last word, and
whether a line has just begun, so that blanks do not count. -/
structure QuotedState where
  text : List Char
  fold : Fold
  lineStart : Bool

/-- The text with what stands behind the last word. -/
def QuotedState.joined (q : QuotedState) : List Char := q.text ++ q.fold.text

/-- One more character of a word. -/
def QuotedState.add (q : QuotedState) (c : Char) : QuotedState := ⟨q.joined ++ [c], .empty, false⟩

/-- Reads a quoted scalar behind its opening mark. -/
def readQuoted (double : Bool) : Nat → Cursor → QuotedState → Except Fault (List Char × Cursor)
  | 0, _, _ => .error .unclosedScalar
  | fuel + 1, c, q =>
    if c.atDocumentEdge then .error .unclosedScalar
    else
      match c.peek with
      | none => .error .unclosedScalar
      | some ch =>
        if isBlank ch then
          let fold := if q.lineStart then q.fold else
            { q.fold with blanks := q.fold.blanks ++ [ch] }
          readQuoted double fuel c.skip { q with fold := fold }
        else if isBreak ch then
          let fold := if q.lineStart && !q.fold.hasBreak then
              { q.fold with more := q.fold.more ++ c.lineBreak }
            else q.fold.addBreak c.lineBreak
          readQuoted double fuel c.skipLine { q with fold := fold, lineStart := true }
        else if double && ch = '\\' then
          match c.peekAt 1 with
          | none => .error .badEscape
          | some e =>
            if isBreak e then
              -- An escaped line break joins two lines; what stood before it stays.
              readQuoted double fuel c.skip.skipLine ⟨q.joined, .empty, true⟩
            else
              match escapeOf e with
              | none => .error .badEscape
              | some (.inl x) => readQuoted double fuel (c.skipMany 2) (q.add x)
              | some (.inr count) =>
                match hexChar (c.rest.drop 2) count with
                | .ok x => readQuoted double fuel (c.skipMany (2 + count)) (q.add x)
                | .error e => .error e
        else if ch = (if double then '"' else '\'') then
          if !double && c.peekAt 1 = some '\'' then
            readQuoted double fuel (c.skipMany 2) (q.add '\'')
          else .ok (q.joined, c.skip)
        else readQuoted double fuel c.skip (q.add ch)

/-- Reads a quoted scalar from its opening mark on. -/
def scanQuoted (double : Bool) (c : Cursor) : Except Fault (List Char × Cursor) :=
  readQuoted double (c.rest.length + 1) c.skip ⟨[], .empty, false⟩

/-! ## Plain scalars -/

/-- A character that ends a plain scalar between brackets. -/
def isFlowMark (c : Char) : Bool := c = ',' || c = '[' || c = ']' || c = '\x7b' || c = '\x7d'

/-- A plain scalar ends at this character. -/
def endsPlain (inFlow : Bool) (c : Cursor) (ch : Char) : Bool :=
  (ch = ':' && endsWord (c.peekAt 1)) || (inFlow && isFlowMark ch)

/-- A colon between brackets that is no separator and no part of a word. -/
def strayColon (inFlow : Bool) (c : Cursor) (ch : Char) : Bool :=
  inFlow && ch = ':' &&
    match c.peekAt 1 with
    | some d => isFlowMark d || d = '?'
    | none => false

/-- Reads a plain scalar.  The result is its text, the place behind its last word or the blanks
after it, and whether it ended at the start of a line. -/
def readPlain (inFlow : Bool) (indent : Nat) : Nat → Cursor → List Char → Fold →
    Except Fault (List Char × Cursor × Bool)
  | 0, c, text, fold => .ok (text, c, fold.hasBreak)
  | fuel + 1, c, text, fold =>
    -- A new line of the scalar begins here unless its start is part of a word.
    let wordStart := text.isEmpty || !fold.blanks.isEmpty || fold.hasBreak
    match c.peek with
    | none => .ok (text, c, fold.hasBreak)
    | some ch =>
      if c.atDocumentEdge then .ok (text, c, fold.hasBreak)
      else if wordStart && ch = '#' then .ok (text, c, fold.hasBreak)
      else if isBlank ch then
        if fold.hasBreak && c.column < indent && ch = '\t' then .error .tabInIndentation
        else
          let fold := if fold.hasBreak then fold else { fold with blanks := fold.blanks ++ [ch] }
          readPlain inFlow indent fuel c.skip text fold
      else if isBreak ch then
        readPlain inFlow indent fuel c.skipLine text (fold.addBreak c.lineBreak)
      else if !inFlow && fold.hasBreak && c.column < indent then .ok (text, c, true)
      else if strayColon inFlow c ch then .error .misplacedValue
      else if endsPlain inFlow c ch then .ok (text, c, fold.hasBreak)
      else readPlain inFlow indent fuel c.skip (text ++ fold.text ++ [ch]) .empty

/-! ## Block scalars -/

/-- Reads the header of a block scalar: whether the line breaks at the end are kept or dropped, and
how far the content is indented. -/
def readBlockHeader (c : Cursor) : Except Fault (Option Bool × Option Nat × Cursor) :=
  let chomp (c : Cursor) : Option Bool × Cursor :=
    match c.peek with
    | some '+' => (some true, c.skip)
    | some '-' => (some false, c.skip)
    | _ => (none, c)
  let indent (c : Cursor) : Except Fault (Option Nat × Cursor) :=
    match c.peek with
    | some d =>
      if d = '0' then .error .badBlockHeader
      else if d.isDigit then .ok (some (d.toNat - 48), c.skip)
      else .ok (none, c)
    | none => .ok (none, c)
  match chomp c with
  | (some keep, c) => (indent c).map fun r => (some keep, r.1, r.2)
  | (none, c) => (indent c).map fun r =>
      match r.1 with
      | none => (none, none, r.2)
      | some n => let (keep, c) := chomp r.2; (keep, some n, c)

/-- Passes over the indentation and the empty lines in front of a line with content.  `indent` is
how far the content is indented, zero as long as it is not known; `widest` the widest line so
far. -/
def readBreaks (indent : Nat) :
    Nat → Nat → Cursor → List Char → Except Fault (List Char × Nat × Cursor)
  | 0, widest, c, breaks => .ok (breaks, widest, c)
  | fuel + 1, widest, c, breaks =>
    let room := if indent = 0 then c.rest.length else indent - c.column
    let blanks := ((c.rest.takeWhile (· = ' ')).take room).length
    let c := c.skipMany blanks
    let widest := max widest c.column
    match c.peek with
    | none => .ok (breaks, widest, c)
    | some ch =>
      if (indent = 0 || c.column < indent) && ch = '\t' then .error .tabInIndentation
      else if isBreak ch then readBreaks indent fuel widest c.skipLine (breaks ++ c.lineBreak)
      else .ok (breaks, widest, c)

/-- Where reading a block scalar stands: the text so far, the line break behind the last line, those
of the empty lines after it, and whether the last line began with a blank. -/
structure BlockState where
  text : List Char
  last : List Char
  empties : List Char
  indented : Bool

/-- Reads the lines of a block scalar that are indented by `indent`. -/
def readBlockLines (literal : Bool) (indent : Nat) : Nat → Cursor → BlockState →
    Except Fault (BlockState × Cursor)
  | 0, c, b => .ok (b, c)
  | fuel + 1, c, b =>
    match c.peek with
    | none => .ok (b, c)
    | some ch =>
      if c.column ≠ indent then .ok (b, c)
      else
        let blank := isBlank ch
        let joint :=
          if !literal && b.last == ['\n'] && !b.indented && !blank then
            if b.empties.isEmpty then [' '] else []
          else b.last
        let (line, behind) := c.takeWhile fun ch => !isBreak ch
        match readBreaks indent (c.rest.length + 1) 0 behind.skipLine [] with
        | .error e => .error e
        | .ok (empties, _, next) =>
          readBlockLines literal indent fuel next
            ⟨b.text ++ joint ++ b.empties ++ line, behind.lineBreak, empties, blank⟩

/-- Reads a block scalar from its mark on; `parent` is the column of the block around it plus
one. -/
def scanBlock (literal : Bool) (parent : Nat) (c : Cursor) : Except Fault (List Char × Cursor) := do
  let (keep, given, c) ← readBlockHeader c.skip
  let c := (c.skipWhile isBlank).skipComment
  if !endsLine c.peek then throw .badBlockHeader
  let c := c.skipLine
  let known := match given with
    | some n => (parent - 1) + n
    | none => 0
  let (breaks, widest, c) ← readBreaks known (c.rest.length + 1) 0 c []
  let indent := if known = 0 then max (max widest parent) 1 else known
  let (b, c) ← readBlockLines literal indent (c.rest.length + 1) c ⟨[], [], breaks, false⟩
  let tail := match keep with
    | some false => []
    | none => b.last
    | some true => b.last ++ b.empties
  return (b.text ++ tail, c)

end Assay.Yaml
