import Assay.Yaml.Token

/-
  A place in a YAML text.

  A cursor knows what is left of the text, the line and the column, and how many characters have
  been read.  Five characters and one pair end a line; all but the line and paragraph separators
  count as the same line break when they become part of a scalar.

  `peek` and `peekAt` look ahead, `skip` passes one character and `skipLine` the end of a line.  The
  column is what indentation is measured by, and line and index tell how far back a key may have
  begun.  Tokens do not keep their places, and neither do faults.
-/

namespace Assay.Yaml

/-- A place in a text. -/
structure Cursor where
  rest : List Char
  index : Nat
  line : Nat
  column : Nat
  deriving Repr

/-- The start of a text. -/
def Cursor.start (s : List Char) : Cursor := ⟨s, 0, 0, 0⟩

/-! ## Classes of characters -/

/-- A blank or a tab. -/
def isBlank (c : Char) : Bool := c = ' ' || c = '\t'

/-- A character that ends a line. -/
def isBreak (c : Char) : Bool :=
  c = '\n' || c = '\r' || c.toNat = 0x85 || c.toNat = 0x2028 || c.toNat = 0x2029

/-- The end of a text, the end of a line, or a blank. -/
def endsWord : Option Char → Bool
  | none => true
  | some c => isBlank c || isBreak c

/-- The end of a text or of a line. -/
def endsLine : Option Char → Bool
  | none => true
  | some c => isBreak c

/-- A character of the names of anchors, directives and handles. -/
def isNameChar (c : Char) : Bool := c.isAlphanum || c = '_' || c = '-'

/-- A character that a text may have. -/
def isAllowed (c : Char) : Bool :=
  let n := c.toNat
  n = 9 || n = 10 || n = 13 || (0x20 ≤ n && n ≤ 0x7E) || n = 0x85 || (0xA0 ≤ n && n ≤ 0xD7FF) ||
    (0xE000 ≤ n && n ≤ 0xFFFD) || 0x10000 ≤ n

namespace Cursor

/-- The character at the cursor. -/
def peek (c : Cursor) : Option Char := c.rest.head?

/-- The character some places behind the cursor. -/
def peekAt (c : Cursor) (i : Nat) : Option Char := c.rest[i]?

/-- The character at the cursor is the given one. -/
def sees (c : Cursor) (ch : Char) : Bool := c.rest.head? == some ch

/-- The cursor behind the next character. -/
def skip (c : Cursor) : Cursor := ⟨c.rest.tail, c.index + 1, c.line, c.column + 1⟩

/-- The cursor behind some characters. -/
def skipMany (c : Cursor) (n : Nat) : Cursor := ⟨c.rest.drop n, c.index + n, c.line, c.column + n⟩

/-- The cursor behind a line break, if there is one: a carriage return takes a line feed with it. -/
def skipLine (c : Cursor) : Cursor :=
  match c.rest with
  | '\r' :: '\n' :: rest => ⟨rest, c.index + 2, c.line + 1, 0⟩
  | ch :: rest => if isBreak ch then ⟨rest, c.index + 1, c.line + 1, 0⟩ else c
  | [] => c

/-- A line break as it becomes part of a scalar. -/
def lineBreak (c : Cursor) : List Char :=
  match c.rest with
  | ch :: _ =>
    if ch.toNat = 0x2028 || ch.toNat = 0x2029 then [ch] else if isBreak ch then ['\n'] else []
  | [] => []

/-- The characters at the cursor that satisfy a condition, and the cursor behind them. -/
def takeWhile (c : Cursor) (p : Char → Bool) : List Char × Cursor :=
  let s := c.rest.takeWhile p
  (s, c.skipMany s.length)

/-- The cursor behind the characters that satisfy a condition. -/
def skipWhile (c : Cursor) (p : Char → Bool) : Cursor := (c.takeWhile p).2

/-- The cursor behind a comment, if there is one. -/
def skipComment (c : Cursor) : Cursor := if c.sees '#' then c.skipWhile fun ch => !isBreak ch else c

/-- Three characters at the start of a line that mark the start or the end of a document. -/
def atDocumentMark (c : Cursor) (mark : Char) : Bool :=
  c.column = 0 && c.rest.take 3 == [mark, mark, mark] && endsWord (c.peekAt 3)

/-- The start or the end of a document is marked here. -/
def atDocumentEdge (c : Cursor) : Bool := c.atDocumentMark '-' || c.atDocumentMark '.'

end Cursor

end Assay.Yaml
