import Assay.Json.Basic
import Assay.Text.Search

/-
  Reading the text of a JSON document.

  `Json.parse` reads one document that fills the whole text, blanks around it apart.  A text it
  refuses is answered with the fault and the place where it was noticed: a line, counted from one,
  and a column, counted in bytes.

  The reader walks a `Cursor`, the characters still to come together with the number of bytes
  already passed.  Nested values recurse with a fuel that starts at the length of the text, of which
  every call consumes at least one character; arrays and objects nested more than 127 deep are
  refused.

  A reader is a function from a cursor to a value and the cursor behind it.  `readValue`,
  `readItems` and `readMembers` are the three that call each other; `readString` and `readNumber`
  are loops on the characters.  Members are put into order as they are read, so what comes out is
  ordered (`Json.Ordered`), and of two members with one name the last one counts.  The digits of a
  number are read exactly as far as they fit a word (`fitting`), and a number that is no integer is
  then made of them and of a power of ten, each of them rounded (`Double.scaledDecimal`).

  What the writer writes is read back: `Assay.Proofs.Reading` for the compact text, and
  `Assay.Proofs.Indenting` for the indented one.
-/

namespace Assay.Json

/-! ## Faults -/

/-- What is wrong with a text. -/
inductive Fault where
  | endInList | endInObject | endInString | endInValue
  | expectedColon | expectedListCommaOrEnd | expectedObjectCommaOrEnd
  | expectedIdent | expectedValue
  | invalidEscape | invalidNumber | numberOutOfRange
  | controlCharacter | keyNotString
  | loneSurrogate | unexpectedEndOfHexEscape
  | trailingComma | trailingCharacters | tooDeep
  deriving DecidableEq, Repr

/-- The wording of a fault. -/
def Fault.message : Fault → String
  | endInList => "EOF while parsing a list"
  | endInObject => "EOF while parsing an object"
  | endInString => "EOF while parsing a string"
  | endInValue => "EOF while parsing a value"
  | expectedColon => "expected `:`"
  | expectedListCommaOrEnd => "expected `,` or `]`"
  | expectedObjectCommaOrEnd => "expected `,` or `\x7d`"
  | expectedIdent => "expected ident"
  | expectedValue => "expected value"
  | invalidEscape => "invalid escape"
  | invalidNumber => "invalid number"
  | numberOutOfRange => "number out of range"
  | controlCharacter => "control character (\\u0000-\\u001F) found while parsing a string"
  | keyNotString => "key must be a string"
  | loneSurrogate => "lone leading surrogate in hex escape"
  | unexpectedEndOfHexEscape => "unexpected end of hex escape"
  | trailingComma => "trailing comma"
  | trailingCharacters => "trailing characters"
  | tooDeep => "recursion limit exceeded"

/-- A fault and the place where it was noticed. -/
structure SyntaxError where
  fault : Fault
  line : Nat
  column : Nat
  deriving DecidableEq, Repr

/-- The wording of a syntax error. -/
def SyntaxError.message (e : SyntaxError) : String :=
  s!"{e.fault.message} at line {e.line} column {e.column}"

/-- A fault at a number of bytes from the start of the text. -/
structure FaultAt where
  fault : Fault
  offset : Nat
  deriving DecidableEq, Repr

/-- Line and column after `offset` bytes: the line breaks among them, and the bytes since the
last. -/
def position : List Char → Nat → Nat → Nat → Nat × Nat
  | [], _, line, column => (line, column)
  | c :: rest, remaining, line, column =>
    if remaining = 0 then (line, column)
    else if remaining < c.utf8Size then (line, column + remaining)
    else if c = '\n' then position rest (remaining - 1) (line + 1) 0
    else position rest (remaining - c.utf8Size) line (column + c.utf8Size)

/-- The syntax error of a fault in a text. -/
def FaultAt.locate (e : FaultAt) (text : List Char) : SyntaxError :=
  let (line, column) := position text e.offset 1 0
  ⟨e.fault, line, column⟩

/-! ## The cursor -/

/-- What is still to be read, and how many bytes have been read. -/
structure Cursor where
  rest : List Char
  offset : Nat
  deriving Repr

namespace Cursor

/-- A fault noticed behind what has been read. -/
def failHere {α : Type} (c : Cursor) (f : Fault) : Except FaultAt α := .error ⟨f, c.offset⟩

/-- A fault noticed at the character to come: its first byte counts as read, if there is one. -/
def failNext {α : Type} (c : Cursor) (f : Fault) : Except FaultAt α :=
  .error ⟨f, if c.rest.isEmpty then c.offset else c.offset + 1⟩

/-- The cursor behind one more character. -/
def after (c : Cursor) (ch : Char) (rest : List Char) : Cursor := ⟨rest, c.offset + ch.utf8Size⟩

/-- The four characters that may stand between tokens. -/
def isSpace (c : Char) : Bool := c = ' ' || c = '\n' || c = '\t' || c = '\r'

/-- Skips the blanks. -/
def skipSpace (c : Cursor) : Cursor :=
  let n := (c.rest.takeWhile isSpace).length
  ⟨c.rest.drop n, c.offset + n⟩

end Cursor

/-! ## Words and strings -/

/-- Reads the rest of `null`, `true` or `false`. -/
def readWord : List Char → Cursor → Except FaultAt Cursor
  | [], c => .ok c
  | w :: ws, c =>
    match c.rest with
    | [] => c.failHere .endInValue
    | ch :: rest => if ch = w then readWord ws (c.after ch rest)
      else .error ⟨.expectedIdent, c.offset + 1⟩

/-- The value of a hexadecimal digit. -/
def hexValue (c : Char) : Option Nat :=
  let n := c.toNat
  if 48 ≤ n && n ≤ 57 then some (n - 48)
  else if 65 ≤ n && n ≤ 70 then some (n - 55)
  else if 97 ≤ n && n ≤ 102 then some (n - 87)
  else none

/-- Reads four hexadecimal digits.  Where fewer than four bytes are left the text counts as
ended. -/
def readHex (c : Cursor) : Except FaultAt (Nat × Cursor) :=
  let near := Text.byteLength (c.rest.take 4)
  if near < 4 then .error ⟨.endInString, c.offset + near⟩
  else
    match c.rest with
    | a :: b :: d :: e :: rest =>
      match hexValue a, hexValue b, hexValue d, hexValue e with
      | some a, some b, some d, some e =>
        .ok (((a * 16 + b) * 16 + d) * 16 + e, ⟨rest, c.offset + 4⟩)
      | _, _, _, _ => .error ⟨.invalidEscape, c.offset + 4⟩
    | _ => .error ⟨.invalidEscape, c.offset + 4⟩

/-- Reads what follows `\u`: one code unit, or two that form a surrogate pair. -/
def readUnicodeEscape (c : Cursor) : Except FaultAt (Char × Cursor) := do
  let (n, c) ← readHex c
  if 0xDC00 ≤ n && n ≤ 0xDFFF then c.failHere .loneSurrogate
  else if n < 0xD800 || 0xDBFF < n then return (Char.ofNat n, c)
  else
    -- A leading surrogate: the trailing one must follow at once.
    match c.rest with
    | [] => c.failHere .endInString
    | '\\' :: rest =>
      let c := c.after '\\' rest
      match c.rest with
      | [] => c.failHere .endInString
      | 'u' :: rest =>
        let (m, c) ← readHex (c.after 'u' rest)
        if m < 0xDC00 || 0xDFFF < m then c.failHere .loneSurrogate
        else return (Char.ofNat ((n - 0xD800) * 0x400 + (m - 0xDC00) + 0x10000), c)
      | _ :: _ => .error ⟨.unexpectedEndOfHexEscape, c.offset + 1⟩
    | _ :: _ => .error ⟨.unexpectedEndOfHexEscape, c.offset + 1⟩

/-- Reads what follows a backslash. -/
def readEscape (c : Cursor) : Except FaultAt (Char × Cursor) :=
  match c.rest with
  | [] => c.failHere .endInString
  | ch :: rest =>
    let next := c.after ch rest
    match ch with
    | '"' => .ok ('"', next)
    | '\\' => .ok ('\\', next)
    | '/' => .ok ('/', next)
    | 'b' => .ok ('\x08', next)
    | 'f' => .ok ('\x0c', next)
    | 'n' => .ok ('\n', next)
    | 'r' => .ok ('\r', next)
    | 't' => .ok ('\t', next)
    | 'u' => readUnicodeEscape next
    | _ => .error ⟨.invalidEscape, c.offset + 1⟩

/-- Reads a string behind its opening quotation mark. -/
def readString : Nat → Cursor → List Char → Except FaultAt (String × Cursor)
  | 0, c, _ => c.failHere .endInString
  | fuel + 1, c, acc =>
    match c.rest with
    | [] => c.failHere .endInString
    | '"' :: rest => .ok (String.ofList acc.reverse, c.after '"' rest)
    | '\\' :: rest => do
      let (ch, c) ← readEscape (c.after '\\' rest)
      readString fuel c (ch :: acc)
    | ch :: rest =>
      if ch.toNat < 32 then (c.after ch rest).failHere .controlCharacter
      else readString fuel (c.after ch rest) (ch :: acc)

/-! ## Numbers -/

/-- The digits at the front of a text. -/
def digitsOf (s : List Char) : List Char := s.takeWhile Char.isDigit

/-- The number that a list of digits stands for. -/
def digitsValue (ds : List Char) : Nat := ds.foldl (fun n d => n * 10 + (d.toNat - 48)) 0

/-- The longest front part of the digits whose number, appended to `start`, still fits a 64-bit
word: the number reached and the digits left over. -/
def fitting (start : Nat) : List Char → Nat × List Char
  | [] => (start, [])
  | d :: ds =>
    let n := start * 10 + (d.toNat - 48)
    if n < 0x10000000000000000 then fitting n ds else (start, d :: ds)

/-- Largest exponent that is looked at digit by digit. -/
def exponentLimit : Nat := 0x7FFFFFFF

/-- The double that a sign, a significand and a power of ten stand for. -/
def scaled (c : Cursor) (negative : Bool) (significand : Nat) (exponent : Int) :
    Except FaultAt (Number × Cursor) :=
  match Double.scaledDecimal negative significand exponent with
  | some d => .ok (.double d, c)
  | none => c.failHere .numberOutOfRange

/-- The exponent digits up to the first at which the exponent passes its limit; the flag tells
whether it did, in which case that digit has been passed too. -/
def exponentDigits : Nat → List Char → Nat × Nat × Bool
  | e, [] => (e, 0, false)
  | e, d :: ds =>
    let n := e * 10 + (d.toNat - 48)
    if exponentLimit < n then (e, 1, true)
    else
      let (r, k, passed) := exponentDigits n ds
      (r, k + 1, passed)

/-- Keeps an exponent within 32 bits. -/
def clampExponent (e : Int) : Int := max (-0x80000000) (min (0x7FFFFFFF) e)

/-- Reads an exponent, at its letter. -/
def readExponent (c : Cursor) (negative : Bool) (significand : Nat) (start : Int) :
    Except FaultAt (Number × Cursor) :=
  let c : Cursor := ⟨c.rest.drop 1, c.offset + 1⟩
  let (up, c) := match c.rest with
    | '+' :: rest => (true, c.after '+' rest)
    | '-' :: rest => (false, c.after '-' rest)
    | _ => (true, c)
  match c.rest with
  | [] => c.failHere .endInValue
  | d :: rest =>
    if d.isDigit then
      let ds := digitsOf rest
      let (e, k, passed) := exponentDigits (d.toNat - 48) ds
      if passed then
        let here : Cursor := ⟨rest.drop k, c.offset + 1 + k⟩
        if significand ≠ 0 && up then here.failHere .numberOutOfRange
        else .ok (.double (Double.zero negative), ⟨rest.drop ds.length, c.offset + 1 + ds.length⟩)
      else
        scaled ⟨rest.drop k, c.offset + 1 + k⟩ negative significand
          (clampExponent (if up then start + e else start - e))
    else .error ⟨.invalidNumber, c.offset + 1⟩

/-- Reads a fraction, at its point; `start` counts the digits of the whole part that were
dropped. -/
def readFraction (c : Cursor) (negative : Bool) (significand : Nat) (start : Int) :
    Except FaultAt (Number × Cursor) :=
  let c : Cursor := ⟨c.rest.drop 1, c.offset + 1⟩
  let ds := digitsOf c.rest
  let (n, left) := fitting significand ds
  let used := ds.length - left.length
  if ds.isEmpty then
    if c.rest.isEmpty then c.failNext .endInValue else c.failNext .invalidNumber
  else
    let exponent := start - used
    let next : Cursor := ⟨c.rest.drop ds.length, c.offset + ds.length⟩
    match next.rest with
    | 'e' :: _ | 'E' :: _ => readExponent next negative n exponent
    | _ => scaled next negative n exponent

/-- Reads a number behind its sign. -/
def readNumber (c : Cursor) (negative : Bool) : Except FaultAt (Number × Cursor) :=
  match c.rest with
  | [] => c.failHere .endInValue
  | d :: rest =>
    if d.isDigit then
      let ds := if d = '0' then [d] else digitsOf (d :: rest)
      let (n, left) := fitting 0 ds
      let next : Cursor := ⟨(d :: rest).drop ds.length, c.offset + ds.length⟩
      if d = '0' && (rest.head?.map Char.isDigit).getD false then next.failNext .invalidNumber
      else
        match next.rest with
        | '.' :: _ => readFraction next negative n left.length
        | 'e' :: _ | 'E' :: _ => readExponent next negative n left.length
        | _ =>
          -- An integer if it fits; minus zero and everything larger is a double.
          let value : Int := if negative then -n else n
          match Number.ofInt? value with
          | some i =>
            if left.isEmpty && !(negative && n = 0) then .ok (i, next)
            else scaled next negative n left.length
          | none => scaled next negative n left.length
    else .error ⟨.invalidNumber, c.offset + 1⟩

/-! ## Values -/

/-- Nested arrays and objects that are still allowed. -/
def depthLimit : Nat := 127

mutual
/-- Reads a value. -/
def readValue : Nat → Nat → Cursor → Except FaultAt (Json × Cursor)
  | 0, _, c => c.failNext .endInValue
  | fuel + 1, depth, c =>
    let c := c.skipSpace
    match c.rest with
    | [] => c.failNext .endInValue
    | 'n' :: rest => do
      let c ← readWord ['u', 'l', 'l'] (c.after 'n' rest)
      return (.null, c)
    | 't' :: rest => do
      let c ← readWord ['r', 'u', 'e'] (c.after 't' rest)
      return (.bool true, c)
    | 'f' :: rest => do
      let c ← readWord ['a', 'l', 's', 'e'] (c.after 'f' rest)
      return (.bool false, c)
    | '-' :: rest => do
      let (n, c) ← readNumber (c.after '-' rest) true
      return (.number n, c)
    | '"' :: rest => do
      let (s, c) ← readString (rest.length + 1) (c.after '"' rest) []
      return (.string s, c)
    | '[' :: rest =>
      match depth with
      | 0 => c.failNext .tooDeep
      | depth + 1 => do
        let (items, c) ← readItems fuel depth (c.after '[' rest) true
        return (.array items, c)
    | '{' :: rest =>
      match depth with
      | 0 => c.failNext .tooDeep
      | depth + 1 => do
        let (members, c) ← readMembers fuel depth (c.after '{' rest) true []
        return (.object members, c)
    | ch :: _ =>
      if ch.isDigit then do
        let (n, c) ← readNumber c false
        return (.number n, c)
      else c.failNext .expectedValue
/-- Reads the items of an array up to its closing bracket. -/
def readItems : Nat → Nat → Cursor → Bool → Except FaultAt (List Json × Cursor)
  | 0, _, c, _ => c.failNext .endInList
  | fuel + 1, depth, c, first =>
    let c := c.skipSpace
    match c.rest with
    | [] => c.failNext .endInList
    | ']' :: rest => .ok ([], c.after ']' rest)
    | ch :: rest => do
      let c ← if first then pure c
        else if ch = ',' then
          let c := (c.after ',' rest).skipSpace
          match c.rest with
          | [] => c.failNext .endInValue
          | ']' :: _ => c.failNext .trailingComma
          | _ :: _ => pure c
        else c.failNext .expectedListCommaOrEnd
      let (v, c) ← readValue fuel depth c
      let (vs, c) ← readItems fuel depth c false
      return (v :: vs, c)
/-- Reads the members of an object up to its closing brace, putting each at its place. -/
def readMembers : Nat → Nat → Cursor → Bool → List (String × Json) →
    Except FaultAt (List (String × Json) × Cursor)
  | 0, _, c, _, _ => c.failNext .endInObject
  | fuel + 1, depth, c, first, acc =>
    let c := c.skipSpace
    match c.rest with
    | [] => c.failNext .endInObject
    | '}' :: rest => .ok (acc, c.after '}' rest)
    | ch :: rest => do
      let c ← if first then
          if ch = '"' then pure c else c.failNext .keyNotString
        else if ch = ',' then
          let c := (c.after ',' rest).skipSpace
          match c.rest with
          | '"' :: _ => pure c
          | '}' :: _ => c.failNext .trailingComma
          | [] => c.failNext .endInValue
          | _ :: _ => c.failNext .keyNotString
        else c.failNext .expectedObjectCommaOrEnd
      let (key, c) ← readString c.rest.length ⟨c.rest.drop 1, c.offset + 1⟩ []
      let c := c.skipSpace
      let c ← match c.rest with
        | [] => c.failNext .endInObject
        | ':' :: rest => pure (c.after ':' rest)
        | _ :: _ => c.failNext .expectedColon
      let (v, c) ← readValue fuel depth c
      readMembers fuel depth c false (put key v acc)
end

/-- Reads a document that fills the whole text. -/
def parseChars (text : List Char) : Except SyntaxError Json :=
  let start : Cursor := ⟨text, 0⟩
  let result : Except FaultAt Json := do
    let (v, c) ← readValue (2 * text.length + 1) depthLimit start
    let c := c.skipSpace
    if c.rest.isEmpty then pure v else c.failNext .trailingCharacters
  match result with
  | .ok v => .ok v
  | .error e => .error (e.locate text)

/-- Reads a document that fills the whole text. -/
def parse (text : String) : Except SyntaxError Json := parseChars text.toList

end Assay.Json
