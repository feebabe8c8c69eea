import Assay.Regex.Syntax
import Assay.Text.Blank

/-
  Reading patterns.

  The reader goes through the pattern once.  Its state holds what is left, whether blanks and
  comments are passed over, and the names given to groups so far; every function gives back the
  state behind what it has read, or nothing if the pattern is not well formed.  Groups and brackets
  recurse with a fuel that starts above the length of the pattern.

  The grammar has neither references back to groups nor assertions that look around.  A repetition
  of nothing (`repeatable`) is refused, and so is a range whose ends are in the wrong order
  (`readSetRange`) and a pattern that is nested too deeply.  With the flag `x` blanks and comments
  are passed over between any two parts (`skip`, `bumpSkip`).
-/

namespace Assay.Regex

/-- The state of the reader. -/
structure Reader where
  rest : List Char
  verbose : Bool
  names : List (List Char)

namespace Reader

/-- Passes a comment. -/
def skipComment : List Char → List Char
  | [] => []
  | '\n' :: rest => rest
  | _ :: rest => skipComment rest

/-- Passes blanks and comments. -/
def skipBlanks : Nat → List Char → List Char
  | 0, s => s
  | _ + 1, [] => []
  | fuel + 1, c :: rest =>
    if Text.isBlank c then skipBlanks fuel rest
    else if c = '#' then skipBlanks fuel (skipComment rest)
    else c :: rest

/-- Passes blanks and comments, where they do not count. -/
def skip (r : Reader) : Reader :=
  if r.verbose then { r with rest := skipBlanks (r.rest.length + 1) r.rest } else r

/-- The reader with something else left. -/
def leaving (r : Reader) (rest : List Char) : Reader := { r with rest := rest }

/-- Passes one character. -/
def bump (r : Reader) : Reader := r.leaving r.rest.tail

/-- Passes one character, and blanks and comments behind it. -/
def bumpSkip (r : Reader) : Reader := r.bump.skip

/-- The character to come. -/
def peek (r : Reader) : Option Char := r.rest.head?

/-- The character behind the one to come, blanks and comments passed over where they do not
count. -/
def peekSecond (r : Reader) : Option Char := r.bumpSkip.peek

end Reader

/-! ## Flags -/

/-- The flag that a letter stands for. -/
def flagOf : Char → Option Flag
  | 'i' => some .ignoreCase
  | 'm' => some .multiLine
  | 's' => some .dotAll
  | 'U' => some .swapGreed
  | 'u' => some .unicode
  | 'R' => some .crlf
  | 'x' => some .verbose
  | _ => none

/-- Reads flags up to a colon or a closing parenthesis, which is given back. -/
def readFlags : List Char → List FlagItem → Option (List FlagItem × Char × List Char)
  | [], _ => none
  | c :: rest, acc =>
    if c = ':' || c = ')' then
      -- A sign at the end switches nothing off.
      if acc.getLast? = some .negation then none else some (acc, c, rest)
    else
      let item? := if c = '-' then some FlagItem.negation else (flagOf c).map FlagItem.flag
      match item? with
      | none => none
      | some item => if acc.contains item then none else readFlags rest (acc ++ [item])

/-- What a list of flags says about one of them. -/
def flagState (f : Flag) : List FlagItem → Bool → Option Bool
  | [], _ => none
  | .negation :: rest, _ => flagState f rest false
  | .flag g :: rest, on => if g = f then some on else flagState f rest on

/-! ## Escapes -/

/-- Characters with a meaning of their own. -/
def isMeta (c : Char) : Bool := "\\.+*?()|[]\x7b\x7d^$#&-~".toList.contains c

/-- Characters that may stand behind a backslash for themselves. -/
def isEscapable (c : Char) : Bool :=
  isMeta c || (c.toNat < 128 && !c.isAlphanum && c ≠ '<' && c ≠ '>')

/-- The value of a hexadecimal digit. -/
def hexOf (c : Char) : Option Nat :=
  let n := c.toNat
  if 48 ≤ n && n ≤ 57 then some (n - 48)
  else if 65 ≤ n && n ≤ 70 then some (n - 55)
  else if 97 ≤ n && n ≤ 102 then some (n - 87)
  else none

/-- The character of a code point, if there is one. -/
def charOf? (n : Nat) : Option Char := if n.isValidChar then some (Char.ofNat n) else none

/-- Reads a fixed number of hexadecimal digits. -/
def readHexDigits : Nat → Nat → Reader → Option (Nat × Reader)
  | 0, value, r => some (value, r)
  | n + 1, value, r => do
    let d ← hexOf (← r.peek)
    readHexDigits n (value * 16 + d) r.bumpSkip

/-- Reads hexadecimal digits up to a closing brace. -/
def readHexBraced : Nat → List Nat → Reader → Option (List Nat × Reader)
  | 0, _, _ => none
  | fuel + 1, acc, r => do
    let c ← r.peek
    if c = '}' then return (acc.reverse, r.bumpSkip)
    else readHexBraced fuel ((← hexOf c) :: acc) r.bumpSkip

/-- Reads the escape of a code point, at its letter. -/
def readHex (digits : Nat) (r : Reader) : Option (Literal × Reader) := do
  let r := r.bumpSkip
  if (← r.peek) = '{' then
    let r := r.bumpSkip
    let (ds, r) ← readHexBraced (r.rest.length + 1) [] r
    if ds.isEmpty then none
    else
      let c ← charOf? (ds.foldl (fun n d => n * 16 + d) 0)
      return (⟨c, false⟩, r)
  else
    let (n, r) ← readHexDigits digits 0 r
    let c ← charOf? n
    return (⟨c, digits = 2⟩, r)

/-- Cuts a property query at its operator. -/
def queryOf (body : List Char) : PropertyQuery :=
  let cutAt (p : List Char) : Option (List Char × List Char) :=
    (List.range body.length).findSome? fun i =>
      if p.isPrefixOf (body.drop i) then some (body.take i, body.drop (i + p.length)) else none
  match cutAt ['!', '='] with
  | some (n, v) => .valued n v true
  | none =>
    match cutAt [':'] with
    | some (n, v) => .valued n v false
    | none =>
      match cutAt ['='] with
      | some (n, v) => .valued n v false
      | none => .named body

/-- Reads the name of a property up to a closing brace. -/
def readBraced : Nat → List Char → Reader → Option (List Char × Reader)
  | 0, _, _ => none
  | fuel + 1, acc, r => do
    let c ← r.peek
    if c = '}' then return (acc.reverse, r.bump) else readBraced fuel (c :: acc) r.bumpSkip

/-- Reads a class by property, at its letter. -/
def readProperty (r : Reader) : Option (PropertyQuery × Bool × Reader) := do
  let negated := (← r.peek) = 'P'
  let r := r.bumpSkip
  let c ← r.peek
  if c = '{' then
    let r := r.bumpSkip
    let (body, r) ← readBraced (r.rest.length + 1) [] r
    return (queryOf body, negated, r)
  else if c = '\\' then none
  else return (.named [c], negated, r.bumpSkip)

/-- Reads the name of a special word boundary; a brace that starts something else is left alone. -/
def readBoundary (r : Reader) : Option (Option Anchor × Reader) := do
  let nameChar (c : Char) : Bool := c.isAlpha || c = '-'
  let inside := r.bumpSkip
  let c ← inside.peek
  if !nameChar c then return (none, r)
  else
    let rec collect : Nat → List Char → Reader → List Char × Reader
      | 0, acc, q => (acc.reverse, q)
      | fuel + 1, acc, q =>
        match q.peek with
        | some c => if nameChar c then collect fuel (c :: acc) q.bumpSkip else (acc.reverse, q)
        | none => (acc.reverse, q)
    let (name, q) := collect (inside.rest.length + 1) [] inside
    if q.peek ≠ some '}' then none
    else
      match String.ofList name with
      | "start" => return (some .wordStart, q.bump)
      | "end" => return (some .wordEnd, q.bump)
      | "start-half" => return (some .wordStartHalf, q.bump)
      | "end-half" => return (some .wordEndHalf, q.bump)
      | _ => none

/-- Reads an escape, at its backslash. -/
def readEscape (r : Reader) : Option (Syntax × Reader) := do
  let r := r.bump
  let c ← r.peek
  match c with
  | 'x' => let (l, r) ← readHex 2 r; return (.literal l, r)
  | 'u' => let (l, r) ← readHex 4 r; return (.literal l, r)
  | 'U' => let (l, r) ← readHex 8 r; return (.literal l, r)
  | 'p' | 'P' => let (q, negated, r) ← readProperty r; return (.property q negated, r)
  | 'd' => return (.short .digit false, r.bump)
  | 'D' => return (.short .digit true, r.bump)
  | 's' => return (.short .space false, r.bump)
  | 'S' => return (.short .space true, r.bump)
  | 'w' => return (.short .word false, r.bump)
  | 'W' => return (.short .word true, r.bump)
  | _ =>
    if c.isDigit then none
    else
      let r := r.bump
      let plain (ch : Char) : Option (Syntax × Reader) := some (.literal ⟨ch, false⟩, r)
      if isMeta c || isEscapable c then plain c
      else
        match c with
        | 'a' => plain '\x07'
        | 'f' => plain '\x0c'
        | 't' => plain '\t'
        | 'n' => plain '\n'
        | 'r' => plain '\r'
        | 'v' => plain '\x0b'
        | 'A' => return (.anchor .textStart, r)
        | 'z' => return (.anchor .textEnd, r)
        | 'b' =>
          if r.peek = some '{' then
            let (special, r) ← readBoundary r
            return (.anchor (special.getD .wordBoundary), r)
          else return (.anchor .wordBoundary, r)
        | 'B' => return (.anchor .notWordBoundary, r)
        | '<' => return (.anchor .wordStart, r)
        | '>' => return (.anchor .wordEnd, r)
        | _ => none

/-! ## Classes between brackets -/

/-- Reads a single item between brackets. -/
def readSetItem (r : Reader) : Option (Syntax × Reader) := do
  let c ← r.peek
  if c = '\\' then readEscape r else return (.literal ⟨c, false⟩, r.bump)

/-- An item that may stand between brackets. -/
def setItemOf : Syntax → Option SetSyntax
  | .literal l => some (.literal l)
  | .short k n => some (.short k n)
  | .property q n => some (.property q n)
  | _ => none

/-- An item that may stand at an end of a range. -/
def literalOf : Syntax → Option Literal
  | .literal l => some l
  | _ => none

/-- Reads an item or a range. -/
def readSetRange (r : Reader) : Option (SetSyntax × Reader) := do
  let (first, r) ← readSetItem r
  let r := r.skip
  let c ← r.peek
  if c ≠ '-' || r.peekSecond = some ']' || r.peekSecond = some '-' then
    return (← setItemOf first, r)
  else
    let r := r.bumpSkip
    let (last, r) ← readSetItem r
    let a ← literalOf first
    let b ← literalOf last
    if b.char.toNat < a.char.toNat then none else return (.range a b, r)

/-- Reads a named class, at its bracket and colon; anything else is left to be read as brackets. -/
def readNamedSet (r : Reader) : Option (SetSyntax × Reader) :=
  match r.rest with
  | '[' :: ':' :: rest =>
    let (negated, rest) := match rest with
      | '^' :: rest => (true, rest)
      | _ => (false, rest)
    let name := rest.takeWhile (· ≠ ':')
    match rest.drop name.length with
    | ':' :: ']' :: rest =>
      (bracketNames.lookup (String.ofList name)).map fun s => (.named s negated, r.leaving rest)
    | _ => none
  | _ => none

/-- Reads hyphens that stand for themselves. -/
def readHyphens : Nat → List SetSyntax → Reader → List SetSyntax × Reader
  | 0, acc, r => (acc, r)
  | fuel + 1, acc, r =>
    if r.peek = some '-' then readHyphens fuel (acc ++ [.literal ⟨'-', false⟩]) r.bumpSkip
    else (acc, r)

/-- Reads the opening of a class: whether it is negated, and the items that stand for themselves. -/
def readSetOpen (r : Reader) : Bool × List SetSyntax × Reader :=
  let r := r.bumpSkip
  let (negated, r) := if r.peek = some '^' then (true, r.bumpSkip) else (false, r)
  let (items, r) := readHyphens (r.rest.length + 1) [] r
  if items.isEmpty && r.peek = some ']' then (negated, [.literal ⟨']', false⟩], r.bumpSkip)
  else (negated, items, r)

/-- Joins what has been read with what an operator was waiting for. -/
def joinPending (pending : Option (SetOperator × SetSyntax)) (items : List SetSyntax) : SetSyntax :=
  match pending with
  | none => SetSyntax.ofItems items
  | some (op, left) => .combined op left (SetSyntax.ofItems items)

/-- The operator that stands at the front. -/
def setOperatorAt (s : List Char) : Option SetOperator :=
  match s with
  | '&' :: '&' :: _ => some .intersection
  | '-' :: '-' :: _ => some .difference
  | '~' :: '~' :: _ => some .symmetricDifference
  | _ => none

/-- Reads a class up to its closing bracket. -/
def readSetBody : Nat → Option (SetOperator × SetSyntax) → List SetSyntax → Reader →
    Option (SetSyntax × Reader)
  | 0, _, _, _ => none
  | fuel + 1, pending, items, r => do
    let r := r.skip
    let c ← r.peek
    if c = '[' then
      match readNamedSet r with
      | some (s, r) => readSetBody fuel pending (items ++ [s]) r
      | none =>
        let (negated, inner, q) := readSetOpen r
        let (body, q) ← readSetBody fuel none inner q
        readSetBody fuel pending (items ++ [.bracketed negated body]) q
    else if c = ']' then return (joinPending pending items, r.bump)
    else
      match setOperatorAt r.rest with
      | some op => readSetBody fuel (some (op, joinPending pending items)) [] (r.bump.bump)
      | none =>
        let (s, r) ← readSetRange r
        readSetBody fuel pending (items ++ [s]) r

/-- Reads a class, at its opening bracket. -/
def readSet (r : Reader) : Option (Syntax × Reader) := do
  let (negated, items, q) := readSetOpen r
  let (body, q) ← readSetBody (2 * r.rest.length + 2) none items q
  return (.set negated body, q)

/-! ## Repetitions -/

/-- Something that can be repeated. -/
def repeatable : Syntax → Bool
  | .empty | .flags _ => false
  | _ => true

/-- Takes the last item off a sequence, if it can be repeated. -/
def lastRepeatable (items : List Syntax) : Option (List Syntax × Syntax) := do
  let last ← items.getLast?
  if repeatable last then return (items.dropLast, last) else none

/-- Passes a question mark that makes a repetition prefer fewer rounds, which matches the same
texts. -/
def skipLazy (r : Reader) : Reader := if r.peek = some '?' then r.bump else r

/-- Passes blanks, which may surround a number whatever the flags. -/
def dropBlanks (r : Reader) : Reader := r.leaving (r.rest.dropWhile Text.isBlank)

/-- Reads digits. -/
def readDigits : Nat → List Char → Reader → List Char × Reader
  | 0, acc, r => (acc.reverse, r)
  | fuel + 1, acc, r =>
    match r.peek with
    | some c => if c.isDigit then readDigits fuel (c :: acc) r.bumpSkip else (acc.reverse, r)
    | none => (acc.reverse, r)

/-- Reads a number of at most 32 bits, with blanks around it. -/
def readCount (r : Reader) : Option (Nat × Reader) :=
  let r := dropBlanks r
  let (ds, r) := readDigits (r.rest.length + 1) [] r
  let n := ds.foldl (fun n d => n * 10 + (d.toNat - 48)) 0
  if ds.isEmpty || 0x100000000 ≤ n then none else some (n, dropBlanks r)

/-- Reads the bounds of a repetition, at their opening brace. -/
def readBounds (r : Reader) : Option (Nat × Option Nat × Reader) := do
  let r := r.bumpSkip
  let (min, r) ← readCount r
  let (max, r) ← if (← r.peek) = ',' then do
      let r := r.bumpSkip
      if (← r.peek) = '}' then pure (none, r)
      else
        let (max, r) ← readCount r
        pure (some max, r)
    else pure (some min, r)
  if (← r.peek) ≠ '}' then none
  else if (max.map fun m => decide (m < min)).getD false then none
  else return (min, max, skipLazy r.bumpSkip)

/-! ## Groups -/

/-- A character of the name of a group. -/
def isNameChar (first : Bool) (c : Char) : Bool :=
  let n := c.toNat
  c = '_' || Unicode.isAlphabetic c ||
    (!first &&
      (c = '.' || c = '[' || c = ']' || ["Nd", "Nl", "No"].contains (Unicode.categoryOf n)))

/-- Reads the name of a group up to its closing angle bracket. -/
def readName (r : Reader) : Option Reader :=
  let name := r.rest.takeWhile (· ≠ '>')
  match r.rest.drop name.length, name with
  | '>' :: rest, c :: cs =>
    if isNameChar true c && cs.all (isNameChar false) && !r.names.contains name then
      some { r with rest := rest, names := name :: r.names }
    else none
  | _, _ => none

/-- What an opening parenthesis starts. -/
inductive Opening where
  | flags (items : List FlagItem)
  | group (items : List FlagItem) (captures : Bool)

/-- Reads what follows an opening parenthesis, at the parenthesis. -/
def readOpening (r : Reader) : Option (Opening × Reader) := do
  let r := r.bumpSkip
  match r.rest with
  | '?' :: '=' :: _ | '?' :: '!' :: _ | '?' :: '<' :: '=' :: _ | '?' :: '<' :: '!' :: _ => none
  | '?' :: 'P' :: '<' :: rest => return (.group [] true, ← readName (r.leaving rest))
  | '?' :: '<' :: rest => return (.group [] true, ← readName (r.leaving rest))
  | '?' :: rest =>
    let (items, close, rest) ← readFlags rest []
    if close = ')' then
      if items.isEmpty then none else return (.flags items, r.leaving rest)
    else return (.group items false, r.leaving rest)
  | _ => return (.group [] true, r)

/-- Alternatives as one node. -/
def alternativesOf : List Syntax → Syntax
  | [s] => s
  | items => .alternatives items

/-- Reads alternatives up to the end of the group or of the pattern: `done` holds the alternatives
that are complete, `items` those of the current one. -/
def readAlternatives : Nat → List Syntax → List Syntax → Reader → Option (Syntax × Reader)
  | 0, _, _, _ => none
  | fuel + 1, done, items, r =>
    let r := r.skip
    let finished := alternativesOf (done ++ [Syntax.ofItems items])
    match r.peek with
    | none => some (finished, r)
    | some ')' => some (finished, r)
    | some '|' => readAlternatives fuel (done ++ [Syntax.ofItems items]) [] r.bump
    | some '(' => do
      let (opening, q) ← readOpening r
      match opening with
      | .flags fs =>
        let verbose := (flagState .verbose fs true).getD q.verbose
        readAlternatives fuel done (items ++ [.flags fs]) { q with verbose := verbose }
      | .group fs captures =>
        let inner := { q with verbose := (flagState .verbose fs true).getD q.verbose }
        let (body, q) ← readAlternatives fuel [] [] inner
        if q.peek ≠ some ')' then none
        else
          -- The group's own setting ends with the group.
          readAlternatives fuel done (items ++ [.group fs captures body])
            { q.bump with verbose := r.verbose }
    | some '[' => do
      let (s, r) ← readSet r
      readAlternatives fuel done (items ++ [s]) r
    | some '?' => do
      let (front, body) ← lastRepeatable items
      readAlternatives fuel done (front ++ [.repetition 0 (some 1) body]) (skipLazy r.bump)
    | some '*' => do
      let (front, body) ← lastRepeatable items
      readAlternatives fuel done (front ++ [.repetition 0 none body]) (skipLazy r.bump)
    | some '+' => do
      let (front, body) ← lastRepeatable items
      readAlternatives fuel done (front ++ [.repetition 1 none body]) (skipLazy r.bump)
    | some '{' => do
      let (front, body) ← lastRepeatable items
      let (min, max, r) ← readBounds r
      readAlternatives fuel done (front ++ [.repetition min max body]) r
    | some '\\' => do
      let (s, r) ← readEscape r
      readAlternatives fuel done (items ++ [s]) r
    | some '.' => readAlternatives fuel done (items ++ [.dot]) r.bump
    | some '^' => readAlternatives fuel done (items ++ [.anchor .lineStart]) r.bump
    | some '$' => readAlternatives fuel done (items ++ [.anchor .lineEnd]) r.bump
    | some c => readAlternatives fuel done (items ++ [.literal ⟨c, false⟩]) r.bump

/-- Reads a whole pattern. -/
def parse (pattern : List Char) : Option Syntax := do
  let (s, r) ← readAlternatives (2 * pattern.length + 2) [] [] ⟨pattern, false, []⟩
  if r.rest.isEmpty && s.depth ≤ nestLimit then return s else none

end Assay.Regex
