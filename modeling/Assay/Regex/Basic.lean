import Assay.Regex.Parser

/-
  Patterns and the texts they match.

  A `Regex` is a tree in which every flag has been settled: classes, places, sequences, alternatives
  and repetitions.  Its meaning is a map on sets of places in a text: `Regex.after` takes the set of
  places where the pattern may start to the set of places where it may then end.  The pattern
  matches a text when some place is reached from some place.

  A repetition is a bounded number of rounds of this map: in a text of `n` characters, rounds beyond
  the `n + 1`st reach the same places again, since by then one round has not moved.

  `compile` reads a pattern (`parse`), settles its flags from the left to the right (`settle`), and
  refuses a pattern that is not well formed or too large (`sizeLimit`).  A flag that is set in a
  group holds up to the end of the group.  Classes are settled to formulas of `Assay.Regex.Class`.

  Sets of places are arrays of truth values, one for each place between two characters (`Places`).
  So there is no backtracking, and whether a repetition prefers many rounds or few makes no
  difference.  Only whether a text matches is computed, not where, and not what the groups are.
-/

namespace Assay

/-- A pattern with its flags settled. -/
inductive Regex where
  | empty
  | chars (set : Regex.CharSet)
  | place (anchor : Regex.Anchor) (multiLine crlf unicode : Bool)
  | sequence (items : List Regex)
  | alternatives (items : List Regex)
  | repetition (min : Nat) (max : Option Nat) (body : Regex)
  deriving Repr, Inhabited

namespace Regex

/-- Why a text is no pattern. -/
inductive Error where
  | malformed
  | tooLarge
  deriving DecidableEq, Repr

/-- The wording of these errors. -/
def Error.message : Error → String
  | malformed => "regex parse error"
  | tooLarge => "Compiled regex exceeds size limit of 10485760 bytes."

/-! ## Settling the flags -/

/-- The flags in force. -/
structure Flags where
  ignoreCase : Bool
  multiLine : Bool
  dotAll : Bool
  unicode : Bool
  crlf : Bool

/-- The flags at the start of a pattern. -/
def Flags.initial : Flags := ⟨false, false, false, true, false⟩

/-- The flags after a list of flags has been met. -/
def Flags.update (f : Flags) (items : List FlagItem) : Flags where
  ignoreCase := (flagState .ignoreCase items true).getD f.ignoreCase
  multiLine := (flagState .multiLine items true).getD f.multiLine
  dotAll := (flagState .dotAll items true).getD f.dotAll
  unicode := (flagState .unicode items true).getD f.unicode
  crlf := (flagState .crlf items true).getD f.crlf

/-- A class under the flag that ignores case. -/
def Flags.fold (f : Flags) (s : CharSet) : CharSet :=
  if !f.ignoreCase then s else if f.unicode then .folded s else .asciiFolded s

/-- A class under the flag that ignores case, negated or not. -/
def Flags.foldNegate (f : Flags) (negated : Bool) (s : CharSet) : CharSet :=
  if negated then .complement (f.fold s) else f.fold s

/-- The character of a literal.  Without Unicode a two-digit escape beyond the basic Latin
characters is a byte that is no text. -/
def literalChar (f : Flags) (l : Literal) : Option Nat :=
  if !f.unicode && l.byte && 127 < l.char.toNat then none else some l.char.toNat

/-- The same between brackets, where without Unicode only basic Latin characters may stand. -/
def setLiteralChar (f : Flags) (l : Literal) : Option Nat := do
  let n ← literalChar f l
  if !f.unicode && 127 < n then none else some n

/-- A class with a short escape.  Without Unicode its complement would hold bytes that are no
text. -/
def shortSet (f : Flags) (kind : ShortClass) (negated : Bool) : Option CharSet :=
  let s := match kind, f.unicode with
    | .digit, true => digitSet
    | .space, true => spaceSet
    | .word, true => wordSet
    | .digit, false => asciiDigitSet
    | .space, false => asciiSpaceSet
    | .word, false => asciiWordSet
  if negated then (if f.unicode then some (.complement s) else none) else some s

/-- A class by property. -/
def propertySet (f : Flags) (q : PropertyQuery) (negated : Bool) : Option CharSet := do
  if !f.unicode then none
  else
    match q with
    | .named name => return f.foldNegate negated (← namedClass? name)
    | .valued p v differs => return f.foldNegate (negated != differs) (← valuedClass? p v)

/-- The class that an operator builds. -/
def combine : SetOperator → CharSet → CharSet → CharSet
  | .intersection, a, b => .both a b
  | .difference, a, b => .without a b
  | .symmetricDifference, a, b => .oneOf a b

/-- Without Unicode no class may be negated. -/
def negatable (f : Flags) (negated : Bool) : Bool := f.unicode || !negated

mutual
/-- The class of what stands between brackets. -/
def settleSet (f : Flags) : SetSyntax → Option CharSet
  | .literal l => (setLiteralChar f l).map CharSet.single
  | .range a b => do return .range (← setLiteralChar f a) (← setLiteralChar f b)
  | .named s negated => if negatable f negated then some (f.foldNegate negated s) else none
  | .property q negated => propertySet f q negated
  | .short k negated => shortSet f k negated
  | .bracketed negated body => do
    let s ← settleSet f body
    if negatable f negated then return f.foldNegate negated s else none
  | .union items => do return .union (← settleSets f items)
  | .combined op l r => do return combine op (f.fold (← settleSet f l)) (f.fold (← settleSet f r))
/-- The classes of several items. -/
def settleSets (f : Flags) : List SetSyntax → Option (List CharSet)
  | [] => some []
  | s :: rest => do return (← settleSet f s) :: (← settleSets f rest)
end

/-- The class of the dot. -/
def dotSet (f : Flags) : Option CharSet :=
  if !f.unicode then none
  else if f.dotAll then some .any
  else if f.crlf then some (.complement (.union [.single 10, .single 13]))
  else some (.complement (.single 10))

mutual
/-- A pattern with its flags settled, and the flags in force behind it. -/
def settle (f : Flags) : Syntax → Option (Regex × Flags)
  | .empty => some (.empty, f)
  | .flags items => some (.empty, f.update items)
  | .literal l => do return (.chars (f.fold (.single (← literalChar f l))), f)
  | .dot => do return (.chars (← dotSet f), f)
  | .anchor a => some (.place a f.multiLine f.crlf f.unicode, f)
  | .short k negated => do return (.chars (← shortSet f k negated), f)
  | .property q negated => do return (.chars (← propertySet f q negated), f)
  | .set negated body => do
    let s ← settleSet f body
    if negatable f negated then return (.chars (f.foldNegate negated s), f) else none
  | .repetition min max body => do
    let (r, _) ← settle f body
    return (.repetition min max r, f)
  | .group items _ body => do
    let (r, _) ← settle (f.update items) body
    return (r, f)
  | .sequence items => do
    let (rs, f) ← settleAll f items
    return (.sequence rs, f)
  | .alternatives items => do
    let (rs, f) ← settleAll f items
    return (.alternatives rs, f)
/-- Several patterns one after the other: flags set in one govern the next. -/
def settleAll (f : Flags) : List Syntax → Option (List Regex × Flags)
  | [] => some ([], f)
  | s :: rest => do
    let (r, f) ← settle f s
    let (rs, f) ← settleAll f rest
    return (r :: rs, f)
end

/-! ## Size -/

/-- The size beyond which a pattern is refused. -/
def sizeLimit : Nat := 10485760

mutual
/-- Roughly the size of a pattern in bytes: 32 for a step, and 60 for each range of a large class.

This is an estimate of the program that an engine makes of the pattern, and not a measurement of
one: it does not see that a class of characters becomes a graph of bytes whose branches share their
ends, nor what the program has besides.  It tells patterns far below the limit from patterns far
beyond it, which repeat a repetition many times; a pattern close to the limit may be accepted here
and refused by an engine that measures, or the other way round. -/
def size : Regex → Nat
  | .empty => 32
  | .chars s => 32 + 60 * (s.rangeCount - 1)
  | .place _ _ _ _ => 32
  | .sequence items => sizes items
  | .alternatives items => 32 + sizes items
  | .repetition min max body =>
    let rounds := match max with
      | some m => m
      | none => min + 1
    32 + rounds * size body
/-- The size of several patterns together. -/
def sizes : List Regex → Nat
  | [] => 0
  | r :: rest => size r + sizes rest
end

/-- The pattern that a text describes. -/
def compile (pattern : String) : Except Error Regex :=
  match parse pattern.toList with
  | none => .error .malformed
  | some s =>
    match settle .initial s with
    | none => .error .malformed
    | some (r, _) => if sizeLimit < r.size then .error .tooLarge else .ok r

/-! ## Matching -/

/-- The places of a text that a set holds: one truth value for each place, the last being its
end. -/
abbrev Places := Array Bool

/-- The character is part of a word. -/
def isWord (unicode : Bool) (c : Option Char) : Bool :=
  match c with
  | none => false
  | some c => if unicode then wordSet.has c.toNat else asciiWordSet.has c.toNat

/-- An assertion holds between two characters, either of which may be missing at an end of the
text. -/
def holdsAt (a : Anchor) (multiLine crlf unicode : Bool) (before after : Option Char) : Bool :=
  let wordBefore := isWord unicode before
  let wordAfter := isWord unicode after
  match a with
  | .textStart => before.isNone
  | .textEnd => after.isNone
  | .lineStart =>
    before.isNone || (multiLine && (before = some '\n' ||
      (crlf && before = some '\r' && after ≠ some '\n')))
  | .lineEnd =>
    after.isNone || (multiLine && (if crlf then
        after = some '\r' || (after = some '\n' && before ≠ some '\r')
      else after = some '\n'))
  | .wordBoundary => wordBefore != wordAfter
  | .notWordBoundary => wordBefore == wordAfter
  | .wordStart => !wordBefore && wordAfter
  | .wordEnd => wordBefore && !wordAfter
  | .wordStartHalf => !wordBefore
  | .wordEndHalf => !wordAfter

/-- No place is held. -/
def noPlace (ps : Places) : Bool := !ps.any id

/-- Both sets together. -/
def joinPlaces (a b : Places) : Places := a.zipWith (· || ·) b

/-- The places behind one character of a class. -/
def stepChars (s : CharSet) (text : Array Char) (ps : Places) : Places :=
  Array.ofFn (n := text.size + 1) fun i =>
    if i.val = 0 then false
    else (ps[i.val - 1]?).getD false && (text[i.val - 1]?.map fun c => s.has c.toNat).getD false

/-- The places at which an assertion holds. -/
def stepPlace (a : Anchor) (multiLine crlf unicode : Bool) (text : Array Char) (ps : Places) :
    Places :=
  Array.ofFn (n := text.size + 1) fun i =>
    (ps[i.val]?).getD false &&
      holdsAt a multiLine crlf unicode (if i.val = 0 then none else text[i.val - 1]?) (text[i.val]?)

/-- A number of rounds, one after the other. -/
def rounds (step : Places → Places) : Nat → Places → Places
  | 0, ps => ps
  | n + 1, ps => if noPlace ps then ps else rounds step n (step ps)

/-- Up to a number of rounds: the places reached after any of them. -/
def upTo (step : Places → Places) : Nat → Places → Places → Places
  | 0, _, reached => reached
  | n + 1, ps, reached =>
    let next := step ps
    let all := joinPlaces reached next
    if all == reached then reached else upTo step n next all

mutual
/-- Where a pattern may end, if it starts at one of the given places. -/
def after (text : Array Char) : Regex → Places → Places
  | .empty, ps => ps
  | .chars s, ps => stepChars s text ps
  | .place a m c u, ps => stepPlace a m c u text ps
  | .sequence items, ps => afterAll text items ps
  | .alternatives items, ps => afterAny text items ps
  | .repetition lo hi body, ps =>
    let bound := text.size + 1
    let start := rounds (after text body) (min lo bound) ps
    let more := match hi with
      | some h => min (h - lo) bound
      | none => bound
    upTo (after text body) more start start
/-- Where several patterns in a row may end. -/
def afterAll (text : Array Char) : List Regex → Places → Places
  | [], ps => ps
  | r :: rest, ps => afterAll text rest (after text r ps)
/-- Where one of several patterns may end. -/
def afterAny (text : Array Char) : List Regex → Places → Places
  | [], ps => ps.map fun _ => false
  | r :: rest, ps => joinPlaces (after text r ps) (afterAny text rest ps)
end

/-- The pattern matches somewhere in the text. -/
def isMatch (r : Regex) (text : String) : Bool :=
  let chars := text.toList.toArray
  !noPlace (after chars r (Array.replicate (chars.size + 1) true))

end Regex

end Assay
