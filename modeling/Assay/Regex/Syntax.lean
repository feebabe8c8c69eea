import Assay.Regex.Class

/-
  The syntax of patterns.

  A pattern is a tree of literals, classes, assertions, groups, repetitions, sequences and
  alternatives.  Flags may be set for the rest of a group or for one group; what they mean for the
  nodes they govern is settled when the tree is turned into a `Regex` (see `Regex.Basic`).

  A class in brackets is a small language of its own, `SetSyntax`, with union, intersection,
  difference and symmetric difference.  `Syntax.depth` and `SetSyntax.depth` measure how deeply a
  pattern is nested, for the limit that `nestLimit` sets.
-/

namespace Assay.Regex

/-- Flags that a pattern can set. -/
inductive Flag where
  | ignoreCase | multiLine | dotAll | swapGreed | unicode | crlf | verbose
  deriving DecidableEq, Repr

/-- An item of a list of flags: a flag, or the sign that switches the following ones off. -/
inductive FlagItem where
  | flag (f : Flag)
  | negation
  deriving DecidableEq, Repr

/-- An assertion about the place between two characters. -/
inductive Anchor where
  | lineStart | lineEnd | textStart | textEnd
  | wordBoundary | notWordBoundary | wordStart | wordEnd | wordStartHalf | wordEndHalf
  deriving DecidableEq, Repr

/-- A class with a short escape. -/
inductive ShortClass where
  | digit | space | word
  deriving DecidableEq, Repr

/-- A class by property. -/
inductive PropertyQuery where
  | named (name : List Char)
  | valued (property value : List Char) (differs : Bool)
  deriving Repr

/-- A literal character; `byte` marks the two-digit escapes. -/
structure Literal where
  char : Char
  byte : Bool
  deriving Repr

/-- Operators between classes. -/
inductive SetOperator where
  | intersection | difference | symmetricDifference
  deriving DecidableEq, Repr

/-- What stands between brackets. -/
inductive SetSyntax where
  | literal (l : Literal)
  | range (first last : Literal)
  | named (set : CharSet) (negated : Bool)
  | property (query : PropertyQuery) (negated : Bool)
  | short (kind : ShortClass) (negated : Bool)
  | bracketed (negated : Bool) (body : SetSyntax)
  | union (items : List SetSyntax)
  | combined (operator : SetOperator) (left right : SetSyntax)
  deriving Repr, Inhabited

/-- A pattern. -/
inductive Syntax where
  | empty
  | flags (items : List FlagItem)
  | literal (l : Literal)
  | dot
  | anchor (a : Anchor)
  | short (kind : ShortClass) (negated : Bool)
  | property (query : PropertyQuery) (negated : Bool)
  | set (negated : Bool) (body : SetSyntax)
  | repetition (min : Nat) (max : Option Nat) (body : Syntax)
  | group (items : List FlagItem) (captures : Bool) (body : Syntax)
  | sequence (items : List Syntax)
  | alternatives (items : List Syntax)
  deriving Repr, Inhabited

/-! ## Depth -/

/-- How deep patterns may be nested. -/
def nestLimit : Nat := 250

mutual
/-- How deep the brackets of a class are nested. -/
def SetSyntax.depth : SetSyntax → Nat
  | .bracketed _ body => SetSyntax.depth body + 1
  | .union items => SetSyntax.depths items + 1
  | .combined _ l r => max (SetSyntax.depth l) (SetSyntax.depth r) + 1
  | _ => 0
/-- The depth of the deepest of several. -/
def SetSyntax.depths : List SetSyntax → Nat
  | [] => 0
  | s :: rest => max (SetSyntax.depth s) (SetSyntax.depths rest)
end

mutual
/-- How deep a pattern is nested. -/
def Syntax.depth : Syntax → Nat
  | .set _ body => body.depth + 1
  | .repetition _ _ body => Syntax.depth body + 1
  | .group _ _ body => Syntax.depth body + 1
  | .sequence items => Syntax.depths items + 1
  | .alternatives items => Syntax.depths items + 1
  | _ => 0
/-- The depth of the deepest of several. -/
def Syntax.depths : List Syntax → Nat
  | [] => 0
  | s :: rest => max (Syntax.depth s) (Syntax.depths rest)
end

/-- Several items as one node. -/
def Syntax.ofItems : List Syntax → Syntax
  | [] => .empty
  | [s] => s
  | items => .sequence items

/-- Several items between brackets as one node. -/
def SetSyntax.ofItems : List SetSyntax → SetSyntax
  | [s] => s
  | items => .union items

end Assay.Regex
