import Assay.Json.Number

/-
  JSON documents.

  The members of an object are a list of pairs in increasing order of their names, each name once;
  `Json.ofMembers` arranges any list of members this way (of members with one name the last one
  counts), and `Json.Ordered` states the invariant.  Documents that are read, built by this
  library's encoders or changed leaf by leaf are ordered.

  The invariant is a proposition beside the type, and not part of it, because a nested type that
  carries it could not be traversed by structural recursion.  Functions that build objects go
  through `put`, which keeps it.  Everything here recurses on the document with its items and its
  members in one mutual block, and `Assay.Proofs.Json` has the induction that goes with it.

  `Json.same` is the equality that checks use.  It is equality of form except for numbers, where the
  two zeros of a double are one value, and it is therefore not `=`; that it is an equivalence, and
  what matching makes of it, is shown in `Assay.Proofs.Relating`.
-/

namespace Assay

/-- A JSON document. -/
inductive Json where
  | null
  | bool (value : Bool)
  | number (value : Json.Number)
  | string (value : String)
  | array (items : List Json)
  | object (members : List (String × Json))
  deriving Repr, Inhabited

namespace Json

/-! ## Members of an object -/

/-- The value under a name. -/
def lookup (name : String) : List (String × Json) → Option Json
  | [] => none
  | (k, v) :: rest => if k = name then some v else lookup name rest

/-- Puts a value under a name, at its place in the order; a value already there is replaced. -/
def put (name : String) (value : Json) : List (String × Json) → List (String × Json)
  | [] => [(name, value)]
  | (k, v) :: rest =>
    if name < k then (name, value) :: (k, v) :: rest
    else if name = k then (name, value) :: rest
    else (k, v) :: put name value rest

/-- An object with the given members; of members with one name the last one counts. -/
def ofMembers (members : List (String × Json)) : Json :=
  .object (members.foldl (fun acc m => put m.1 m.2 acc) [])

mutual
/-- Every object of the document lists its members in strictly increasing order of their names. -/
def Ordered : Json → Prop
  | .array items => OrderedItems items
  | .object members => (members.map Prod.fst).Pairwise (· < ·) ∧ OrderedMembers members
  | _ => True
/-- Every document of the list is ordered. -/
def OrderedItems : List Json → Prop
  | [] => True
  | v :: rest => Ordered v ∧ OrderedItems rest
/-- The value of every member is ordered. -/
def OrderedMembers : List (String × Json) → Prop
  | [] => True
  | (_, v) :: rest => Ordered v ∧ OrderedMembers rest
end

/-! ## Equality of documents -/

mutual
/-- Equality of two documents.  Numbers compare as in `Number.same`, so that the two zeros of a
double are equal; everything else compares by form. -/
def same : Json → Json → Bool
  | .null, .null => true
  | .bool a, .bool b => a == b
  | .number a, .number b => a.same b
  | .string a, .string b => a == b
  | .array xs, .array ys => sameItems xs ys
  | .object xs, .object ys => sameMembers xs ys
  | _, _ => false
/-- Equality item by item. -/
def sameItems : List Json → List Json → Bool
  | [], [] => true
  | x :: xs, y :: ys => same x y && sameItems xs ys
  | _, _ => false
/-- Equality member by member. -/
def sameMembers : List (String × Json) → List (String × Json) → Bool
  | [], [] => true
  | (k, x) :: xs, (l, y) :: ys => k == l && same x y && sameMembers xs ys
  | _, _ => false
end

/-! ## Building documents -/

/-- A number without sign that fits a 64-bit word. -/
def word (n : UInt64) : Json := .number (.ofWord n)

/-- A text, or null if there is none. -/
def textOrNull : Option String → Json
  | none => .null
  | some s => .string s

/-- An object of texts. -/
def ofTexts (members : List (String × String)) : Json :=
  .object (members.map fun m => (m.1, .string m.2))

/-! ## Changing the texts of a document -/

mutual
/-- Applies a function to every string that is a value; names, structure and all other leaves
stay. -/
def mapStrings (f : String → String) : Json → Json
  | .string s => .string (f s)
  | .array items => .array (mapStringsItems f items)
  | .object members => .object (mapStringsMembers f members)
  | .null => .null
  | .bool b => .bool b
  | .number n => .number n
/-- The same for every item. -/
def mapStringsItems (f : String → String) : List Json → List Json
  | [] => []
  | v :: rest => mapStrings f v :: mapStringsItems f rest
/-- The same for the value of every member. -/
def mapStringsMembers (f : String → String) : List (String × Json) → List (String × Json)
  | [] => []
  | (k, v) :: rest => (k, mapStrings f v) :: mapStringsMembers f rest
end

end Json

end Assay
