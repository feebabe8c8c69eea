import Assay.Unicode.Binary
import Assay.Unicode.CaseMaps
import Assay.Unicode.Category
import Assay.Unicode.Script

/-
  Classes of characters.

  A class is a formula over ranges, general categories, scripts and properties; `CharSet.has`
  evaluates it at a code point.  A class that ignores case holds for a code point as soon as the
  class itself holds for a code point with the same folding.

  The names of properties are compared in a loose way, without regard to case, blanks, hyphens and
  underscores (`looseName`).  A name without a value is looked for among the properties, the general
  categories and the scripts, in this order, but for three names that stand for a category although
  a property has them too (`namedClass?`).  The tables themselves are in `Assay.Unicode`.
-/

namespace Assay.Regex

/-- A class of code points. -/
inductive CharSet where
  | range (first last : Nat)
  | categories (shortNames : List String)
  | script (name : String)
  | property (cuts : Array Nat)
  | union (parts : List CharSet)
  | both (a b : CharSet)
  | without (a b : CharSet)
  | oneOf (a b : CharSet)
  | complement (a : CharSet)
  | folded (a : CharSet)
  | asciiFolded (a : CharSet)
  deriving Repr, Inhabited

/-- The code points with the same folding as the given one. -/
def sameFolding (n : Nat) : List Nat :=
  let f := Unicode.applyRuns Unicode.foldRuns n
  f :: Unicode.foldRuns.filterMap fun r => Unicode.Run.origin r f

/-- The code point and its counterpart in the other case, within the basic Latin letters. -/
def asciiCases (n : Nat) : List Nat :=
  if 65 ≤ n && n ≤ 90 then [n, n + 32] else if 97 ≤ n && n ≤ 122 then [n, n - 32] else [n]

namespace CharSet

mutual
/-- The code point belongs to the class. -/
def has : CharSet → Nat → Bool
  | range first last, n => first ≤ n && n ≤ last
  | categories names, n => names.contains (Unicode.categoryOf n)
  | script name, n => Unicode.scriptOf n == name
  | property cuts, n => Unicode.inCuts cuts n
  | union parts, n => hasAny parts n
  | both a b, n => has a n && has b n
  | without a b, n => has a n && !has b n
  | oneOf a b, n => has a n != has b n
  | complement a, n => !has a n
  | folded a, n => (sameFolding n).any fun m => has a m
  | asciiFolded a, n => (asciiCases n).any fun m => has a m
/-- The code point belongs to one of the classes. -/
def hasAny : List CharSet → Nat → Bool
  | [], _ => false
  | s :: rest, n => has s n || hasAny rest n
end

mutual
/-- Roughly how many ranges it takes to write the class down. -/
def rangeCount : CharSet → Nat
  | range _ _ => 1
  | categories names => 60 * names.length
  | script _ => 10
  | property cuts => cuts.size / 2
  | union parts => rangeCounts parts
  | both a b => rangeCount a + rangeCount b
  | without a b => rangeCount a + rangeCount b
  | oneOf a b => rangeCount a + rangeCount b
  | complement a => rangeCount a + 1
  | folded a => rangeCount a + 1
  | asciiFolded a => rangeCount a + 1
/-- The same for several classes together. -/
def rangeCounts : List CharSet → Nat
  | [] => 0
  | s :: rest => rangeCount s + rangeCounts rest
end

/-- A single code point. -/
def single (n : Nat) : CharSet := range n n

/-- Every code point. -/
def any : CharSet := range 0 0x10FFFF

end CharSet

/-! ## Classes with a name -/

/-- The decimal digits of all scripts. -/
def digitSet : CharSet := .categories ["Nd"]

/-- White space. -/
def spaceSet : CharSet := .property Unicode.whiteSpaceCuts

/-- Letters, marks, decimal digits, connecting punctuation and the two joiners. -/
def wordSet : CharSet := .union [.property Unicode.alphabeticCuts,
  .categories ["Mn", "Mc", "Me", "Nd", "Pc"], .property Unicode.joinControlCuts]

/-- The basic Latin counterparts of these three. -/
def asciiDigitSet : CharSet := .range 48 57

/-- Blank, tabulators and line breaks. -/
def asciiSpaceSet : CharSet := .union [.range 9 13, .single 32]

/-- Letters, digits and the underscore. -/
def asciiWordSet : CharSet := .union [.range 48 57, .range 65 90, .single 95, .range 97 122]

/-- The classes that may be named inside brackets and colons. -/
def bracketNames : List (String × CharSet) := [
  ("alnum", .union [.range 48 57, .range 65 90, .range 97 122]),
  ("alpha", .union [.range 65 90, .range 97 122]),
  ("ascii", .range 0 127),
  ("blank", .union [.single 9, .single 32]),
  ("cntrl", .union [.range 0 31, .single 127]),
  ("digit", .range 48 57),
  ("graph", .range 33 126),
  ("lower", .range 97 122),
  ("print", .range 32 126),
  ("punct", .union [.range 33 47, .range 58 64, .range 91 96, .range 123 126]),
  ("space", asciiSpaceSet),
  ("upper", .range 65 90),
  ("word", asciiWordSet),
  ("xdigit", .union [.range 48 57, .range 65 70, .range 97 102])]

/-! ## Classes by property -/

/-- Groups of general categories: their short name, long name and members. -/
def categoryGroups : List (String × String × List String) := [
  ("L", "Letter", ["Lu", "Ll", "Lt", "Lm", "Lo"]),
  ("LC", "Cased_Letter", ["Lu", "Ll", "Lt"]),
  ("M", "Mark", ["Mn", "Mc", "Me"]),
  ("N", "Number", ["Nd", "Nl", "No"]),
  ("P", "Punctuation", ["Pc", "Pd", "Ps", "Pe", "Pi", "Pf", "Po"]),
  ("S", "Symbol", ["Sm", "Sc", "Sk", "So"]),
  ("Z", "Separator", ["Zs", "Zl", "Zp"]),
  ("C", "Other", ["Cc", "Cf", "Cs", "Co", "Cn"])]

/-- Further names of general categories. -/
def categoryAliases : List (String × String) := [
  ("cntrl", "Cc"), ("digit", "Nd"), ("punct", "P"), ("combiningmark", "M")]

/-- Names are compared without blanks, hyphens, underscores and a leading `is`, in small letters. -/
def looseName (s : List Char) : String :=
  let plain := (s.filter fun c => c ≠ ' ' && c ≠ '-' && c ≠ '_' && c.toNat < 128).map Char.toLower
  let cut := match plain with
    | 'i' :: 's' :: rest => if rest = ['c'] then plain else rest
    | _ => plain
  String.ofList cut

/-- Two names are the same, loosely. -/
def sameName (wanted : String) (name : String) : Bool := looseName name.toList == wanted

/-- The class of a general category. -/
def categoryClass? (wanted : String) : Option CharSet :=
  if wanted == "any" then some .any
  else if wanted == "ascii" then some (.range 0 127)
  else if wanted == "assigned" then some (.complement (.categories ["Cn"]))
  else
    let wanted := ((categoryAliases.lookup wanted).map fun n => looseName n.toList).getD wanted
    match categoryGroups.find? fun g => sameName wanted g.1 || sameName wanted g.2.1 with
    | some g => some (.categories g.2.2)
    | none => (Unicode.categories.find? fun c => sameName wanted c.2.1 || sameName wanted c.2.2).map
        fun c => .categories [c.2.1]

/-- The class of a script. -/
def scriptClass? (wanted : String) : Option CharSet :=
  (Unicode.scripts.find? fun s => sameName wanted s.1 || sameName wanted s.2).map
    fun s => .script s.1

/-- The class of a property that holds or does not hold. -/
def binaryClass? (wanted : String) : Option CharSet :=
  (Unicode.binaryProperties.find? fun p => sameName wanted p.1 || sameName wanted p.2.1).map
    fun p => .property p.2.2

/-- Names that stand for a category although a property has them too. -/
def categoryFirst : List String := ["cf", "sc", "lc"]

/-- The class with a single name: a property, a category or a script, in this order. -/
def namedClass? (name : List Char) : Option CharSet :=
  let wanted := looseName name
  let property := if categoryFirst.contains wanted then none else binaryClass? wanted
  match property with
  | some c => some c
  | none => (categoryClass? wanted).or (scriptClass? wanted)

/-- The class of the characters for which a property has a value. -/
def valuedClass? (property value : List Char) : Option CharSet :=
  let wanted := looseName value
  match looseName property with
  | "generalcategory" | "gc" => categoryClass? wanted
  | "script" | "sc" | "scriptextensions" | "scx" => scriptClass? wanted
  | _ => none

end Assay.Regex
