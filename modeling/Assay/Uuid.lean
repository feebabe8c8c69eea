/-
  Identifiers of test cases and report files.

  An identifier is a number of 128 bits, written as 32 hexadecimal digits in groups of 8, 4, 4, 4
  and 12.  Reading also accepts the digits without hyphens, and the hyphenated form in braces or
  behind `urn:uuid:`.

  Six bits say that an identifier is a random one, and `random` sets them; all others come from the
  number. Every text that is refused is told why (`diagnose`): a character that cannot stand in an
  identifier comes first, then the number of groups, then their lengths.  The place of a bad
  character counts the bytes of the whole text, wrapping included.
-/

namespace Assay

/-- An identifier of 128 bits. -/
structure Uuid where
  value : Nat
  inRange : value < 0x100000000000000000000000000000000
  deriving DecidableEq, Repr

namespace Uuid

/-- The identifier of a number, of which the low 128 bits count. -/
def ofNat (n : Nat) : Uuid := ⟨n % 0x100000000000000000000000000000000, Nat.mod_lt _ (by decide)⟩

instance : Inhabited Uuid := ⟨ofNat 0⟩

/-- The identifier made from a number drawn at random: all bits come from it but the six that say
that the identifier is a random one. -/
def random (n : Nat) : Uuid :=
  ofNat ((n >>> 80 % 0x1000000000000) <<< 80 + 4 <<< 76 + (n >>> 64 % 0x1000) <<< 64 + 2 <<< 62 +
    n % 0x4000000000000000)

/-- The identifier says that it is a random one. -/
def isRandom (u : Uuid) : Bool := u.value >>> 76 % 16 == 4 && u.value >>> 62 % 4 == 2

/-! ## Writing -/

/-- The last `count` hexadecimal digits of a number. -/
def hexText : Nat → Nat → List Char
  | 0, _ => []
  | count + 1, n => hexText count (n / 16) ++ [Nat.digitChar (n % 16)]

/-- The hyphenated text. -/
def text (u : Uuid) : String :=
  let ds := hexText 32 u.value
  String.ofList (ds.take 8 ++ '-' :: (ds.drop 8).take 4 ++ '-' :: (ds.drop 12).take 4 ++
    '-' :: (ds.drop 16).take 4 ++ '-' :: ds.drop 20)

/-! ## Reading -/

/-- Why a text is not an identifier. -/
inductive ParseError where
  | badChar (found : Char) (position : Nat)
  | simpleLength (found : Nat)
  | groupCount (found : Nat)
  | groupLength (group : Nat) (expected : Nat) (found : Nat)
  deriving DecidableEq, Repr

/-- The wording of such an error. -/
def ParseError.message : ParseError → String
  | badChar c i => "invalid character: expected an optional prefix of `urn:uuid:` followed by " ++
      s!"[0-9a-fA-F-], found `{c}` at {i}"
  | simpleLength n => s!"invalid length: expected length 32 for simple format, found {n}"
  | groupCount n => s!"invalid group count: expected 5, found {n}"
  | groupLength g e n => s!"invalid group length in group {g}: expected {e}, found {n}"

/-- The value of a hexadecimal digit. -/
def hexDigit? (c : Char) : Option Nat :=
  let n := c.toNat
  if 48 ≤ n && n ≤ 57 then some (n - 48)
  else if 65 ≤ n && n ≤ 70 then some (n - 55)
  else if 97 ≤ n && n ≤ 102 then some (n - 87)
  else none

/-- The number that hexadecimal digits stand for, if they all are. -/
def hexNumber? (ds : List Char) : Option Nat :=
  ds.foldlM (fun n d => (hexDigit? d).map (n * 16 + ·)) 0

/-- The digits of the hyphenated form, if the hyphens stand in their places. -/
def hyphenated? (s : List Char) : Option (List Char) :=
  if s.length = 36 && s[8]? = some '-' && s[13]? = some '-' && s[18]? = some '-' &&
      s[23]? = some '-' then
    some (s.take 8 ++ (s.drop 9).take 4 ++ (s.drop 14).take 4 ++ (s.drop 19).take 4 ++ s.drop 24)
  else none

/-- What precedes an identifier that is written as a name. -/
def urnPrefix : List Char := "urn:uuid:".toList

/-- The text without its wrapping, the length of the wrapping's front, and whether there was
none. -/
def unwrap (s : List Char) : List Char × Nat × Bool :=
  if s.head? = some '{' && s.getLast? = some '}' && 2 ≤ s.length then
    (s.tail.dropLast, 1, false)
  else if urnPrefix.isPrefixOf s then (s.drop 9, 9, false)
  else (s, 0, true)

/-- The first character that cannot stand in an identifier, with its place in bytes. -/
def firstBadChar : List Char → Nat → Option (Char × Nat)
  | [], _ => none
  | c :: rest, i =>
    if c = '-' || (hexDigit? c).isSome then firstBadChar rest (i + c.utf8Size) else some (c, i)

/-- The places of the hyphens. -/
def hyphenPlaces (s : List Char) : List Nat :=
  (s.zipIdx.filter fun p => p.1 == '-').map Prod.snd

/-- What is wrong with a text that is not an identifier. -/
def diagnose (s : List Char) : ParseError :=
  let (body, offset, bare) := unwrap s
  match firstBadChar body 0 with
  | some (c, i) => .badChar c (i + offset + 1)
  | none =>
    let places := hyphenPlaces body
    if places.isEmpty && bare then .simpleLength s.length
    else if places.length ≠ 4 then .groupCount (places.length + 1)
    else
      let starts := [0, 9, 14, 19]
      let sizes := [8, 4, 4, 4]
      let wrong := ((List.range 4).zip (places.zip (starts.zip sizes))).find? fun g =>
        g.2.1 ≠ g.2.2.1 + g.2.2.2
      match wrong with
      | some (g, place, start, size) => .groupLength g size (place - start)
      | none => .groupLength 4 12 (s.length - 24)

/-- Reads an identifier. -/
def parseChars (s : List Char) : Except ParseError Uuid :=
  let (body, _, bare) := unwrap s
  let digits := if bare && s.length = 32 then some s else hyphenated? body
  match digits.bind hexNumber? with
  | some n => .ok (ofNat n)
  | none => .error (diagnose s)

/-- Reads an identifier. -/
def parse (s : String) : Except ParseError Uuid := parseChars s.toList

end Uuid

end Assay
