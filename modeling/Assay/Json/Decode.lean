import Assay.Dict
import Assay.Json.Writer
import Assay.Text.Quoted

/-
  From a JSON document to a value of a given type.

  A decoder is a function from documents to values that can refuse.  A refusal is a `DecodeError`,
  whose wording says what was found and what was expected.

  A record is read from an object, member by member, or from an array, item by item.  Members are
  looked at in the order of the object and unknown ones are passed over; a member that is missing is
  noticed only at the end, in the order of declaration.  So of several faults the one reported is
  the first in this order: `Ranked` carries each fault together with its place in it.

  The basic decoders have names that start with "as" and refuse a document of another kind
  (`unexpected`).  A record is put together by `Fields.required`, `Fields.withDefault` and
  `Fields.optional`, one for each field, and closed by `asRecord`.  A record with a tag (`splitTag`,
  `finishTagged`) reads the tag first, wherever it stands, and then the other members.

  What a decoder of a record does depends on the members only through what it finds under each name,
  unless it refuses.  So the order of members, and members that nobody knows, have no bearing on a
  value that has been decoded: this is made precise in `Assay.Proofs.Decoding`, which has one lemma
  for the round trip of each of these combinators.
-/

namespace Assay

/-- Why a document is not of the expected type. -/
inductive DecodeError where
  | missingField (name : String)
  | invalidType (found expected : String)
  | invalidValue (found expected : String)
  | invalidLength (found : Nat) (expected : String)
  | unknownVariant (name : String) (known : List String)
  | noVariant (type : String)
  | custom (message : String)
  deriving DecidableEq, Repr

/-- The names that would have been understood. -/
def DecodeError.alternatives : List String → String
  | [] => "there are no variants"
  | [a] => s!"expected `{a}`"
  | [a, b] => s!"expected `{a}` or `{b}`"
  | names => "expected one of " ++ ", ".intercalate (names.map fun n => s!"`{n}`")

/-- The wording of a refusal. -/
def DecodeError.message : DecodeError → String
  | missingField name => s!"missing field `{name}`"
  | invalidType found expected => s!"invalid type: {found}, expected {expected}"
  | invalidValue found expected => s!"invalid value: {found}, expected {expected}"
  | invalidLength found expected => s!"invalid length {found}, expected {expected}"
  | unknownVariant name known =>
    if known.isEmpty then s!"unknown variant `{name}`, there are no variants"
    else s!"unknown variant `{name}`, {alternatives known}"
  | noVariant type => s!"data did not match any variant of untagged enum {type}"
  | custom message => message

namespace Json

/-- A decoder of values of a type. -/
abbrev Decoder (α : Type) := Json → Except DecodeError α

/-- What a document is, in the words of a refusal. -/
def description : Json → String
  | .null => "null"
  | .bool b => s!"boolean `{b}`"
  | .number (.integer n _) => s!"integer `{n}`"
  | .number (.double d) => s!"floating point `{String.ofList (Number.doubleText d)}`"
  | .string s => "string " ++ Text.quote s
  | .array _ => "sequence"
  | .object _ => "map"

/-- The refusal of a document of the wrong type. -/
def unexpected {α : Type} (v : Json) (expected : String) : Except DecodeError α :=
  .error (.invalidType v.description expected)

/-! ## Decoders of single values -/

/-- Every document is a document. -/
def asJson : Decoder Json := .ok

/-- A text. -/
def asText : Decoder String
  | .string s => .ok s
  | v => v.unexpected "a string"

/-- A path, which is a text. -/
def asPath : Decoder String
  | .string s => .ok s
  | v => v.unexpected "path string"

/-- A truth value. -/
def asBool : Decoder Bool
  | .bool b => .ok b
  | v => v.unexpected "a boolean"

/-- A number without sign below a bound, called by the given name. -/
def asNatBelow (bound : Nat) (type : String) : Decoder Nat
  | .number (.integer n h) =>
    if 0 ≤ n && n < bound then .ok n.toNat
    else .error (.invalidValue (description (.number (.integer n h))) type)
  | v => v.unexpected type

/-- A number of 16 bits. -/
def asWord16 : Decoder UInt16 := fun v => (asNatBelow 0x10000 "u16" v).map UInt16.ofNat

/-- A number of 64 bits. -/
def asWord64 : Decoder UInt64 := fun v => (asNatBelow 0x10000000000000000 "u64" v).map UInt64.ofNat

/-- A size, which is a number of 64 bits. -/
def asSize : Decoder UInt64 := fun v => (asNatBelow 0x10000000000000000 "usize" v).map UInt64.ofNat

/-- A value that may be null. -/
def asOption {α : Type} (decode : Decoder α) : Decoder (Option α)
  | .null => .ok none
  | v => (decode v).map some

/-- A list of values; the first refusal counts. -/
def asListItems {α : Type} (decode : Decoder α) : List Json → Except DecodeError (List α)
  | [] => .ok []
  | v :: rest => do
    let x ← decode v
    let xs ← asListItems decode rest
    return x :: xs

/-- A list of values. -/
def asList {α : Type} (decode : Decoder α) : Decoder (List α)
  | .array items => asListItems decode items
  | v => v.unexpected "a sequence"

/-- A dictionary of values. -/
def asDict {α : Type} (decode : Decoder α) : Decoder (Dict α)
  | .object members => do
    let es ← Dict.traverseEntries (fun _ v => decode v) members
    return Dict.ofList es
  | v => v.unexpected "a map"

/-! ## Alternatives that are named -/

/-- The value that a name stands for. -/
def ofName {α : Type} (names : List (String × α)) (name : String) : Except DecodeError α :=
  match names.lookup name with
  | some a => .ok a
  | none => .error (.unknownVariant name (names.map Prod.fst))

/-- One of several named values: its name, or an object with its name as the only member and null
under it. -/
def asName {α : Type} (names : List (String × α)) : Decoder α
  | .string s => ofName names s
  | .object [(name, v)] => do
    let a ← ofName names name
    match v with
    | .null => return a
    | v => v.unexpected "unit"
  | .object _ => .error (.invalidValue "map" "map with a single key")
  | v => v.unexpected "string or map"

/-! ## Records -/

/-- A value, or a fault with its place in the order in which faults are noticed. -/
structure Ranked (α : Type) where
  run : Except (Nat × DecodeError) α

/-- Two readings together: of two faults the earlier one counts. -/
def Ranked.both {α β : Type} (f : Ranked (α → β)) (x : Ranked α) : Ranked β :=
  ⟨match f.run, x.run with
    | .ok f, .ok x => .ok (f x)
    | .ok _, .error e => .error e
    | .error e, .ok _ => .error e
    | .error e, .error e' => .error (if e.1 ≤ e'.1 then e else e')⟩

/-- A reading that cannot fail. -/
def Ranked.pure {α : Type} (a : α) : Ranked α := ⟨.ok a⟩

instance : Functor Ranked :=
  ⟨fun f x => (Ranked.pure f).both x, fun a x => (Ranked.pure fun _ => a).both x⟩
instance : Pure Ranked := ⟨Ranked.pure⟩
instance : Seq Ranked := ⟨fun f x => f.both (x ())⟩

/-- Where the fields of a record are read from. -/
inductive Fields where
  | members (ms : List (String × Json))
  | items (vs : List Json)

/-- Reads a document as the fields of a record of the given description. -/
def fieldsOf (record : String) : Json → Except DecodeError Fields
  | .object ms => .ok (.members ms)
  | .array vs => .ok (.items vs)
  | v => v.unexpected record

/-- How a record describes itself and how many fields it has, which is what a refusal names. -/
structure RecordShape where
  name : String
  size : Nat

/-- The wording of the expected number of fields. -/
def RecordShape.sized (s : RecordShape) : String :=
  if s.size = 1 then s!"{s.name} with 1 element" else s!"{s.name} with {s.size} elements"

/-- A member with its place. -/
def findMember (name : String) : List (String × Json) → Nat → Option (Nat × Json)
  | [], _ => none
  | (k, v) :: rest, i => if k = name then some (i, v) else findMember name rest (i + 1)

/-- Reads a field: `missing` is its value when an object lacks it, `cut` when an array is too
short. -/
def Fields.read {α : Type} (fs : Fields) (shape : RecordShape) (index : Nat) (name : String)
    (decode : Decoder α) (missing cut : Option α) : Ranked α :=
  ⟨match fs with
    | .members ms =>
      match findMember name ms 0 with
      | some (i, v) => (decode v).mapError fun e => (i, e)
      | none =>
        match missing with
        | some a => .ok a
        | none => .error (ms.length + index, .missingField name)
    | .items vs =>
      match vs[index]? with
      | some v => (decode v).mapError fun e => (index, e)
      | none =>
        match cut with
        | some a => .ok a
        | none => .error (index, .invalidLength index shape.sized)⟩

/-- A field that must be there. -/
def Fields.required {α : Type} (fs : Fields) (shape : RecordShape) (index : Nat) (name : String)
    (decode : Decoder α) : Ranked α := fs.read shape index name decode none none

/-- A field with a default. -/
def Fields.withDefault {α : Type} (fs : Fields) (shape : RecordShape) (index : Nat) (name : String)
    (decode : Decoder α) (dflt : α) : Ranked α :=
    fs.read shape index name decode (some dflt) (some dflt)

/-- A field that may be null, and may be missing from an object. -/
def Fields.optional {α : Type} (fs : Fields) (shape : RecordShape) (index : Nat) (name : String)
    (decode : Decoder α) : Ranked (Option α) :=
  fs.read shape index name (asOption decode) (some none) none

/-- The result of reading a record: items left over in an array are refused. -/
def finish {α : Type} (fs : Fields) (shape : RecordShape) (tooLong : Nat → DecodeError)
    (r : Ranked α) : Except DecodeError α :=
  match r.run with
  | .error (_, e) => .error e
  | .ok a =>
    match fs with
    | .items vs => if shape.size < vs.length then .error (tooLong vs.length) else .ok a
    | .members _ => .ok a

/-- Reads a record. -/
def asRecord {α : Type} (shape : RecordShape) (read : Fields → Ranked α) : Decoder α := fun v => do
  let fs ← fieldsOf shape.name v
  finish fs shape (fun n => .invalidLength n "fewer elements in array") (read fs)

/-! ## Records that name their own kind -/

/-- A tag and the rest of the document that carries it. -/
def splitTag {α : Type} (type tag : String) (names : List (String × α)) :
    Json → Except DecodeError (α × Fields)
  | .object ms => do
    match lookup tag ms with
    | none => .error (.missingField tag)
    | some v => return (← tagValue names v, .members (ms.filter fun m => m.1 ≠ tag))
  | .array [] => .error (.missingField tag)
  | .array (v :: rest) => do return (← tagValue names v, .items rest)
  | v => v.unexpected s!"internally tagged enum {type}"
where
  /-- The kind that a tag names. -/
  tagValue (names : List (String × α)) : Json → Except DecodeError α
    | .string s => ofName names s
    | v => v.unexpected "variant identifier"

/-- The result of reading the record behind a tag. -/
def finishTagged {α : Type} (fs : Fields) (shape : RecordShape) (r : Ranked α) :
    Except DecodeError α :=
  let expected := if shape.size = 1 then "1 element in sequence"
    else s!"{shape.size} elements in sequence"
  finish fs shape (fun n => .invalidLength n expected) r

end Json

end Assay
