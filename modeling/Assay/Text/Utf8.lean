/-
  Reading bytes as UTF-8, leniently.

  Well-formed sequences of one to four bytes give their character.  Where the bytes are not well
  formed, the longest front part of a well-formed sequence that is there, or a single byte if there
  is none, is replaced by one replacement character, and reading goes on behind it.

  The table of lead bytes (`leadByte`) has the range of the byte that follows, which rules out
  overlong forms, surrogates and numbers that are no code points; `tailBytes` reads as many bytes as
  are in order.  The fuel of `decodeBytes` is the number of bytes, of which every step takes at
  least one.  `ofBytes?` asks whether anything was replaced, by writing the text again.
-/

namespace Assay.Text

/-- The character that stands for bytes that cannot be read. -/
def replacement : Char := '\ufffd'

/-- A continuation byte. -/
def isTail (b : UInt8) : Bool := 0x80 ≤ b && b ≤ 0xBF

/-- What a lead byte allows: the number of bytes after it and the range of the first of them. -/
def leadByte (b : UInt8) : Option (Nat × UInt8 × UInt8) :=
  if b < 0x80 then some (0, 0, 0)
  else if 0xC2 ≤ b && b ≤ 0xDF then some (1, 0x80, 0xBF)
  else if b == 0xE0 then some (2, 0xA0, 0xBF)
  else if b == 0xED then some (2, 0x80, 0x9F)
  else if 0xE1 ≤ b && b ≤ 0xEF then some (2, 0x80, 0xBF)
  else if b == 0xF0 then some (3, 0x90, 0xBF)
  else if 0xF1 ≤ b && b ≤ 0xF3 then some (3, 0x80, 0xBF)
  else if b == 0xF4 then some (3, 0x80, 0x8F)
  else none

/-- The bits a lead byte contributes. -/
def leadBits (b : UInt8) (tails : Nat) : Nat :=
  match tails with
  | 0 => b.toNat
  | 1 => b.toNat - 0xC0
  | 2 => b.toNat - 0xE0
  | _ => b.toNat - 0xF0

/-- Reads up to `n` continuation bytes, the first within its own range: the value so far, how many
were there, and whether all were. -/
def tailBytes : Nat → UInt8 → UInt8 → Nat → List UInt8 → Nat × Nat × Bool
  | 0, _, _, value, _ => (value, 0, true)
  | _ + 1, _, _, value, [] => (value, 0, false)
  | n + 1, lo, hi, value, b :: rest =>
    if lo ≤ b && b ≤ hi then
      let (v, k, all) := tailBytes n 0x80 0xBF (value * 64 + (b.toNat - 0x80)) rest
      (v, k + 1, all)
    else (value, 0, false)

/-- Reads bytes as characters, with replacement characters where they are not well formed. -/
def decodeBytes : Nat → List UInt8 → List Char
  | 0, _ => []
  | _ + 1, [] => []
  | fuel + 1, b :: rest =>
    match leadByte b with
    | none => replacement :: decodeBytes fuel rest
    | some (n, lo, hi) =>
      let (value, k, all) := tailBytes n lo hi (leadBits b n) rest
      let c := if all then Char.ofNat value else replacement
      c :: decodeBytes fuel (rest.drop k)

/-- The text of a sequence of bytes. -/
def ofBytes (bytes : List UInt8) : String := String.ofList (decodeBytes bytes.length bytes)

/-- Reads bytes that are well formed throughout. -/
def ofBytes? (bytes : List UInt8) : Option String :=
  let s := ofBytes bytes
  if s.toUTF8.toList = bytes then some s else none

end Assay.Text
