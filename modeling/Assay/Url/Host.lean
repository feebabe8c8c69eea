import Assay.Text.Casing
import Assay.Text.Search
import Assay.Url.Percent
import Assay.Url.Punycode

/-
  The host of an address.

  A host is a domain name, an address of four bytes, or an address of eight 16-bit pieces in
  brackets.  With a scheme that is not special a name stands for itself; with a special one it is
  decoded, put into small letters and basic Latin characters, and read as an address if its last
  label is a number.

  `readSpecial` and `readOpaque` are the two ways to read a host, and `text` is the one way to write
  it.  Numbers in an address of four bytes may be decimal, octal or hexadecimal, and there may be
  fewer than four of them; they are written in one form only.  Of the rows of zeros in an address of
  eight pieces the first of the longest ones is written as two colons.

  How the characters of a name are mapped is said at `nameChar`, and what of the mapping of
  international names is left out.  A host that has been read is written so that it is read as the
  same host (`Assay.Proofs.Hosts`, and `Assay.Proofs.Domains` for names).
-/

namespace Assay

/-- Why a text is no address. -/
inductive UrlError where
  | noBase | emptyHost | invalidPort | invalidDomain | invalidIpv4 | invalidIpv6 | invalidHostChar
  deriving DecidableEq, Repr

/-- The wording of this refusal. -/
def UrlError.message : UrlError → String
  | noBase => "relative URL without a base"
  | emptyHost => "empty host"
  | invalidPort => "invalid port number"
  | invalidDomain => "invalid international domain name"
  | invalidIpv4 => "invalid IPv4 address"
  | invalidIpv6 => "invalid IPv6 address"
  | invalidHostChar => "invalid domain character"

/-- The host of an address. -/
inductive Host where
  | domain (name : List Char)
  | ipv4 (address : Nat)
  | ipv6 (pieces : List Nat)
  deriving DecidableEq, Repr

namespace Host

/-! ## Addresses of four bytes -/

/-- The value of digits in a base. -/
def digitsValue (base : Nat) (ds : List Char) : Nat :=
  ds.foldl (fun n c => n * base + (Percent.hexDigit? c).getD 0) 0

/-- A number of an address: hexadecimal behind `0x`, octal behind `0`, else decimal. -/
def readNumber : List Char → Option Nat
  | [] => none
  | '0' :: x :: rest =>
    if x = 'x' || x = 'X' then
      if rest.all fun c => (Percent.hexDigit? c).isSome then some (digitsValue 16 rest) else none
    else
      if (x :: rest).all fun c => '0' ≤ c && c ≤ '7' then some (digitsValue 8 (x :: rest)) else none
  | s => if s.all Char.isDigit then some (digitsValue 10 s) else none

/-- The parts of a name between its dots; an empty one at the end does not count. -/
def labels (name : List Char) : List (List Char) :=
  let parts := Text.splitAtChar '.' name
  if 1 < parts.length && parts.getLast? = some [] then parts.dropLast else parts

/-- The last part of a name is a number. -/
def endsInNumber (name : List Char) : Bool :=
  match (labels name).getLast? with
  | none => false
  | some part => (!part.isEmpty && part.all Char.isDigit) || (readNumber part).isSome

/-- Reads an address of four bytes: up to four numbers, of which the last one fills the rest. -/
def readIpv4 (name : List Char) : Except UrlError Host :=
  let parts := labels name
  if 4 < parts.length then .error .invalidIpv4
  else
    match parts.mapM readNumber with
    | none => .error .invalidIpv4
    | some ns =>
      let front := ns.dropLast
      let last := ns.getLast?.getD 0
      if front.any (255 < ·) || 1 <<< (8 * (4 - front.length)) ≤ last then .error .invalidIpv4
      else .ok
        (.ipv4 ((front.foldl (fun sum n => sum * 256 + n) 0) <<< (8 * (4 - front.length)) + last))

/-- An address of four bytes. -/
def ipv4Text (n : Nat) : String :=
  s!"{n / 0x1000000}.{n / 0x10000 % 256}.{n / 0x100 % 256}.{n % 256}"

/-! ## Addresses of eight pieces -/

/-- A byte in decimal, without a zero in front. -/
def readByte (s : List Char) : Option Nat :=
  let n := digitsValue 10 s
  if !s.isEmpty && s.all Char.isDigit && n ≤ 255 && (s.length = 1 || s.head? ≠ some '0') then some n
  else none

/-- Two pieces written as four bytes. -/
def readDotted (s : List Char) : Option (List Nat) :=
  match (Text.splitAtChar '.' s).mapM readByte with
  | some [a, b, c, d] => some [a * 256 + b, c * 256 + d]
  | _ => none

/-- One piece: one to four hexadecimal digits. -/
def readPiece (s : List Char) : Option Nat :=
  if !s.isEmpty && s.length ≤ 4 && s.all fun c => (Percent.hexDigit? c).isSome then
    some (digitsValue 16 s)
  else none

/-- Pieces between colons; the last one may be written as four bytes if `mayEnd`. -/
def readPieces (mayEnd : Bool) : List (List Char) → Option (List Nat)
  | [] => some []
  | [s] => if mayEnd && s.contains '.' then readDotted s else (readPiece s).map ([·])
  | s :: rest => do
    let n ← readPiece s
    let ns ← readPieces mayEnd rest
    return n :: ns

/-- The pieces of a part, which may be empty. -/
def readPart (mayEnd : Bool) (s : List Char) : Option (List Nat) :=
  if s.isEmpty then some [] else readPieces mayEnd (Text.splitAtChar ':' s)

/-- Reads the pieces of an address; two colons stand for as many zeros as are missing, and at least
one. -/
def readIpv6 (s : List Char) : Except UrlError Host :=
  let pieces : Option (List Nat) :=
    match Text.splitFirst [':', ':'] s with
    | none => (readPart true s).bind fun ns => if ns.length = 8 then some ns else none
    | some (front, back) => do
      let xs ← readPart false front
      let ys ← readPart true back
      if xs.length + ys.length ≤ 7 then
        return xs ++ List.replicate (8 - xs.length - ys.length) 0 ++ ys
      else none
  match pieces with
  | some ns => .ok (.ipv6 ns)
  | none => .error .invalidIpv6

/-- The number of zeros in front. -/
def zerosAhead (ns : List Nat) : Nat := (ns.takeWhile (· == 0)).length

/-- Where the longest row of zeros starts, and its length; of equal ones the first. -/
def longestZeros (ns : List Nat) : Nat × Nat :=
  (List.range ns.length).foldl (fun best i =>
    let n := zerosAhead (ns.drop i)
    if best.2 < n then (i, n) else best) (0, 0)

/-- Pieces between colons. -/
def piecesText (ns : List Nat) : List Char :=
  [':'].intercalate (ns.map fun n => Nat.toDigits 16 n)

/-- An address of eight pieces; the longest row of at least two zeros becomes two colons. -/
def ipv6Text (ns : List Nat) : List Char :=
  let (start, count) := longestZeros ns
  if count < 2 then piecesText ns
  else piecesText (ns.take start) ++ [':', ':'] ++ piecesText (ns.drop (start + count))

/-! ## Names -/

/-- A character that no name may have. -/
def forbidden (c : Char) : Bool :=
  c.toNat ≤ 32 || c.toNat = 127 || "#/:<>?@[\\]^|%".toList.contains c

/-- The dots of other scripts. -/
def isDot (c : Char) : Bool := [0x3002, 0xFF0E, 0xFF61].contains c.toNat

/-- The basic Latin character of a full-width one, or else the character itself. -/
def narrow (c : Char) : Char :=
  if 0xFF01 ≤ c.toNat && c.toNat ≤ 0xFF5E then Char.ofNat (c.toNat - 0xFEE0) else c

/-- A character as names have it: small letters of normal width, one kind of dot, no soft hyphens.

For basic Latin characters this is all there is to it.  For others it is the part of the mapping of
international names that test addresses meet.  The rest of that table is left out: ligatures,
fractions and other characters that stand for several ones are kept as they are, marks are not
composed with the letters in front of them, and no character is refused for being unassigned or of
the wrong direction.  Such a name gets another coded label here, or gets one where it would be
refused. -/
def nameChar (c : Char) : List Char :=
  if isDot c then ['.'] else if c.toNat = 0xAD then [] else Text.lowerChar (narrow c)

/-- The mark in front of a label that stands for one with other characters. -/
def codedMark : List Char := ['x', 'n', '-', '-']

/-- A label in basic Latin characters. -/
def codedLabel (label : List Char) : Option (List Char) :=
  if label.all fun c => c.toNat < 128 then
    match Text.stripFront codedMark label with
    | none => some label
    | some coded =>
      match Punycode.decode coded with
      | some plain => if plain.any fun c => 128 ≤ c.toNat then some label else none
      | none => none
  else some (codedMark ++ Punycode.encode label)

/-- A domain name in small letters and basic Latin characters. -/
def readDomain (s : List Char) : Except UrlError (List Char) :=
  match Text.ofBytes? (Percent.decode s) with
  | none => .error .invalidDomain
  | some decoded =>
    match ((Text.splitAtChar '.' (decoded.toList.flatMap nameChar)).mapM codedLabel) with
    | none => .error .invalidDomain
    | some coded =>
      let name := ['.'].intercalate coded
      if name.any forbidden then .error .invalidDomain
      else if name.isEmpty then .error .emptyHost
      else .ok name

/-- A host in brackets. -/
def readBracketed (s : List Char) : Except UrlError Host :=
  if s.getLast? = some ']' then readIpv6 s.dropLast else .error .invalidIpv6

/-- Reads a host with a special scheme. -/
def readSpecial (s : List Char) : Except UrlError Host :=
  match s with
  | '[' :: rest => readBracketed rest
  | _ => do
    let name ← readDomain s
    if endsInNumber name then readIpv4 name else .ok (.domain name)

/-- A character that no name with another scheme may have. -/
def forbiddenOpaque (c : Char) : Bool :=
  [0, 9, 10, 13, 32].contains c.toNat || "#/:<>?@[\\]^|".toList.contains c

/-- Reads a host with a scheme that is not special. -/
def readOpaque (s : List Char) : Except UrlError Host :=
  match s with
  | '[' :: rest => readBracketed rest
  | _ =>
    if s.any forbiddenOpaque then .error .invalidHostChar
    else .ok (.domain (Percent.encode Percent.keepOpaque s))

/-- The host as it is written. -/
def text : Host → List Char
  | domain name => name
  | ipv4 n => (ipv4Text n).toList
  | ipv6 ns => '[' :: (ipv6Text ns ++ [']'])

end Host

end Assay
