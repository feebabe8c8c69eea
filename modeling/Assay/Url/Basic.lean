import Assay.Url.Host

/-
  Addresses of resources.

  An address is kept in parts: scheme, authority (user, host, port), path, query and fragment.
  Reading brings every part into one form (small letters, dots resolved, characters encoded, no
  default port), so that writing gives one text for one address.

  `readScheme` takes the scheme off, and one of three functions reads the rest: `readFile` for
  files, `readHierarchy` for addresses with an authority, and `readPlain` for all others.  A
  backslash counts as a slash with special schemes only, and these also take any number of slashes
  in front of the authority, and none at all.  User and password are kept encoded, as one text.
  `withFields` adds parameters to a query that may be there already.

  An address of the web that has been read is written so that it is read back as the same address
  (`Assay.Proofs.Addresses`).  This rests on what its parts look like after they have been read.
  What becomes of an address when a path is put behind its text, query and fragment included, is the
  matter of `Assay.Proofs.Joining`.
-/

namespace Assay

/-- The host of an address with what stands before and behind it. -/
structure Authority where
  user : List Char
  host : Host
  port : Option Nat
  deriving DecidableEq, Repr

/-- The path of an address: segments between slashes, or a text without structure. -/
inductive UrlPath where
  | segments (ss : List (List Char))
  | plain (s : List Char)
  deriving DecidableEq, Repr

/-- An address. -/
structure Url where
  scheme : List Char
  authority : Option Authority
  path : UrlPath
  query : Option (List Char)
  fragment : Option (List Char)
  deriving DecidableEq, Repr

namespace Url

/-! ## Schemes -/

/-- The special schemes with their default ports. -/
def specialSchemes : List (List Char × Option Nat) := [
  ("http".toList, some 80), ("https".toList, some 443), ("ws".toList, some 80),
  ("wss".toList, some 443), ("ftp".toList, some 21), ("file".toList, none)]

/-- The scheme is a special one. -/
def isSpecial (scheme : List Char) : Bool := (specialSchemes.lookup scheme).isSome

/-- The port that need not be written. -/
def defaultPort (scheme : List Char) : Option Nat := (specialSchemes.lookup scheme).join

/-- The scheme of files, which has a host that may be empty. -/
def fileScheme : List Char := "file".toList

/-! ## Writing -/

/-- The authority as it is written. -/
def authorityText (a : Authority) : List Char :=
  (if a.user.isEmpty then [] else a.user ++ ['@']) ++ a.host.text ++
    (match a.port with
      | some p => ':' :: Nat.toDigits 10 p
      | none => [])

/-- The path as it is written.  Without an authority a path must not begin with two slashes. -/
def pathText (hasAuthority : Bool) : UrlPath → List Char
  | .plain s => s
  | .segments ss =>
    (if !hasAuthority && 1 < ss.length && ss.head? = some [] then ['/', '.'] else []) ++
      ss.flatMap fun s => '/' :: s

/-- An optional part behind its mark. -/
def partText (mark : Char) : Option (List Char) → List Char
  | some s => mark :: s
  | none => []

/-- The address as it is written. -/
def chars (u : Url) : List Char :=
  u.scheme ++ [':'] ++
    (match u.authority with
      | some a => '/' :: '/' :: authorityText a
      | none => []) ++
    pathText u.authority.isSome u.path ++ partText '?' u.query ++ partText '#' u.fragment

/-- The address as it is written. -/
def text (u : Url) : String := String.ofList u.chars

/-! ## Reading: scheme, user and port -/

/-- Reads the scheme and its colon. -/
def readScheme (s : List Char) : Option (List Char × List Char) :=
  let name := s.takeWhile fun c => c.isAlphanum || "+-.".toList.contains c
  match s.head?, s.drop name.length with
  | some c, ':' :: rest => if c.isAlpha then some (name.map Text.asciiLower, rest) else none
  | _, _ => none

/-- The character ends an authority. -/
def endsAuthority (special : Bool) (c : Char) : Bool :=
  c = '/' || c = '?' || c = '#' || (special && c = '\\')

/-- Cuts behind the last at-sign. -/
def splitUser (s : List Char) : Option (List Char × List Char) :=
  let back := s.reverse.takeWhile (· ≠ '@')
  if back.length = s.length then none
  else some (s.take (s.length - back.length - 1), back.reverse)

/-- User name and password as they are written; a password that is empty is left out. -/
def userText (s : List Char) : List Char :=
  let name := s.takeWhile (· ≠ ':')
  let password := s.drop (name.length + 1)
  Percent.encode Percent.keepUser name ++
    (if password.isEmpty then [] else ':' :: Percent.encode Percent.keepUser password)

/-- Cuts in front of the colon that starts the port, which stands outside brackets. -/
def splitPort : Bool → List Char → List Char × Option (List Char)
  | _, [] => ([], none)
  | inside, c :: rest =>
    if c = ':' && !inside then ([], some rest)
    else
      let inside := if c = '[' then true else if c = ']' then false else inside
      let (host, port) := splitPort inside rest
      (c :: host, port)

/-- The authority at the front of a text.  A backslash behind a port ends it whatever the scheme. -/
def authorityFront (special : Bool) (s : List Char) : List Char :=
  let front := s.takeWhile fun c => !endsAuthority special c
  let port := (splitPort false ((splitUser front).getD ([], front)).2).2.getD []
  front.take (front.length - (port.dropWhile (· ≠ '\\')).length)

/-- Reads a port; the default one and none at all are the same. -/
def readPort (dflt : Option Nat) (digits : List Char) : Except UrlError (Option Nat) :=
  if digits.all Char.isDigit then
    let n := Host.digitsValue 10 digits
    if 65535 < n then .error .invalidPort
    else if digits.isEmpty || dflt = some n then .ok none
    else .ok (some n)
  else .error .invalidPort

/-! ## Reading: path -/

/-- The segment stands for its own directory. -/
def isDot (s : List Char) : Bool :=
  let s := s.map Text.asciiLower
  s == ".".toList || s == "%2e".toList

/-- The segment stands for the directory above. -/
def isDoubleDot (s : List Char) : Bool :=
  let s := s.map Text.asciiLower
  s == "..".toList || s == ".%2e".toList || s == "%2e.".toList || s == "%2e%2e".toList

/-- Cuts a path at its slashes. -/
def splitPath (special : Bool) (s : List Char) : List (List Char) :=
  Text.splitAtChar '/' (if special then s.map fun c => if c = '\\' then '/' else c else s)

/-- Resolves the dots of a path; `done` are the segments so far, the last one first. -/
def resolveDots : List (List Char) → List (List Char) → List (List Char)
  | done, [] => done.reverse
  | done, [s] =>
    if isDoubleDot s then ([] :: done.tail).reverse
    else if isDot s then ([] :: done).reverse
    else (s :: done).reverse
  | done, s :: rest =>
    if isDoubleDot s then resolveDots done.tail rest
    else if isDot s then resolveDots done rest
    else resolveDots (s :: done) rest

/-- Reads a path without the slash in front. -/
def readSegments (special : Bool) (s : List Char) : List (List Char) :=
  resolveDots [] ((splitPath special s).map (Percent.encode Percent.keepPath))

/-- Reads the path behind an authority. -/
def readPath (special : Bool) (s : List Char) : UrlPath :=
  match s with
  | [] => .segments (if special then [[]] else [])
  | '/' :: rest => .segments (readSegments special rest)
  | '\\' :: rest => if special then .segments (readSegments special rest)
      else .segments (readSegments special s)
  | _ => .segments (readSegments special s)

/-! ## Reading: the whole -/

/-- Cuts at the first character that starts a query or fragment. -/
def splitPathEnd (s : List Char) : List Char × List Char :=
  let path := s.takeWhile fun c => c ≠ '?' && c ≠ '#'
  (path, s.drop path.length)

/-- Reads query and fragment. -/
def readTail (special : Bool) (s : List Char) : Option (List Char) × Option (List Char) :=
  match s with
  | '?' :: rest =>
    let query := rest.takeWhile (· ≠ '#')
    let fragment := match rest.drop query.length with
      | '#' :: f => some (Percent.encode Percent.keepFragment f)
      | _ => none
    (some (Percent.encode (Percent.keepQuery special) query), fragment)
  | '#' :: f => (none, some (Percent.encode Percent.keepFragment f))
  | _ => (none, none)

/-- Reads user, host and port. -/
def readAuthority (scheme s : List Char) : Except UrlError Authority := do
  let special := isSpecial scheme
  let (user, rest) := (splitUser s).getD ([], s)
  if (splitUser s).isSome && user.isEmpty && rest.isEmpty then throw .emptyHost
  let written := userText user
  let (hostText, port) := splitPort false rest
  if special && hostText.isEmpty then throw .emptyHost
  let host ← if special then Host.readSpecial hostText else Host.readOpaque hostText
  if hostText.isEmpty && port.isSome then throw .emptyHost
  let port ← match port with
    | some p => readPort (defaultPort scheme) p
    | none => pure none
  if hostText.isEmpty && !written.isEmpty then throw .emptyHost
  return ⟨written, host, port⟩

/-- Reads what follows a scheme and two slashes. -/
def readHierarchy (scheme s : List Char) : Except UrlError Url := do
  let special := isSpecial scheme
  let front := authorityFront special s
  let authority ← readAuthority scheme front
  let (path, rest) := splitPathEnd (s.drop front.length)
  let (query, fragment) := readTail special rest
  return ⟨scheme, some authority, readPath special path, query, fragment⟩

/-- Reads what follows the scheme of files. -/
def readFile (s : List Char) : Except UrlError Url := do
  let isSlash (c : Char) : Bool := c = '/' || c = '\\'
  let hasHost := (s.take 2).length = 2 && (s.take 2).all isSlash
  let afterSlashes := if hasHost then s.drop 2 else s
  let front := if hasHost then afterSlashes.takeWhile fun c => !endsAuthority true c else []
  let host ← if front.isEmpty then pure (Host.domain []) else Host.readSpecial front
  let host := if host = .domain "localhost".toList then .domain [] else host
  let (path, rest) := splitPathEnd (afterSlashes.drop front.length)
  let (query, fragment) := readTail true rest
  let body := match path with
    | c :: more => if isSlash c then more else path
    | [] => []
  let ss := readSegments true body
  let trimmed := ss.dropWhile List.isEmpty
  return ⟨fileScheme, some ⟨[], host, none⟩, .segments (if trimmed.isEmpty then [[]] else trimmed),
    query, fragment⟩

/-- Reads what follows a scheme that is not special and no authority. -/
def readPlain (scheme s : List Char) : Url :=
  let (path, rest) := splitPathEnd s
  let (query, fragment) := readTail false rest
  let path := match path with
    | '/' :: more => UrlPath.segments (readSegments false more)
    | _ => UrlPath.plain (Percent.encode Percent.keepOpaque path)
  ⟨scheme, none, path, query, fragment⟩

/-- The character is a control character or a blank. -/
def isTrimmed (c : Char) : Bool := c.toNat ≤ 32

/-- Drops control characters and blanks at both ends, and line breaks and tabs everywhere. -/
def clean (s : List Char) : List Char :=
  let s := ((s.dropWhile isTrimmed).reverse.dropWhile isTrimmed).reverse
  s.filter fun c => c ≠ '\t' && c ≠ '\n' && c ≠ '\r'

/-- Reads an address. -/
def parseChars (s : List Char) : Except UrlError Url :=
  match readScheme (clean s) with
  | none => .error .noBase
  | some (scheme, rest) =>
    if scheme = fileScheme then readFile rest
    else if isSpecial scheme then readHierarchy scheme (rest.dropWhile fun c => c = '/' || c = '\\')
    else
      match rest with
      | '/' :: '/' :: more => readHierarchy scheme more
      | _ => .ok (readPlain scheme rest)

/-- Reads an address. -/
def parse (s : String) : Except UrlError Url := parseChars s.toList

/-! ## Adding query parameters -/

/-- The address with further fields in its query. -/
def withFields (u : Url) (fields : List (String × String)) : Url :=
  if fields.isEmpty then u
  else
    let form := Percent.encodeForm fields
    { u with query := some (match u.query with
      | some (c :: q) => (c :: q) ++ '&' :: form
      | _ => form) }

end Url

end Assay
