import Assay.Run.Executor
import Assay.Text.Utf8
import Assay.Url.Percent

/-
  The client that sends requests.

  A client refuses some requests before anything is sent: those whose address has no host or is not
  one of the web, and those with a header that cannot be written.  What it does not refuse it hands
  to a transport.  A client can go through a proxy, whose address is checked when the client is
  made.

  `send` makes a transport of a transport: requests that are refused do not get to it.  The order in
  which the parts of a request are looked at shows in the error (`refusal`), and so does the user in
  the address, which is moved to a header before the scheme is looked at (`withoutUser`).

  Names of headers are those of HTTP, and values may have any character but controls; the value is
  not changed on the way.  That an address of the web is written and read back without loss is the
  matter of `Assay.Proofs.Addresses`.
-/

namespace Assay.Harness.Client

/-! ## Headers -/

/-- A character of a header's name. -/
def isNameChar (c : Char) : Bool := c.isAlphanum || "!#$%&'*+-.^_`|~".toList.contains c

/-- A name that a header can have. -/
def isHeaderName (s : String) : Bool :=
  !s.isEmpty && s.toList.all isNameChar && s.utf8ByteSize < 0x10000

/-- A value that a header can have: one without control characters, tabs apart. -/
def isHeaderValue (s : String) : Bool :=
  s.toList.all fun c => c = '\t' || (32 ≤ c.toNat && c.toNat ≠ 127)

/-! ## Addresses -/

/-- The address has a host. -/
def hasHost (u : Url) : Bool :=
  match u.authority with
  | some a => !a.host.text.isEmpty
  | none => false

/-- The address is one of the web. -/
def isWeb (u : Url) : Bool := u.scheme = "http".toList || u.scheme = "https".toList

/-- A part of an address that stands for a text. -/
def isText (s : List Char) : Bool := (Text.ofBytes? (Percent.decode s)).isSome

/-- The address without its user, which is sent in a header instead.  A user that stands for no text
stays where it is. -/
def withoutUser (u : Url) : Url :=
  match u.authority with
  | some a =>
    let name := a.user.takeWhile (· ≠ ':')
    let password := (a.user.dropWhile (· ≠ ':')).drop 1
    if isText name && (!name.isEmpty || isText password) then
      { u with authority := some { a with user := [] } }
    else u
  | none => u

/-! ## Requests -/

/-- A request whose parts cannot be put together. -/
def unbuildable : SendError := .invalidUrl "builder error"

/-- A request whose address cannot be used. -/
def unusable (u : Url) : SendError := .invalidUrl s!"builder error for url ({u.text})"

/-- Why a request is refused.  A missing host comes before a bad header, and that before a scheme
that is not one of the web. -/
def refusal (r : PreparedRequest) : Option SendError :=
  if !hasHost r.url then some (unusable r.url)
  else if r.headers.any fun h => !isHeaderName h.1 || !isHeaderValue h.2 then some unbuildable
  else if !isWeb r.url then some (unusable (withoutUser r.url))
  else none

/-- A way to carry requests to their servers. -/
abbrev Transport (σ : Type) := PreparedRequest → StateM σ (Except SendError Response)

/-- Sends a request, unless it is refused. -/
def send {σ : Type} (transport : Transport σ) : Transport σ := fun r =>
  match refusal r with
  | some e => pure (.error e)
  | none => transport r

/-! ## Proxies -/

/-- A proxy has a host.  If the address has none, it is read as what stands behind the scheme of the
web. -/
def isProxy (u : Url) : Bool :=
  hasHost u ||
    match Url.parse ("http://" ++ u.text) with
    | .ok v => hasHost v
    | .error _ => false

/-- Checks the address of a proxy. -/
def checkProxy : Option Url → Except SendError Unit
  | none => .ok ()
  | some u =>
    if isProxy u then .ok () else .error (.invalidUrl s!"proxy {u.text}: builder error")

end Assay.Harness.Client
