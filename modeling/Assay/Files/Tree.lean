import Assay.Files.Path
import Assay.Text.Utf8

/-
  A tree of files.

  A node is a file, a symbolic link or a directory; the entries of a directory are in the order of
  their names.  Paths are relative to the root of the tree, and nothing outside it exists.  Links
  are followed wherever a path goes through them, up to a limit.

  A file carries a number that tells it from every other one: who holds a file open goes on writing
  to it by this number, whatever becomes of its path.

  A place is a list of names that has been reached without links; `Node.get?`, `Node.put` and
  `Node.remove` work on places.  A path is turned into a place by `Tree.walk`, name by name, and
  this is the only function that knows about links and about the way up.  `Tree.locate` adds what a
  path says besides its names: it may be empty, start at the root, or end in a slash.

  Writing comes in the two steps that programs take: a file is created at a path, with a new number
  (`Tree.create`), and from then on written by its number (`Tree.writeAt`).  That the entries of
  directories stay in order, that numbers stay unique, and what a file then contains is shown in
  `Assay.Proofs.Directories`.
-/

namespace Assay

/-- Why an operation on files fails. -/
inductive IoError where
  | notFound | exists | notDirectory | isDirectory | tooManyLinks | notText
  | other (message : String)
  deriving DecidableEq, Repr

/-- The wording of such a failure. -/
def IoError.message : IoError → String
  | notFound => "No such file or directory (os error 2)"
  | «exists» => "File exists (os error 17)"
  | notDirectory => "Not a directory (os error 20)"
  | isDirectory => "Is a directory (os error 21)"
  | tooManyLinks => "Too many levels of symbolic links (os error 40)"
  | notText => "stream did not contain valid UTF-8"
  | other m => m

namespace Files

/-- A file, a link or a directory. -/
inductive Node where
  | file (number : Nat) (content : List UInt8)
  | link (target : String)
  | directory (entries : List (String × Node))
  deriving Repr, Inhabited

namespace Node

/-- The entry of a directory under a name. -/
def entryIn (name : String) : List (String × Node) → Option Node
  | [] => none
  | (n, v) :: rest => if n = name then some v else entryIn name rest

/-- Puts an entry at its place among the entries of a directory. -/
def putEntry (name : String) (node : Node) : List (String × Node) → List (String × Node)
  | [] => [(name, node)]
  | (n, v) :: rest =>
    if name < n then (name, node) :: (n, v) :: rest
    else if name = n then (name, node) :: rest
    else (n, v) :: putEntry name node rest

/-- The node at a place, links not followed. -/
def get? : Node → List String → Option Node
  | v, [] => some v
  | directory es, n :: rest => (entryIn n es).bind fun v => get? v rest
  | _, _ :: _ => none

/-- Puts a node at a place whose directory is there. -/
def put : Node → Node → List String → Node
  | v, _, [] => v
  | directory es, node, [n] => directory (putEntry n node es)
  | directory es, node, n :: rest =>
    match entryIn n es with
    | some v => directory (putEntry n (put v node rest) es)
    | none => directory es
  | v, _, _ => v

/-- Removes the node at a place with everything below it. -/
def remove : Node → List String → Node
  | directory es, [n] => directory (es.filter fun e => e.1 ≠ n)
  | directory es, n :: rest =>
    match entryIn n es with
    | some v => directory (putEntry n (remove v rest) es)
    | none => directory es
  | v, _ => v

end Node

/-- A tree of files, and the number that the next new file gets. -/
structure Tree where
  root : Node
  next : Nat
  deriving Repr

/-- The tree without files. -/
def Tree.empty : Tree := ⟨.directory [], 0⟩

instance : Inhabited Tree := ⟨Tree.empty⟩

namespace Tree

/-- How many links a path may go through. -/
def linkLimit : Nat := 40

/-- The steps that the names of a path take from a place.  `followLast` says whether a link at the
end is followed too.  The fuel bounds the number of names, those of the links included. -/
def walk (t : Tree) (followLast : Bool) :
    Nat → Nat → List String → List String → Except IoError (List String)
  | 0, _, _, _ => .error .tooManyLinks
  | _, _, place, [] => .ok place
  | fuel + 1, links, place, n :: rest =>
    match t.root.get? place with
    | some (.directory es) =>
      if n = ".." then
        if place.isEmpty then .error .notFound else walk t followLast fuel links place.dropLast rest
      else
        match Node.entryIn n es with
        | none => .error .notFound
        | some (.link target) =>
          if rest.isEmpty && !followLast then .ok (place ++ [n])
          else if linkLimit ≤ links then .error .tooManyLinks
          else if isAbsolute target || target == "" then .error .notFound
          else walk t followLast fuel (links + 1) place (names target ++ rest)
        | some _ => walk t followLast fuel links (place ++ [n]) rest
    | some _ => .error .notDirectory
    | none => .error .notFound

/-- How many names a path may have, those of the links included. -/
def nameLimit : Nat := 4096

/-- The place that a path leads to.

The tree is all that there is, and paths start at its root.  A path that starts at the root of a
file system instead is taken as not found, here and in `walk` as the target of a link, although on a
machine it may lead to something, and even back into the tree.  So the tests and the results of a
run are to be named by relative paths. -/
def locate (t : Tree) (path : String) (followLast : Bool) : Except IoError (List String) :=
  if path == "" || isAbsolute path then .error .notFound
  else do
    let place ← walk t followLast nameLimit 0 [] (names path)
    -- A slash or a dot at the end asks for a directory.
    let back := (Text.splitAtChar '/' path.toList).getLast?
    if back = some [] || back = some ['.'] then
      match t.root.get? place with
      | some (.directory _) => return place
      | some _ => throw .notDirectory
      | none => throw .notFound
    return place

/-- The node that a path leads to, links followed. -/
def find (t : Tree) (path : String) : Except IoError Node := do
  let place ← t.locate path true
  match t.root.get? place with
  | some v => return v
  | none => throw .notFound

/-- There is something at a path, links followed. -/
def has (t : Tree) (path : String) : Bool := (t.find path).toOption.isSome

/-- The path leads to a directory. -/
def isDirectory (t : Tree) (path : String) : Bool :=
  match t.find path with
  | .ok (.directory _) => true
  | _ => false

/-- The content of a file. -/
def read (t : Tree) (path : String) : Except IoError (List UInt8) := do
  match ← t.find path with
  | .file _ content => return content
  | .directory _ => throw .isDirectory
  | .link _ => throw .tooManyLinks

/-- The content of a file as a text. -/
def readText (t : Tree) (path : String) : Except IoError String := do
  match Text.ofBytes? (← t.read path) with
  | some s => return s
  | none => throw .notText

/-! ## Changing -/

/-- The directory that a path names an entry of, and the entry; links at the end are followed. -/
def entryPlace (t : Tree) : Nat → List String → Except IoError (List String × String)
  | 0, _ => .error .tooManyLinks
  | fuel + 1, ns =>
    match ns.getLast? with
    | none => .error .isDirectory
    | some ".." => .error .isDirectory
    | some n => do
      let directory ← walk t true nameLimit 0 [] ns.dropLast
      match t.root.get? directory with
      | some (.directory es) =>
        match Node.entryIn n es with
        | some (.link target) => entryPlace t fuel (directory ++ names target)
        | _ => return (directory, n)
      | some _ => throw .notDirectory
      | none => throw .notFound

/-- Creates a file, or empties the one that is there: its number, and the tree. -/
def create (t : Tree) (path : String) : Except IoError (Nat × Tree) :=
  if path == "" || isAbsolute path then .error .notFound
  else do
    let (directory, n) ← t.entryPlace linkLimit (names path)
    let place := directory ++ [n]
    if path.toList.getLast? = some '/' then throw .isDirectory
    match t.root.get? place with
    | some (.directory _) => throw .isDirectory
    | some (.file number _) =>
      return (number, { t with root := t.root.put (.file number []) place })
    | _ => return (t.next, ⟨t.root.put (.file t.next []) place, t.next + 1⟩)

mutual
/-- Changes the content of the file of a number, wherever it is. -/
def changeNode (number : Nat) (f : List UInt8 → List UInt8) : Node → Node
  | .file n content => if n = number then .file n (f content) else .file n content
  | .link target => .link target
  | .directory es => .directory (changeEntries number f es)
/-- Changes the content of the file of a number among some entries. -/
def changeEntries (number : Nat) (f : List UInt8 → List UInt8) :
    List (String × Node) → List (String × Node)
  | [] => []
  | (n, v) :: rest => (n, changeNode number f v) :: changeEntries number f rest
end

/-- Bytes written over a content from a position on; a gap is filled with zeros. -/
def overwrite (position : Nat) (bytes content : List UInt8) : List UInt8 :=
  content.take position ++ List.replicate (position - content.length) 0 ++ bytes ++
    content.drop (position + bytes.length)

/-- Writes to the file of a number, from a position on. -/
def writeAt (t : Tree) (number position : Nat) (bytes : List UInt8) : Tree :=
  { t with root := changeNode number (overwrite position bytes) t.root }

/-- Writes a whole file. -/
def write (t : Tree) (path : String) (content : List UInt8) : Except IoError Tree := do
  let (number, t) ← t.create path
  return t.writeAt number 0 content

/-- Creates one directory. -/
def makeDirectory (t : Tree) (path : String) : Except IoError Tree :=
  if path == "" || isAbsolute path then .error .notFound
  else
    match (names path).getLast? with
    | none => .error .exists
    | some n => do
      let directory ← walk t true nameLimit 0 [] (names path).dropLast
      match t.root.get? directory with
      | some (.directory es) =>
        if n = ".." || (Node.entryIn n es).isSome then throw .exists
        return { t with root := t.root.put (.directory []) (directory ++ [n]) }
      | some _ => throw .notDirectory
      | none => throw .notFound

/-- The front parts of a list, from one element to all of them. -/
def fronts {α : Type} (l : List α) : List (List α) :=
  (List.range l.length).map fun i => l.take (i + 1)

/-- Creates a directory and those above it, as far as they are missing. -/
def makeDirectories (t : Tree) (path : String) : Except IoError Tree :=
  if path == "" then .ok t
  else if isAbsolute path then .error .notFound
  else
    (fronts (names path)).foldlM (fun t ns =>
      let here := "/".intercalate ns
      if t.isDirectory here then .ok t
      else if t.has here && ns.length < (names path).length then .error .notDirectory
      else t.makeDirectory here) t

/-- Removes what is at a path, with everything below it. -/
def remove (t : Tree) (path : String) : Tree :=
  match t.locate path false with
  | .ok place => { t with root := t.root.remove place }
  | .error _ => t

/-- Puts a link at a path. -/
def addLink (t : Tree) (path target : String) : Except IoError Tree := do
  let directory ← walk t true nameLimit 0 [] (names path).dropLast
  match (names path).getLast? with
  | some n => return { t with root := t.root.put (.link target) (directory ++ [n]) }
  | none => throw .exists

end Tree

end Files

end Assay
