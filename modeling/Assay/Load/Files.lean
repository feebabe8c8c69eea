import Assay.Files.Tree
import Assay.Load.Definition
import Assay.Run.Error

/-
  Finding and loading files of tests.

  Every file at or below the location of the tests whose extension is that of YAML is a file of
  tests.  Files are read in the order in which they are met, the entries of a directory being
  visited by name, and tests keep their order within a file.  Loading gives all tests or none: the
  first file that cannot be read, understood or accepted is reported.

  A walk through the tree carries its ancestors along, each with its place: a link is followed
  unless it leads to one of them, which is reported as a loop.  A directory may be met twice in
  other ways. The walk ends because between two links it only goes down, and links never repeat a
  place (`walkLimit`).

  `files` is the list of files, `loadFile` reads one of them and `load` all.  The number of tests
  that have been read is handed on, because a test without an identifier draws one by its number.
  Which files are met, and in which order, is shown in `Assay.Proofs.Listing`; what loading gives,
  and which refusal comes first, in `Assay.Proofs.Loading`.
-/

namespace Assay.Load

/-! ## Walking a tree of files -/

/-- The directory among the ones around a place that is the same as a given one, the nearest
first. -/
def ancestor? (ancestors : List (List String × String)) (place : List String) : Option String :=
  (ancestors.find? fun a => a.1 == place).map Prod.snd

/-- The files at or below a path, links followed.  `ancestors` are the directories that lead here,
each with its place in the tree and its path: a link to one of them is a loop. -/
def filesBelow (tree : Files.Tree) : Nat → List (List String × String) → Bool → String →
    Except WalkError (List String)
  | 0, _, _, path => .error (.io path .tooManyLinks)
  | fuel + 1, ancestors, isLink, path => do
    let place ← (tree.locate path true).mapError (.io path)
    match tree.root.get? place with
    | some (.directory entries) =>
      if let (true, some a) := (isLink, ancestor? ancestors place) then throw (.loop path a)
      let found ← entries.mapM fun e =>
        let isLink := match e.2 with
          | .link _ => true
          | _ => false
        filesBelow tree fuel ((place, path) :: ancestors) isLink (Files.join path e.1)
      return found.flatten
    | some _ => return [path]
    | none => throw (.io path .notFound)

mutual
/-- How many nodes there are at and below a node. -/
def nodeCount : Files.Node → Nat
  | .file .. => 1
  | .link _ => 1
  | .directory es => entryCount es + 1
/-- How many nodes some entries have. -/
def entryCount : List (String × Files.Node) → Nat
  | [] => 0
  | (_, v) :: rest => nodeCount v + entryCount rest
end

/-- How deep a walk can get: between two links, which never lead to the same directory twice, it
only goes down. -/
def walkLimit (tree : Files.Tree) : Nat := (nodeCount tree.root + 1) * (nodeCount tree.root + 1)

/-! ## Files of tests -/

/-- The extension is that of YAML. -/
def isYaml (path : String) : Bool :=
  Files.extension? path == some "yaml" || Files.extension? path == some "yml"

/-- A filter that is not empty has to be part of the path. -/
def accepts (filter : Option String) (path : String) : Bool :=
  match filter with
  | none => true
  | some f => f.isEmpty || Text.contains path f

/-- The files of tests at or below a location, in the order in which they are loaded. -/
def files (tree : Files.Tree) (location : String) (filter : Option String) :
    Except LoadError (List String) :=
  if !tree.has location then .error (.notFound location)
  else do
    let found ← (filesBelow tree (walkLimit tree) [] false location).mapError .walk
    return found.filter fun p => isYaml p && accepts filter p

/-- The tests of one file; the first one has the number `n`. -/
def loadFile [DefinitionReader] (fresh : Nat → Uuid) (tree : Files.Tree) (n : Nat) (path : String) :
    Except LoadError (List TestCase) := do
  let text ← (tree.readText path).mapError (.unreadable path)
  let tests ← (parse fresh n text).mapError (.parse path)
  tests.mapM fun t => do
    t.validate.mapError (.invalid path)
    return { t with file := some path }

/-- The tests of some files, one file after the other. -/
def loadFiles [DefinitionReader] (fresh : Nat → Uuid) (tree : Files.Tree) : Nat → List String →
    Except LoadError (List TestCase)
  | _, [] => .ok []
  | n, path :: rest => do
    let tests ← loadFile fresh tree n path
    let more ← loadFiles fresh tree (n + tests.length) rest
    return tests ++ more

/-- The tests at or below a location. -/
def load [DefinitionReader] (fresh : Nat → Uuid) (tree : Files.Tree) (location : String)
    (filter : Option String) :
    Except LoadError (List TestCase) := do
  loadFiles fresh tree 0 (← files tree location filter)

end Assay.Load
