import Assay.Files.Tree

/-
  What has changed between two trees of files.

  The changes are listed from the top down, so that carrying them out in order creates every
  directory before what is in it.  Nothing is ever removed.

  A file whose content is the same as before makes no change, even if it was written anew.  Links
  make none either: what is written through a link shows at the file that the link leads to.
-/

namespace Assay.Files

/-- A directory or a file that has to be created or written anew. -/
inductive Change where
  | directory (path : String)
  | file (path : String) (content : List UInt8)
  deriving DecidableEq, Repr

/-- The change that a file makes, unless its content is there already. -/
def fileChange (before : Tree) (path : String) (content : List UInt8) : List Change :=
  match before.read path with
  | .ok old => if old = content then [] else [.file path content]
  | .error _ => [.file path content]

mutual
/-- The changes that a node at a path makes. -/
def changesAt (before : Tree) (path : String) : Node → List Change
  | .file _ content => fileChange before path content
  | .link _ => []
  | .directory es =>
    (if path == "" || before.isDirectory path then [] else [.directory path]) ++
      changesIn before path es
/-- The changes that the entries of a directory make. -/
def changesIn (before : Tree) (path : String) : List (String × Node) → List Change
  | [] => []
  | (n, v) :: rest => changesAt before (join path n) v ++ changesIn before path rest
end

/-- The changes that lead from one tree to another. -/
def changes (before after : Tree) : List Change := changesAt before "" after.root

end Assay.Files
