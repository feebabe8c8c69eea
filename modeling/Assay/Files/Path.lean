import Assay.Text.Search
import Assay.Text.Utf8

/-
  Paths of files.

  A path is a text of names between slashes.  Names that are empty or a single dot say nothing; two
  dots lead to the directory above.

  A file system names its files by bytes, which need not be well-formed UTF-8.  A report may come
  from such a file, so the path in it (`SourcePath`) is a text or bytes that are none; the latter
  can be shown, with replacement characters, but not be written to a document.

  `names` gives the steps of a path and `join` puts a name behind a path.  The stem and the
  extension of a file are the parts of its name around the last dot (`splitName`), where a dot at
  the start of a name does not count: a name such as `.yaml` is all stem.
-/

namespace Assay.Files

/-! ## Where a test comes from -/

/-- The path of a file from which a test was read: a text, or bytes that are not well-formed
UTF-8. -/
inductive SourcePath where
  | text (path : String)
  | bytes (path : List UInt8) (malformed : Text.ofBytes? path = none)
  deriving DecidableEq, Repr

namespace SourcePath

/-- The path as a text, if it is one. -/
def text? : SourcePath → Option String
  | .text path => some path
  | .bytes _ _ => none

/-- The path as it is shown, with replacement characters where it is not well formed. -/
def shown : SourcePath → String
  | .text path => path
  | .bytes path _ => Text.ofBytes path

end SourcePath

/-! ## Names -/

/-- The names of a path: what stands between the slashes, apart from empty names and single dots. -/
def names (path : String) : List String :=
  ((Text.splitAtChar '/' path.toList).map String.ofList).filter fun n => n ≠ "" && n ≠ "."

/-- The path starts at the root of the file system. -/
def isAbsolute (path : String) : Bool := path.toList.head? = some '/'

/-- The path of an entry of a directory. -/
def join (directory name : String) : String :=
  if directory == "" || directory.toList.getLast? = some '/' then directory ++ name
  else directory ++ "/" ++ name

/-- The last name of a path, if there is one and it does not lead up. -/
def fileName? (path : String) : Option String :=
  (names path).getLast?.bind fun n => if n == ".." then none else some n

/-- Cuts a name at its last dot: what stands before it and behind it.  A dot in front does not
count. -/
def splitName (name : String) : String × Option String :=
  let s := name.toList
  let back := s.reverse.takeWhile (· ≠ '.')
  if back.length < s.length && back.length + 1 < s.length then
    (String.ofList (s.take (s.length - back.length - 1)), some (String.ofList back.reverse))
  else (name, none)

/-- The last name of a path without its extension. -/
def stem? (path : String) : Option String := (fileName? path).map fun n => (splitName n).1

/-- The extension of the last name of a path. -/
def extension? (path : String) : Option String := (fileName? path).bind fun n => (splitName n).2

end Assay.Files
