import Assay.Json.Writer

/-
  The compact text of a document, in the pieces in which it is written.

  A writer with a buffer sees every piece on its own: a mark, a number, a word, and of a string the
  runs of characters between those that are escaped.  Put together the pieces are the compact text.

  This matters to a writer whose buffer is full: a piece is written or held back as a whole, so it
  shows in a file that was left behind where the pieces end.  `pieces` follows `compactChars` case
  by case, with the runs of plain characters taken together by `stringPieces`.
-/

namespace Assay.Json

/-- The character is written by itself. -/
def isPlain (c : Char) : Bool := escaped c == [c]

/-- The pieces of the characters of a string. -/
def stringPieces : List Char → List Char → List (List Char)
  | run, [] => if run.isEmpty then [] else [run.reverse]
  | run, c :: rest =>
    if isPlain c then stringPieces (c :: run) rest
    else (if run.isEmpty then [] else [run.reverse]) ++ escaped c :: stringPieces [] rest

/-- The pieces of a string with its quotation marks. -/
def quotedPieces (s : List Char) : List (List Char) := ['"'] :: (stringPieces [] s ++ [['"']])

mutual
/-- The pieces of a document. -/
def pieces : Json → List (List Char)
  | .null => ["null".toList]
  | .bool true => ["true".toList]
  | .bool false => ["false".toList]
  | .number n => [n.text]
  | .string s => quotedPieces s.toList
  | .array items => ['['] :: (piecesOfItems true items ++ [[']']])
  | .object members => ['\x7b'] :: (piecesOfMembers true members ++ [['\x7d']])
/-- The pieces of items; `first` says that no comma stands in front. -/
def piecesOfItems (first : Bool) : List Json → List (List Char)
  | [] => []
  | v :: rest => (if first then [] else [[',']]) ++ pieces v ++ piecesOfItems false rest
/-- The pieces of members. -/
def piecesOfMembers (first : Bool) : List (String × Json) → List (List Char)
  | [] => []
  | (k, v) :: rest =>
    (if first then [] else [[',']]) ++ quotedPieces k.toList ++ [':'] :: pieces v ++
      piecesOfMembers false rest
end

end Assay.Json
