/-
  Tokens of a YAML text.

  Beside the marks that are written down, there are tokens for what indentation says: the start and
  the end of a block, and the start of a key that only its colon reveals.

  A scalar keeps the style in which it was written, since a scalar in quotation marks is a text
  whatever it looks like.  `Fault` lists all that can be wrong with a text, with one wording for
  each: in the order of the list these are faults of its characters, its tokens, its nodes, and of
  the shape that is expected.
-/

namespace Assay.Yaml

/-- How a scalar is written. -/
inductive ScalarStyle where
  | plain | single | double | literal | folded
  deriving DecidableEq, Repr

/-- A token. -/
inductive Token where
  | version (major minor : Nat)
  | tagPrefix (handle target : String)
  | documentStart | documentEnd
  | blockSequence | blockMapping | blockEnd
  | flowSequence | flowSequenceEnd | flowMapping | flowMappingEnd
  | blockEntry | flowEntry | key | value
  | aliasOf (name : String)
  | anchor (name : String)
  | tag (handle suffix : String)
  | scalar (text : String) (style : ScalarStyle)
  deriving DecidableEq, Repr

/-- Why a text is no YAML, or not of the expected shape. -/
inductive Fault where
  | controlCharacter
  | unexpectedCharacter
  | badDirective
  | badAnchor
  | badTag
  | unknownHandle
  | badEscape
  | badBlockHeader
  | tabInIndentation
  | unclosedScalar
  | missingColon
  | misplacedEntry
  | misplacedKey
  | misplacedValue
  | missingContent
  | missingEntry
  | missingKey
  | missingSeparator
  | missingDocumentStart
  | unknownAnchor
  | documentCount
  | tooDeep
  | tooManyReferences
  | wrongNode
  | wrongScalar
  | localTag
  | repeatedField
  deriving DecidableEq, Repr

/-- The wording of a fault. -/
def Fault.message : Fault → String
  | controlCharacter => "control characters are not allowed"
  | unexpectedCharacter => "found a character that cannot start any token"
  | badDirective => "found a directive that cannot be understood"
  | badAnchor => "found an anchor or alias without a name"
  | badTag => "found a tag that is not well formed"
  | unknownHandle => "found an undefined tag handle"
  | badEscape => "found an unknown escape"
  | badBlockHeader => "found a block scalar whose header is not well formed"
  | tabInIndentation => "found a tab where a blank of the indentation is expected"
  | unclosedScalar => "found the end of the document inside a quoted scalar"
  | missingColon => "could not find the expected ':'"
  | misplacedEntry => "sequence entries are not allowed here"
  | misplacedKey => "mapping keys are not allowed here"
  | misplacedValue => "mapping values are not allowed here"
  | missingContent => "did not find the expected content of a node"
  | missingEntry => "did not find the expected '-'"
  | missingKey => "did not find the expected key"
  | missingSeparator => "did not find the expected ',' or closing bracket"
  | missingDocumentStart => "did not find the expected start of a document"
  | unknownAnchor => "found an alias without an anchor"
  | documentCount => "expected exactly one document"
  | tooDeep => "recursion limit exceeded"
  | tooManyReferences => "repetition limit exceeded"
  | wrongNode => "found a node of another kind than expected"
  | wrongScalar => "found a scalar of another form than expected"
  | localTag => "found a tag where none is expected"
  | repeatedField => "found a field twice"

end Assay.Yaml
