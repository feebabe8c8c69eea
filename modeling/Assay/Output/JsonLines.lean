import Assay.Json.Pieces
import Assay.Output.Sink

/-
  Reports as lines of JSON.

  Every report is one line.  Lines are held back in a buffer of fixed size and written out when the
  next piece does not fit any more, and at the end; a piece that is larger than the whole buffer is
  written at once.  The first failure is remembered and returned at the end, unless writing what is
  held back fails then.

  A report from a file whose path is no text cannot be written as a document.  This shows only when
  the path is reached, so the line is broken off there (`JsonLines.piecesOf`), without an end, and
  the failure is remembered like that of a write.

  `Buffered` is the buffer, apart from what is written: `Buffered.put` adds a piece.
  `JsonLines.receive` and `JsonLines.finalize` are the receipt of a report and the end, over any
  writer.  After a failure the buffer is left as it is, so that what it holds back may still be
  written later, in one line with what comes next.  While the file is closed one more try is made to
  write what is held back; its answer is not looked at.

  A file that never fails holds one line for each report that can be written, and the reports can be
  read back from them up to whole milliseconds: `Assay.Proofs.Lines`.  What is tried on a writer
  that fails is described in `Assay.Proofs.Attempts`.
-/

namespace Assay

/-- A way to write texts, which changes a state and may fail. -/
abbrev LineWriter (ω : Type) := String → StateM ω (Except IoError Unit)

/-- Text that is held back. -/
structure Buffered where
  held : String
  deriving DecidableEq, Repr

namespace Buffered

/-- Nothing is held back. -/
def empty : Buffered := ⟨""⟩

/-- How many bytes are held back at most. -/
def capacity : Nat := 8192

/-- Writes out what is held back. -/
def flush {ω : Type} (write : LineWriter ω) (b : Buffered) :
    StateM ω (Except IoError Unit × Buffered) :=
  if b.held.isEmpty then pure (.ok (), b)
  else do
    match ← write b.held with
    | .ok () => return (.ok (), empty)
    | .error e => return (.error e, b)

/-- Adds a piece to a buffer that has room for it, or writes it if it is too large for any. -/
def place {ω : Type} (write : LineWriter ω) (b : Buffered) (piece : String) :
    StateM ω (Except IoError Unit × Buffered) :=
  if capacity ≤ piece.utf8ByteSize then do
    let r ← write piece
    return (r, b)
  else pure (.ok (), ⟨b.held ++ piece⟩)

/-- Adds a piece; what is held back is written out first if there is no room. -/
def put {ω : Type} (write : LineWriter ω) (b : Buffered) (piece : String) :
    StateM ω (Except IoError Unit × Buffered) :=
  if b.held.utf8ByteSize + piece.utf8ByteSize ≤ capacity then place write b piece
  else do
    match ← flush write b with
    | (.ok (), b) => place write b piece
    | (.error e, b) => return (.error e, b)

/-- Adds pieces until one of them fails. -/
def putAll {ω : Type} (write : LineWriter ω) : List String → Buffered →
    StateM ω (Except IoError Unit × Buffered)
  | [], b => pure (.ok (), b)
  | p :: rest, b => do
    match ← put write b p with
    | (.ok (), b) => putAll write rest b
    | (.error e, b) => return (.error e, b)

end Buffered

/-- A file of JSON lines: its buffer until it is closed, and the first failure. -/
structure JsonLines where
  buffer : Option Buffered
  error : Option SinkError
  deriving DecidableEq, Repr

namespace JsonLines

/-- The file before the first report. -/
def start : JsonLines := ⟨some .empty, none⟩

instance : Inhabited JsonLines := ⟨start⟩

/-- Keeps the first failure. -/
def remember (f : JsonLines) (e : SinkError) : JsonLines :=
  { f with error := f.error.orElse fun _ => some e }

/-- The pieces of a line up to the path of the file. -/
def piecesBeforePath (r : TestReport) : List (List Char) :=
  ['\x7b'] :: (Json.piecesOfMembers true [("name", .string r.name)] ++
    [','] :: Json.quotedPieces "file".toList ++ [[':']])

/-- The pieces of the line of a report, without its end. -/
def piecesOf (r : TestReport) : List String :=
  (if r.flaw?.isSome then piecesBeforePath r else r.encode.pieces).map String.ofList

/-- Adds the line of a report to a buffer. -/
def writeReport {ω : Type} (write : LineWriter ω) (b : Buffered) (r : TestReport) :
    StateM ω (Except SinkError Unit × Buffered) := do
  match ← Buffered.putAll write (piecesOf r) b, r.flaw? with
  | (.error e, b), _ => return (.error (.serialization e.message), b)
  | (.ok (), b), some flaw => return (.error (.serialization flaw), b)
  | (.ok (), b), none =>
    let (written, b) ← Buffered.put write b "\n"
    return (written.mapError .io, b)

/-- Receives a report; once the file is closed it is dropped. -/
def receive {ω : Type} (write : LineWriter ω) (f : JsonLines) (r : TestReport) :
    StateM ω JsonLines :=
  match f.buffer with
  | none => pure f
  | some b => do
    match ← writeReport write b r with
    | (.ok (), b) => return { f with buffer := some b }
    | (.error e, b) => return { f.remember e with buffer := some b }

/-- Closes the file.  If what is held back cannot be written, one more try is made while closing. -/
def finalize {ω : Type} (write : LineWriter ω) (f : JsonLines) :
    StateM ω (Except SinkError Unit × JsonLines) :=
  let closed (f : JsonLines) : Except SinkError Unit × JsonLines :=
    match f.error with
    | some e => (.error e, ⟨none, none⟩)
    | none => (.ok (), ⟨none, none⟩)
  match f.buffer with
  | none => pure (closed f)
  | some b => do
    match ← Buffered.flush write b with
    | (.ok (), _) => return closed f
    | (.error e, b) =>
      let _ ← Buffered.flush write b
      return (.error (.io e), { f with buffer := none })

end JsonLines

end Assay
