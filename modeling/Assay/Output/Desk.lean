import Assay.Output.Allure
import Assay.Output.Console
import Assay.Output.JsonLines

/-
  A desk of outputs.

  The built-in sinks write to a console, to a file of JSON lines and to a directory of results.  A
  desk holds what they write: the tree of files, the texts of the consoles, and the state of every
  sink that has been opened.  It also has a journal in which other sinks can note what they receive.

  Each kind of sink is described by what it keeps and by one step of it on its own part of the desk;
  the sinks themselves apply this step at the place that they were given when they were opened.

  Two sinks may write to the same place of the tree, and each of them sees what the other one has
  written.  This is why a file of JSON lines writes by the number of its file and at its own
  position (`LineFile.write`), as a program does that holds the file open, while a directory of
  results writes whole files by their paths (`ResultDirectory.write`).

  Opening can fail, and then the desk is left as it was.  A console can be opened broken, so that
  every line fails.  The sinks of a run are made by `openConsole`, `openLines` and `openResults`;
  `Assay.Harness` decides which of them there are.
-/

namespace Assay

/-! ## Consoles -/

/-- A console of a desk: its state, its text, and why nothing can be written to it, if that is
so. -/
structure Screen where
  console : Console
  text : String
  broken : Option IoError
  deriving Repr, Inhabited

namespace Screen

/-- A console to which nothing has been written. -/
def blank : Screen := ⟨.start, "", none⟩

/-- Takes a line at once, so there is never anything to hand on. -/
def terminal : Terminal Screen
  | .line text => fun s =>
    match s.broken with
    | some e => (.error e, s)
    | none => (.ok (), { s with text := s.text ++ text })
  | .flush => pure (.ok ())

/-- Receives a report. -/
def receive (r : TestReport) (s : Screen) : Except Panic Unit × Screen :=
  let ((result, c), s) := Console.receive terminal s.console r s
  (result, { s with console := c })

/-- Ends the console. -/
def finalize (s : Screen) : Except SinkError Unit × Screen :=
  let ((result, c), s) := Console.finalize terminal s.console s
  (result, { s with console := c })

end Screen

/-! ## Files of JSON lines -/

/-- A file of JSON lines of a desk: its path, its state, its number in the tree of files, and how
much has been written to it. -/
structure LineFile where
  path : String
  lines : JsonLines
  number : Nat
  position : Nat
  deriving Repr, Inhabited

namespace LineFile

/-- Writes to the end of what has been written to the file of a number. -/
def write (number : Nat) : LineWriter (Files.Tree × Nat) := fun text (tree, position) =>
  let bytes := text.toUTF8.toList
  (.ok (), tree.writeAt number position bytes, position + bytes.length)

/-- Receives a report. -/
def receive (r : TestReport) (f : LineFile) (tree : Files.Tree) : LineFile × Files.Tree :=
  let (lines, tree, position) := JsonLines.receive (write f.number) f.lines r (tree, f.position)
  ({ f with lines := lines, position := position }, tree)

/-- Closes the file. -/
def finalize (f : LineFile) (tree : Files.Tree) : Except SinkError Unit × LineFile × Files.Tree :=
  let ((result, lines), tree, position) :=
    JsonLines.finalize (write f.number) f.lines (tree, f.position)
  (result, { f with lines := lines, position := position }, tree)

end LineFile

/-! ## Directories of results -/

/-- A directory of results of a desk: its path and its state. -/
structure ResultDirectory where
  path : String
  allure : Allure
  deriving Repr, Inhabited

namespace ResultDirectory

/-- Writes a whole file of a directory. -/
def write (path : String) : FileWriter Files.Tree := fun name text tree =>
  match tree.write (Files.join path name) text.toUTF8.toList with
  | .ok tree => (.ok (), tree)
  | .error e => (.error e, tree)

/-- Receives a report. -/
def receive (fresh : Nat → Uuid) (r : TestReport) (d : ResultDirectory) (tree : Files.Tree) :
    Except Panic Unit × ResultDirectory × Files.Tree :=
  let ((result, a), tree) := Allure.receive (write d.path) fresh d.allure r tree
  (result, { d with allure := a }, tree)

/-- Closes the directory. -/
def finalize (fresh : Nat → Uuid) (now : Instant) (d : ResultDirectory) (tree : Files.Tree) :
    Except SinkError Unit × ResultDirectory × Files.Tree :=
  let ((result, a), tree) := Allure.finalize (write d.path) fresh now d.allure tree
  (result, { d with allure := a }, tree)

end ResultDirectory

/-! ## The desk -/

/-- A desk: the tree of files, what has been opened, the journal, the identifiers of the directories
of results, and the time that a directory without results is given. -/
structure Desk where
  tree : Files.Tree
  screens : List Screen
  lineFiles : List LineFile
  directories : List ResultDirectory
  journal : List String
  fresh : Nat → Nat → Uuid
  now : Instant

namespace Desk

/-- A desk over a tree of files on which nothing has been opened. -/
def ofTree (tree : Files.Tree) (fresh : Nat → Nat → Uuid) (now : Instant) : Desk :=
  ⟨tree, [], [], [], [], fresh, now⟩

/-- Notes something in the journal. -/
def note (d : Desk) (entry : String) : Desk := { d with journal := d.journal ++ [entry] }

/-! ## The sinks of a desk -/

/-- The sink of a console. -/
def consoleSink (i : Nat) : Sink Desk where
  name := "console"
  receive r := fun d =>
    let (result, s) := ((d.screens[i]?).getD default).receive r
    (result, { d with screens := d.screens.set i s })
  finalize := fun d =>
    let (result, s) := ((d.screens[i]?).getD default).finalize
    (.ok result, { d with screens := d.screens.set i s })

/-- The sink of a file of JSON lines. -/
def lineSink (i : Nat) : Sink Desk where
  name := "jsonl"
  receive r := fun d =>
    let (f, tree) := ((d.lineFiles[i]?).getD default).receive r d.tree
    (.ok (), { d with lineFiles := d.lineFiles.set i f, tree := tree })
  finalize := fun d =>
    let (result, f, tree) := ((d.lineFiles[i]?).getD default).finalize d.tree
    (.ok result, { d with lineFiles := d.lineFiles.set i f, tree := tree })

/-- The sink of a directory of results. -/
def resultSink (i : Nat) : Sink Desk where
  name := "allure"
  receive r := fun d =>
    let (result, a, tree) := ((d.directories[i]?).getD default).receive (d.fresh i) r d.tree
    (result, { d with directories := d.directories.set i a, tree := tree })
  finalize := fun d =>
    let (result, a, tree) := ((d.directories[i]?).getD default).finalize (d.fresh i) d.now d.tree
    (.ok result, { d with directories := d.directories.set i a, tree := tree })

/-! ## Opening sinks -/

/-- Opens a console. -/
def openConsole (d : Desk) (broken : Option IoError) : Sink Desk × Desk :=
  (consoleSink d.screens.length,
    { d with screens := d.screens ++ [{ Screen.blank with broken := broken }] })

/-- Opens a file of JSON lines; one that is there is emptied. -/
def openLines (d : Desk) (path : String) : Except SinkError (Sink Desk × Desk) := do
  let (number, tree) ← (d.tree.create path).mapError .io
  return (lineSink d.lineFiles.length,
    { d with lineFiles := d.lineFiles ++ [⟨path, .start, number, 0⟩], tree := tree })

/-- Opens a directory of results; it is created if it is not there. -/
def openResults (d : Desk) (path suite : String) : Except SinkError (Sink Desk × Desk) := do
  let tree ← (d.tree.makeDirectories path).mapError .io
  return (resultSink d.directories.length,
    { d with directories := d.directories ++ [⟨path, .start suite⟩], tree := tree })

end Desk

end Assay
