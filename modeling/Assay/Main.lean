import Assay.Cli.Program
import Assay.Files.Changes
import Std.Time.DateTime.Timestamp

/-
  The outer layer of the program.

  It reads the files that the arguments mention, the environment, the clock and a seed, hands them
  to `Cli.program`, and then prints the output and writes the files that have changed.  Paths are
  relative to the working directory.

  Nothing here decides anything about a run.  Only the part of the file system that a run can see is
  read (`readFiles`): what is below the tests, and the directories above what will be written, so
  that it shows whether they are there.  The changes are those of `Files.changes`.

  Values that are drawn at random come from one seed: `numberAt` gives the numbers of a sequence,
  and `drawAt` those of one test.  The program has no way to a server of its own (`unconnected`), so
  every request ends as one that found no connection.
-/

namespace Assay.Main

/-! ## Reading files -/

/-- Adds what is below a path to a tree, links followed; `around` are the directories that lead
here. -/
partial def readBelow (around : List String) (tree : Files.Tree) (path : String) :
    IO Files.Tree := do
  match ← (IO.FS.realPath path).toBaseIO with
  | .error _ => return tree
  | .ok real =>
    if ← real.isDir then
      if around.contains real.toString then return tree
      let tree := (tree.makeDirectories path).toOption.getD tree
      (← real.readDir).foldlM (fun tree entry =>
        readBelow (real.toString :: around) tree (Files.join path entry.fileName)) tree
    else
      let bytes ← IO.FS.readBinFile path
      return (tree.write path bytes.toList).toOption.getD tree

/-- Adds the directories that lead to a path to a tree, and what is in their way. -/
def readAbove (tree : Files.Tree) (path : String) : IO Files.Tree :=
  (Files.Tree.fronts (Files.names path)).foldlM (fun tree names => do
    let here := "/".intercalate names
    match ← (IO.FS.realPath here).toBaseIO with
    | .error _ => return tree
    | .ok real =>
      if ← real.isDir then return (tree.makeDirectories here).toOption.getD tree
      else return (tree.write here []).toOption.getD tree) tree

/-- The part of the file system that a run can see. -/
def readFiles (a : Cli.Arguments) (cfg : Harness.Config) : IO Files.Tree := do
  let written := (a.apply cfg).reportDirectory.toList ++ a.jsonLines.toList
  let tree ← written.foldlM readAbove Files.Tree.empty
  readBelow [] tree a.tests

/-- Carries out a change. -/
def carryOut : Files.Change → IO Unit
  | .directory path => IO.FS.createDirAll path
  | .file path content => IO.FS.writeBinFile path ⟨content.toArray⟩

/-! ## Surroundings -/

/-- The current time. -/
def currentInstant : IO Instant := do
  let nanos := (← Std.Time.Timestamp.now).toNanosecondsSinceUnixEpoch.val
  return ⟨nanos / 1000000000, (nanos % 1000000000).toNat⟩

/-- A number drawn at random. -/
def currentSeed : IO Nat := do
  let bytes ← IO.getRandomBytes 32
  return bytes.toList.foldl (fun n b => n * 256 + b.toNat) 0

/-- The number with the given place in a sequence that depends on a seed. -/
def numberAt (seed place : Nat) : Nat :=
  let wrap := 1 <<< 256
  let mixed := (seed + place * 0x9E3779B97F4A7C15F39CC0605CEDC835) * 0xD1342543DE82EF95 % wrap
  (mixed ^^^ (mixed >>> 97)) * 0x2545F4914F6CDD1D % wrap

/-- What the values of one test are made from. -/
def drawAt (seed : Nat) (now : Instant) (place : Nat) : BuiltIn.Draw :=
  ⟨now, numberAt seed (4 * place), numberAt seed (4 * place + 1), numberAt seed (4 * place + 2)⟩

/-- The surroundings of a run that starts now. -/
def surroundingsAt (seed : Nat) (now : Instant) : Harness.Surroundings where
  timing := ⟨fun _ => (now, ⟨0⟩), ⟨0⟩⟩
  generated place b := b.generate (drawAt seed now place)
  fresh place := Uuid.random (numberAt seed (4 * place + 3))

/-- There is no way to a server. -/
def unconnected : Harness.Client.Transport Unit := fun r =>
  pure (.error (.connection s!"no connection to {r.url.text}"))

/-! ## The program -/

/-- Runs the program and gives its exit code. -/
def run (arguments : List String) : IO UInt32 := do
  let names := [Harness.Config.proxyVariable, Harness.Config.debugVariable,
    Harness.Config.filterVariable, Harness.Config.reportVariable] ++
    Cli.Draft.environmentVariables.map Prod.snd
  let values ← names.mapM fun n => do return (n, ← IO.getEnv n)
  let environment : String → Option String := fun n => (values.lookup n).join
  let read := Cli.read environment arguments
  let tree ← match read, Harness.Config.ofLookup environment with
    | .ok a, .ok cfg => readFiles a cfg
    | _, _ => pure Files.Tree.empty
  if let .error e := read then
    if e.exitCode ≠ 0 then IO.eprintln e.message
  let seed ← currentSeed
  let exit := Cli.program ⟨arguments, environment, tree, surroundingsAt seed (← currentInstant),
    fun sink place => Uuid.random (numberAt (seed + 1 + sink) place), unconnected⟩
  (Files.changes tree exit.tree).forM carryOut
  IO.print exit.output
  return exit.code

end Assay.Main

/-- Runs the program. -/
def main (arguments : List String) : IO UInt32 := Assay.Main.run arguments
