import Assay.Cli.Arguments
import Assay.Harness.Basic

/-
  The program.

  The program reads its arguments and the settings of the environment, opens the file of JSON lines
  if one is wanted, and carries out a run without fixtures, mocks and database.  Its exit code tells
  how the run ended: 0 for a success, 1 if tests failed, 2 if the run could not be carried out.

  `program` is a function from everything that a run depends on (`Start`) to everything that it
  leaves behind (`Exit`): the tree of files goes in and comes out changed, and time, chance and the
  servers are parameters.  What is left for `Assay.Main` is to obtain these and to carry the changes
  out.

  The settings are looked at before the file of JSON lines is opened, and this file is opened before
  the run is assembled, so a run that cannot be assembled may already have emptied it.  How the exit
  code follows from the outcomes of the tests is shown for whole runs in `Assay.Proofs.Verdict`.
-/

namespace Assay.Cli

/-- What a program starts from: its arguments, the environment, the tree of files, the surroundings
of the run, the identifiers of results, and the way to the servers. -/
structure Start where
  arguments : List String
  environment : String → Option String
  tree : Files.Tree
  around : Harness.Surroundings
  freshResults : Nat → Nat → Uuid
  transport : Harness.Client.Transport Unit

/-- How a program ends: its exit code, what it has written to its output, and the tree of files. -/
structure Exit where
  code : UInt32
  output : String
  tree : Files.Tree

/-- The name of the program and its version. -/
def versionText : String := "gauntlet 0.1.0\n"

/-- How the program is used. -/
def helpText : String :=
  "Declarative HTTP API test runner\n\n" ++
  "Usage: gauntlet run [OPTIONS] --host <HOST> --tests <TESTS>\n\n" ++
  "Options:\n" ++
  "      --host <HOST>                Base URL of the service under test [env: GAUNTLET_HOST]\n" ++
  "      --tests <TESTS>              YAML test file or directory [env: GAUNTLET_TESTS]\n" ++
  "      --report-dir <REPORT_DIR>    Write an Allure report into this directory\n" ++
  "      --file-filter <FILE_FILTER>  Only load test files whose path contains this string\n" ++
  "      --jsonl <JSONL>              Also write one JSON line per test case to this file\n" ++
  "      --debug                      Log full requests and responses\n" ++
  "      --var <KEY=VALUE>            Run-level variable, repeatable\n" ++
  "  -h, --help                       Print help\n"

/-- The exit code of a program that could not carry out its run. -/
def brokenCode : UInt32 := 2

/-- The exit code of a run. -/
def codeOf : Except RunError RunSummary → UInt32
  | .ok _ => 0
  | .error (.assertionsFailed ..) => 1
  | .error _ => brokenCode

/-- What is printed when there is no run. -/
def usageOutput : UsageError → String
  | .help => helpText
  | .version => versionText
  | _ => ""

/-- Opens the file of JSON lines, if one is wanted. -/
def openLines (a : Arguments) (d : Desk) : Except SinkError (List (Sink Desk) × Desk) :=
  match a.jsonLines with
  | none => .ok ([], d)
  | some path => (d.openLines path).map fun r => ([r.1], r.2)

/-- The parameters of a run without optional collaborators. -/
def paramsOf (a : Arguments) (transport : Harness.Client.Transport Unit) : Harness.Params Unit :=
  ⟨a.host, a.tests, [], none, none, none, a.bindings, transport⟩

/-- What the consoles of a desk show. -/
def shownOn (d : Desk) : String := String.join (d.screens.map Screen.text)

/-- Carries out the run that the arguments ask for. -/
def carryOut (s : Start) (a : Arguments) : Exit :=
  match Harness.Config.ofLookup s.environment with
  | .error _ => ⟨brokenCode, "", s.tree⟩
  | .ok cfg =>
    match openLines a (.ofTree s.tree s.freshResults (s.around.timing.test 0).1) with
    | .error _ => ⟨brokenCode, "", s.tree⟩
    | .ok (sinks, d) =>
      match Harness.run (paramsOf a s.transport) (a.apply cfg) s.around sinks d () with
      | .error _ => ⟨brokenCode, "", d.tree⟩
      | .ok f => ⟨codeOf f.result, shownOn f.outputs.world, f.outputs.world.tree⟩

/-- The whole program. -/
def program (s : Start) : Exit :=
  match read s.environment s.arguments with
  | .error e => ⟨e.exitCode, usageOutput e, s.tree⟩
  | .ok a => carryOut s a

end Assay.Cli
