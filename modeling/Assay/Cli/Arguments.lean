import Assay.Dict
import Assay.Harness.Config

/-
  The command line.

  The program has one command, `run`, with options that are given once, a flag, and run variables
  that may be given many times.  Host and tests may come from the environment instead.  An option
  takes its value behind an equals sign or as the next argument; a value of the second kind is
  looked at only when the next option, the help or the end is reached, so that an argument that is
  not understood is reported before it.

  Arguments are read from the left into a `Draft`.  `Draft.settle` looks at a value that has been
  waiting, `Draft.accept` takes an option with its value, and `Draft.readArguments` goes through all
  of them; `Draft.finish` adds what comes from the environment and says which options are missing.
  So the error that is reported is the first one in this order, and not the first one in the command
  line.

  Help and version are errors too (`UsageError`), with an exit code of their own.  `Arguments.apply`
  puts the flags on top of the settings that come from the environment alone.
-/

namespace Assay.Cli

/-! ## What can be wrong -/

/-- An option that has a value. -/
inductive Opt where
  | host | tests | reportDirectory | fileFilter | jsonLines | setVariable
  deriving DecidableEq, Repr

namespace Opt

/-- The options with their names. -/
def names : List (String × Opt) := [
  ("host", host), ("tests", tests), ("report-dir", reportDirectory), ("file-filter", fileFilter),
  ("jsonl", jsonLines), ("var", setVariable)]

/-- The option as help and messages show it. -/
def shown : Opt → String
  | host => "--host <HOST>"
  | tests => "--tests <TESTS>"
  | reportDirectory => "--report-dir <REPORT_DIR>"
  | fileFilter => "--file-filter <FILE_FILTER>"
  | jsonLines => "--jsonl <JSONL>"
  | setVariable => "--var <KEY=VALUE>"

end Opt

/-- Why a command line does not lead to a run. -/
inductive UsageError where
  | help
  | version
  | noCommand
  | unknownCommand (name : String)
  | unknownArgument (argument : String)
  | unexpectedValue (option value : String)
  | emptyValue (option : Opt)
  | badValue (option : Opt) (value reason : String)
  | repeated (option : String)
  | missing (options : List Opt)
  deriving DecidableEq, Repr

namespace UsageError

/-- The exit code of the program. -/
def exitCode : UsageError → UInt32
  | help => 0
  | version => 0
  | _ => 2

/-- The wording of this failure. -/
def message : UsageError → String
  | help => "help"
  | version => "version"
  | noCommand => "error: a command is required"
  | unknownCommand name => s!"error: unrecognized subcommand '{name}'"
  | unknownArgument a => s!"error: unexpected argument '{a}' found"
  | unexpectedValue option value => s!"error: unexpected value '{value}' for '{option}' found"
  | emptyValue o => s!"error: a value is required for '{o.shown}' but none was supplied"
  | badValue o value reason => s!"error: invalid value '{value}' for '{o.shown}': {reason}"
  | repeated option => s!"error: the argument '{option}' cannot be used multiple times"
  | missing os =>
    "error: the following required arguments were not provided: " ++
      ", ".intercalate (os.map Opt.shown)

end UsageError

/-! ## Arguments -/

/-- What a command line asks for. -/
structure Arguments where
  host : Url
  tests : String
  reportDirectory : Option String
  fileFilter : Option String
  jsonLines : Option String
  debug : Bool
  bindings : Dict String
  deriving DecidableEq, Repr

/-- The flags on top of the settings of the environment. -/
def Arguments.apply (a : Arguments) (cfg : Harness.Config) : Harness.Config :=
  { cfg with
    reportDirectory := a.reportDirectory.orElse fun _ => cfg.reportDirectory
    fileFilter := a.fileFilter.orElse fun _ => cfg.fileFilter
    debug := cfg.debug || a.debug }

/-- What has been read of a command line, and the option whose value is still to be looked at. -/
structure Draft where
  host : Option Url
  tests : Option String
  reportDirectory : Option String
  fileFilter : Option String
  jsonLines : Option String
  debug : Bool
  bindings : List (String × String)
  pending : Option (Opt × Option String)

namespace Draft

/-- Nothing has been read. -/
def empty : Draft := ⟨none, none, none, none, none, false, [], none⟩

/-! ## Values -/

/-- Reads a run variable: a name that is not blank, an equals sign, and the value. -/
def readVariable (raw : String) : Except UsageError (String × String) :=
  let s := raw.toList
  let key := Text.trim (String.ofList (s.takeWhile (· ≠ '=')))
  if s.contains '=' && !key.isEmpty then
    .ok (key, String.ofList ((s.dropWhile (· ≠ '=')).drop 1))
  else .error (.badValue .setVariable raw s!"expected KEY=VALUE, got `{raw}`")

/-- Reads a path, which must not be empty. -/
def readPath (o : Opt) (value : String) : Except UsageError String :=
  if value.isEmpty then .error (.emptyValue o) else .ok value

/-- Reads an address. -/
def readHost (value : String) : Except UsageError Url :=
  (Url.parse value).mapError fun e => .badValue .host value e.message

/-- The option has been given. -/
def has (d : Draft) : Opt → Bool
  | .host => d.host.isSome
  | .tests => d.tests.isSome
  | .reportDirectory => d.reportDirectory.isSome
  | .fileFilter => d.fileFilter.isSome
  | .jsonLines => d.jsonLines.isSome
  | .setVariable => false

/-- Takes the value of an option. -/
def accept (d : Draft) (o : Opt) (value : String) : Except UsageError Draft :=
  if d.has o then .error (.repeated o.shown)
  else
    match o with
    | .host => (readHost value).map fun u => { d with host := some u }
    | .tests => (readPath o value).map fun p => { d with tests := some p }
    | .reportDirectory => (readPath o value).map fun p => { d with reportDirectory := some p }
    | .fileFilter => .ok { d with fileFilter := some value }
    | .jsonLines => (readPath o value).map fun p => { d with jsonLines := some p }
    | .setVariable => (readVariable value).map fun v => { d with bindings := d.bindings ++ [v] }

/-- Takes the value that is still to be looked at. -/
def settle (d : Draft) : Except UsageError Draft :=
  match d.pending with
  | none => .ok d
  | some (o, none) => .error (.emptyValue o)
  | some (o, some value) => accept { d with pending := none } o value

/-! ## Options -/

/-- Cuts an argument with two dashes in front into its name and the value behind an equals sign. -/
def splitOption (argument : String) : String × Option String :=
  let s := argument.toList.drop 2
  let name := String.ofList (s.takeWhile (· ≠ '='))
  (name, if s.contains '=' then some (String.ofList ((s.dropWhile (· ≠ '=')).drop 1)) else none)

/-- Reads an argument with two dashes in front. -/
def readOption (d : Draft) (argument : String) : Except UsageError Draft :=
  let (name, value) := splitOption argument
  match Opt.names.lookup name, value with
  | some o, some v => do (← d.settle).accept o v
  | some o, none => do return { ← d.settle with pending := some (o, none) }
  | none, value =>
    if name = "debug" then
      match value with
      | some v => .error (.unexpectedValue "--debug" v)
      | none => do
        let d ← d.settle
        if d.debug then throw (.repeated "--debug")
        return { d with debug := true }
    else if name = "help" then
      match value with
      | some v => .error (.unexpectedValue "--help" v)
      | none => do
        let _ ← d.settle
        throw .help
    else .error (.unknownArgument argument)

/-- The argument has one dash in front and something behind it. -/
def isShort (argument : String) : Bool :=
  match argument.toList with
  | '-' :: c :: _ => c ≠ '-'
  | _ => false

/-- Reads one argument of the command. -/
def readArgument (d : Draft) (argument : String) : Except UsageError Draft :=
  if argument.startsWith "--" then d.readOption argument
  else if isShort argument then
    if argument.startsWith "-h" then do
      let _ ← d.settle
      throw .help
    else .error (.unknownArgument argument)
  else
    match d.pending with
    | some (o, none) => .ok { d with pending := some (o, some argument) }
    | _ => .error (.unknownArgument argument)

/-- Reads the arguments of the command.  Nothing may stand behind two dashes. -/
def readArguments : List String → Draft → Except UsageError Draft
  | [], d => d.settle
  | "--" :: [], d => d.settle
  | "--" :: a :: _, _ => .error (.unknownArgument a)
  | a :: rest, d => do readArguments rest (← d.readArgument a)

/-! ## The environment and what is required -/

/-- Options that the environment may give, with the variables that hold them. -/
def environmentVariables : List (Opt × String) :=
  [(.host, "GAUNTLET_HOST"), (.tests, "GAUNTLET_TESTS")]

/-- Takes from the environment what the command line does not give. -/
def fromEnvironment (lookup : String → Option String) (d : Draft) : Except UsageError Draft :=
  environmentVariables.foldlM (fun d v =>
    match lookup v.2 with
    | some value => if d.has v.1 then .ok d else d.accept v.1 value
    | none => .ok d) d

/-- The arguments, if nothing that is required is missing. -/
def finish (d : Draft) : Except UsageError Arguments :=
  match d.host, d.tests with
  | some host, some tests =>
    .ok ⟨host, tests, d.reportDirectory, d.fileFilter, d.jsonLines, d.debug, .ofList d.bindings⟩
  | host, tests =>
    .error
      (.missing ((if host.isNone then [.host] else []) ++ if tests.isNone then [.tests] else []))

end Draft

/-! ## The command -/

/-- Reads what stands behind the command `help`: at most the name of one command. -/
def readHelp : List String → UsageError
  | [] => .help
  | [name] => if name = "run" || name = "help" then .help else .unknownCommand name
  | name :: next :: _ => .unknownCommand (if name = "run" || name = "help" then next else name)

/-- Reads the arguments of the program, its own name not included. -/
def read (lookup : String → Option String) : List String → Except UsageError Arguments
  | [] => .error .noCommand
  | "run" :: rest => do
    let d ← Draft.readArguments rest .empty
    (← d.fromEnvironment lookup).finish
  | "help" :: rest => .error (readHelp rest)
  | "--" :: [] => .error .noCommand
  | "--" :: a :: _ =>
    .error (if a = "run" || a = "help" then .unknownArgument a else .unknownCommand a)
  | a :: _ =>
    if a.startsWith "--" then
      match Draft.splitOption a with
      | ("help", none) => .error .help
      | ("version", none) => .error .version
      | ("help", some v) => .error (.unexpectedValue "--help" v)
      | ("version", some v) => .error (.unexpectedValue "--version" v)
      | _ => .error (.unknownArgument a)
    else if Draft.isShort a then
      if a.startsWith "-h" then .error .help
      else if a.startsWith "-V" then .error .version
      else .error (.unknownArgument a)
    else .error (.unknownCommand a)

end Assay.Cli
