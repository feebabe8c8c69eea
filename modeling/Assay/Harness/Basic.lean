import Assay.Harness.Client
import Assay.Harness.Config
import Assay.Load.Files
import Assay.Output.Desk
import Assay.Run.Ledger
import Assay.Run.Runner

/-
  Assembling a whole run.

  A run is assembled from its parameters and from the settings of the environment: the built-in
  checkers come first and those of the caller behind them, the sinks of the caller come before the
  directory of results, and a console takes the place of sinks if there are none.  The tests are
  those of a location in the tree of files, and the host is the built-in one.

  Three things can keep a run from being assembled (`HarnessError`): a setting, the address of the
  proxy, and the directory of results.  They are looked at in this order, and before any test is
  loaded.  Files that cannot be loaded do not count among them: loading is part of the run, which
  then ends with an error, but with its outputs finalized (`Runner.run`).

  The state `σ` of the collaborators is a parameter throughout; the built-in parts of a run keep
  their own state in other places, the sinks on a `Desk` and the host in its `Ledger`.
-/

namespace Assay.Harness

/-- The parameters of a run. -/
structure Params (σ : Type) where
  host : Url
  tests : String
  checkers : List (Checker σ)
  fixtures : Option (List String → StateM σ (Except FixtureError Unit))
  mocks : Option (MockServer σ)
  database : Option (Check.Database.Source σ)
  bindings : Dict String
  transport : Client.Transport σ

/-- What a run takes from its surroundings: the clock readings, the values of built-in variables,
and the identifiers of tests that have none. -/
structure Surroundings where
  timing : Timing
  generated : Nat → BuiltIn → String
  fresh : Nat → Uuid

/-- Why a run cannot be assembled. -/
inductive HarnessError where
  | config (error : ConfigError)
  | client (error : SendError)
  | reportDirectory (path : String) (error : SinkError)
  deriving DecidableEq, Repr

/-- The wording of this failure. -/
def HarnessError.message : HarnessError → String
  | config e => e.message
  | client e => s!"failed to build HTTP client: {e.message}"
  | reportDirectory p e => s!"failed to prepare report directory {p}: {e.message}"

/-- The name of the report in a directory of results. -/
def suiteName : String := "gauntlet"

/-! ## Checkers and sinks -/

/-- The checkers of a run. -/
def checkersOf {σ : Type} (p : Params σ) : List (Checker σ) :=
  [.body, .headers, .assertions] ++ (p.database.map Checker.database).toList ++ p.checkers

/-- The collaborators of a run. -/
def servicesOf {σ : Type} (p : Params σ) : Services σ :=
  ⟨p.fixtures, p.mocks, Client.send p.transport, checkersOf p⟩

/-- Opens the directory of results, if one is wanted. -/
def openReport (cfg : Config) (d : Desk) : Except HarnessError (List (Sink Desk) × Desk) :=
  match cfg.reportDirectory with
  | none => .ok ([], d)
  | some path =>
    match d.openResults path suiteName with
    | .ok (s, d) => .ok ([s], d)
    | .error e => .error (.reportDirectory path e)

/-- The sinks of a run: those of the caller, or else a console, and the directory of results. -/
def openSinks (cfg : Config) (given : List (Sink Desk)) (d : Desk) :
    Except HarnessError (List (Sink Desk) × Desk) := do
  let (report, d) ← openReport cfg d
  if given.isEmpty then
    let (console, d) := d.openConsole none
    return (console :: report, d)
  else return (given ++ report, d)

/-! ## The run -/

/-- Assembles a run and carries it out. -/
def run {σ : Type} (p : Params σ) (cfg : Config) (around : Surroundings) (given : List (Sink Desk))
    (d : Desk) (world : σ) : Except HarnessError (Finished σ Ledger Desk) := do
  (Client.checkProxy cfg.proxy).mapError .client
  let (sinks, d) ← openSinks cfg given d
  let loaded := Load.load around.fresh d.tree p.tests cfg.fileFilter
  let settings : Settings := ⟨p.host, p.bindings, cfg.debug, around.generated⟩
  return Runner.run settings (servicesOf p) Ledger.bridge around.timing loaded
    (.initial world) .empty
    (Outputs.ofSinks sinks d)

end Assay.Harness
