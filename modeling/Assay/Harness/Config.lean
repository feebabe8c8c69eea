import Assay.Text.Blank
import Assay.Url.Basic

/-
  Settings from the environment.

  Four variables of the environment bear on a run.  One whose value is blank counts as not set.

  The proxy is the only setting that can be malformed.  The flag for debugging counts as set
  whatever its value is, as long as it is not blank; flags of the command line come on top
  (`Arguments.apply`).
-/

namespace Assay.Harness

/-- The settings that come from the environment. -/
structure Config where
  proxy : Option Url
  debug : Bool
  fileFilter : Option String
  reportDirectory : Option String
  deriving DecidableEq, Repr

/-- A value that cannot be used as a setting. -/
inductive ConfigError where
  | proxy (value : String) (error : UrlError)
  deriving DecidableEq, Repr

/-- The wording of this refusal. -/
def ConfigError.message : ConfigError → String
  | proxy value e => s!"invalid proxy URL `{value}`: {e.message}"

namespace Config

/-- The settings of an environment without variables. -/
def none : Config := ⟨.none, false, .none, .none⟩

instance : Inhabited Config := ⟨none⟩

/-- The names of the variables. -/
def proxyVariable : String := "HTTP_PROXY"
@[inherit_doc proxyVariable] def debugVariable : String := "GAUNTLET_DEBUG"
@[inherit_doc proxyVariable] def filterVariable : String := "GAUNTLET_FILE_FILTER"
@[inherit_doc proxyVariable] def reportVariable : String := "GAUNTLET_REPORT_DIR"

/-- The value of a variable, unless it is blank. -/
def value? (lookup : String → Option String) (name : String) : Option String :=
  (lookup name).filter fun v => !Text.blank v

/-- An address that may be missing. -/
def readProxy : Option String → Except ConfigError (Option Url)
  | .none => .ok .none
  | some v =>
    match Url.parse v with
    | .ok u => .ok (some u)
    | .error e => .error (.proxy v e)

/-- Reads the settings from an environment. -/
def ofLookup (lookup : String → Option String) : Except ConfigError Config := do
  let proxy ← readProxy (value? lookup proxyVariable)
  return ⟨proxy, (value? lookup debugVariable).isSome, value? lookup filterVariable,
    value? lookup reportVariable⟩

end Config

end Assay.Harness
