import Assay.Check.Fault
import Assay.Report.Basic
import Assay.Text.Quoted
import Assay.Url.Basic

/-
  Why a test reaches no verdict.

  Three collaborators can refuse their part: the loader of fixtures, the server of mocks and the
  client that sends requests.  Together with the faults of the test itself these are the causes for
  which a test is broken or errors.

  `Execution` is how one execution of a test ends, as the executor and a bridge see it: "broken" if
  the test could not be brought to the point where anything is checked, and "fatal" if the test
  itself makes no sense, because its request or an expectation is malformed.  A report does not tell
  the two apart (`Execution.outcome`).  A request that gets no response breaks the test if the way
  to the server is to blame (`SendError.isTransport`), and is a fatal error otherwise.
-/

namespace Assay

/-- Why fixtures are not loaded. -/
inductive FixtureError where
  | notFound (fixture : String)
  | load (fixture message : String)
  deriving DecidableEq, Repr

/-- The wording of a fixture error. -/
def FixtureError.message : FixtureError → String
  | notFound f => s!"fixture `{f}` not found"
  | load f m => s!"failed to load fixture `{f}`: {m}"

/-- Why mocks are not prepared. -/
inductive MockError where
  | unknownService (service : String)
  | invalidDefinition (service message : String)
  deriving DecidableEq, Repr

/-- The wording of a mock error. -/
def MockError.message : MockError → String
  | unknownService s => s!"unknown mocked service `{s}`"
  | invalidDefinition s m => s!"invalid mock definition for `{s}`: {m}"

/-- Why a request gets no response. -/
inductive SendError where
  | invalidUrl (message : String)
  | invalidBody (message : String)
  | timeout (millis : UInt64)
  | dns (host message : String)
  | refused (host : String) (port : UInt16)
  | connection (message : String)
  | redirects (max : UInt64)
  | other (message : String)
  deriving DecidableEq, Repr

namespace SendError

/-- The wording of such a failure. -/
def message : SendError → String
  | invalidUrl m => s!"invalid URL: {m}"
  | invalidBody m => s!"invalid request body: {m}"
  | timeout n => s!"request timed out after {n}ms"
  | dns host m => s!"DNS resolution failed for {host}: {m}"
  | refused host port => s!"connection refused by {host}:{port}"
  | connection m => s!"connection failed: {m}"
  | redirects max => s!"too many redirects (max {max})"
  | other m => m

/-- The failure lies in the way to the server, not in the request. -/
def isTransport : SendError → Bool
  | invalidUrl _ => false
  | invalidBody _ => false
  | _ => true

end SendError

/-- Why a request cannot be built. -/
inductive RequestFault where
  | url (text : String) (error : UrlError)
  | other (message : String)
  deriving DecidableEq, Repr

/-- The wording of such a fault. -/
def RequestFault.message : RequestFault → String
  | url text e => s!"invalid URL `{text}`: {e.message}"
  | other m => m

/-- Why a test reaches no verdict. -/
inductive RunFault where
  | markedBroken
  | noFixtureLoader (fixtures : List String)
  | fixtures (error : FixtureError)
  | noMockServer
  | mocks (error : MockError)
  | send (error : SendError)
  | request (fault : RequestFault)
  | check (error : CheckError)
  | notExecuted
  deriving Repr

/-- The wording of a fault. -/
def RunFault.message : RunFault → String
  | markedBroken => "test is marked as broken"
  | noFixtureLoader fs =>
    "test requires fixtures " ++ Text.quoteList fs ++ " but no fixture loader is configured"
  | fixtures e => e.message
  | noMockServer => "test declares mocks but no mock server is configured"
  | mocks e => e.message
  | send e => e.message
  | request f => s!"invalid request: {f.message}"
  | check e => e.message
  | notExecuted => "host bridge did not execute the test"

/-! ## How a single execution ends -/

/-- What is known of a test that was checked. -/
structure Exchange where
  request : RequestSummary
  response : Response
  diagnostics : List Diagnostic
  deriving Repr

/-- How the execution of a test ends. -/
inductive Execution where
  | passed (exchange : Exchange)
  | failed (exchange : Exchange)
  | skipped (reason : String)
  | broken (cause : RunFault)
  | fatal (error : RunFault)
  deriving Repr

namespace Execution

/-- The execution of a test that was checked: it passed if nothing was found. -/
def ofExchange (x : Exchange) : Execution := if x.diagnostics.isEmpty then passed x else failed x

/-- What is known of the test if it was checked. -/
def exchange? : Execution → Option Exchange
  | passed x => some x
  | failed x => some x
  | _ => none

/-- The outcome as it is reported.  A fatal error is reported like a broken test. -/
def outcome : Execution → Outcome
  | passed _ => .passed
  | failed x => .failed x.diagnostics
  | skipped reason => .skipped reason
  | broken cause => .broken cause.message
  | fatal error => .broken error.message

end Execution

end Assay
