import Assay.Check.Suite
import Assay.Run.Fault
import Assay.Template.Scopes

/-
  Executing a single test.

  A test goes through stages: the gate of its declared status, fixtures, variables, mocks, the
  request, the response, the checks, the verification of the mocks, and the capture of variables.  A
  stage that fails ends the test.  Collaborators do the work of some stages; they answer as they
  like and may change a state of their own.  The executor keeps what earlier tests captured, and a
  log of every call it made.

  The stages are functions in the order in which they are used: `gate`, `loadFixtures`, `resolve`,
  `prepareMocks`, `prepareRequest`, and after the response `verifyMocks` and `capture`. `assess`
  puts the checks together, and `exchange`, `perform` and `execute` put the stages together.  Every
  call to a collaborator goes through `call`, which notes it, so the log is complete.  When a stage
  ends a test, what earlier stages have done is not taken back.

  A test that is declared as broken is told apart before focus is looked at (see
  `Assay.Proofs.Focus`).  Captured variables are written only if no checker and no mock has found
  anything; then each variable that is found is kept, even if another one is missing (`captureAll`,
  and `Assay.Proofs.Captures`).

  All courses that an execution can take, with what has been called by then, are listed in
  `Assay.Proofs.Executor`.  What makes two executions the same is the matter of
  `Assay.Proofs.Asking` and `Assay.Proofs.Commuting`.
-/

namespace Assay

/-! ## Collaborators -/

/-- A request that is ready to be sent: headers are in the order in which they are sent. -/
structure PreparedRequest where
  method : Method
  url : Url
  headers : List (String × String)
  body : Option String
  deriving DecidableEq, Repr

/-- What reports tell about the request. -/
def PreparedRequest.summary (r : PreparedRequest) : RequestSummary := ⟨r.method, r.url.text⟩

/-- A server of mocks. -/
structure MockServer (σ : Type) where
  prepare : Dict Json → StateM σ (Except MockError Unit)
  verify : StateM σ (List Diagnostic)

/-- The collaborators of a run. -/
structure Services (σ : Type) where
  fixtures : Option (List String → StateM σ (Except FixtureError Unit))
  mocks : Option (MockServer σ)
  send : PreparedRequest → StateM σ (Except SendError Response)
  checkers : List (Checker σ)

/-- A call to a collaborator. -/
inductive Call where
  | fixtures (names : List String)
  | prepare (definitions : Dict Json)
  | send (request : PreparedRequest)
  | check (checker : String) (test : TestCase) (response : Response)
  | verify
  deriving Repr

/-- The settings of a run. -/
structure Settings where
  host : Url
  bindings : Dict String
  debug : Bool
  /-- The values of the built-in variables: each test that fills in its templates gets the next
  set. -/
  generated : Nat → BuiltIn → String

/-- The state of an executor. -/
structure ExecutorState (σ : Type) where
  captured : Dict String
  /-- How many sets of generated values have been used. -/
  drawn : Nat
  calls : List Call
  world : σ

/-- The state before the first test. -/
def ExecutorState.initial {σ : Type} (world : σ) : ExecutorState σ := ⟨.empty, 0, [], world⟩

namespace Executor

variable {σ : Type}

/-- Calls a collaborator and notes the call. -/
def call {α : Type} (c : Call) (act : StateM σ α) : StateM (ExecutorState σ) α := fun s =>
  let (a, world) := act s.world
  (a, { s with calls := s.calls ++ [c], world := world })

/-! ## Before the request -/

/-- The end of a test that is not to be executed. -/
def gate (focusMode : Bool) (t : TestCase) : Option Execution :=
  match t.status with
  | .skipped => some (.skipped "test is marked as skipped")
  | .broken => some (.broken .markedBroken)
  | .none => if focusMode then some (.skipped "not focused") else none
  | .focus => none

/-- Loads the fixtures of a test, if it names any. -/
def loadFixtures (sv : Services σ) (t : TestCase) :
    StateM (ExecutorState σ) (Except RunFault Unit) :=
  if t.fixtures.isEmpty then pure (.ok ())
  else
    match sv.fixtures with
    | none => pure (.error (.noFixtureLoader t.fixtures))
    | some load => do
      let r ← call (.fixtures t.fixtures) (load t.fixtures)
      return r.mapError .fixtures

/-- Fills in the templates of a test. -/
def resolve (cfg : Settings) (t : TestCase) : StateM (ExecutorState σ) TestCase := fun s =>
  let scopes : Scopes := ⟨t.bindings, s.captured, cfg.bindings, cfg.generated s.drawn⟩
  ((scopes.resolveCase t).1, { s with drawn := s.drawn + 1 })

/-- Prepares the mocks of a test, if it declares any. -/
def prepareMocks (sv : Services σ) (t : TestCase) :
    StateM (ExecutorState σ) (Except RunFault Unit) :=
  if t.mocks.isEmpty then pure (.ok ())
  else
    match sv.mocks with
    | none => pure (.error .noMockServer)
    | some server => do
      let r ← call (.prepare t.mocks) (server.prepare t.mocks)
      return r.mapError .mocks

/-! ## The request -/

/-- Drops the slashes at the end. -/
def dropSlashes (s : List Char) : List Char := (s.reverse.dropWhile (· = '/')).reverse

/-- The address that a path stands for: an absolute one stands for itself, any other is put behind
the host. -/
def urlText (host : Url) (path : String) : String :=
  if Text.startsWith path "http://" || Text.startsWith path "https://" then path
  else
    let base := dropSlashes host.chars
    let s := path.toList
    String.ofList (if s.isEmpty || s.head? = some '/' || s.head? = some '?' then base ++ s
      else base ++ '/' :: s)

/-- The address of a request without its parameters. -/
def buildUrl (host : Url) (path : String) : Except RunFault Url :=
  let text := urlText host path
  (Url.parse text).mapError fun e => .request (.url text e)

/-- The headers of a request, in the order of their names.  A JSON body is declared as such unless
the request states a content type. -/
def headersOf (r : Request) : List (String × String) :=
  let declares := match r.body with
    | some body => !r.hasContentType && (Json.parse body).toOption.isSome
    | none => false
  r.headers.entries ++ (if declares then [("Content-Type", "application/json")] else [])

/-- The request of a test whose templates are filled in. -/
def prepareRequest (cfg : Settings) (t : TestCase) : Except RunFault PreparedRequest := do
  let url ← buildUrl cfg.host t.request.path
  return ⟨t.request.method, url.withFields t.request.query.entries, headersOf t.request,
    t.request.body⟩

/-- The end of a test whose request got no response. -/
def sendFailure (e : SendError) : Execution :=
  if e.isTransport then .broken (.send e) else .fatal (.send e)

/-! ## After the response -/

/-- The same checker, with its calls noted. -/
def logged (c : Checker σ) : Checker (ExecutorState σ) :=
  ⟨c.name, fun t r => call (.check c.name t r) (c.check t r)⟩

/-- Verifies the mocks of a test, if it declares any. -/
def verifyMocks (sv : Services σ) (t : TestCase) : StateM (ExecutorState σ) (List Diagnostic) :=
  match sv.mocks with
  | some server => if t.mocks.isEmpty then pure [] else call .verify server.verify
  | none => pure []

/-- The name under which captures are reported. -/
def captureName : String := "capture"

/-- What capturing one variable gives: its value, or a diagnostic. -/
def captureOne (document : Json) (var path : String) : Except Diagnostic String :=
  match document.query path with
  | .ok (some v) => .ok v.plainText
  | .ok none => .error (.anchored captureName path s!"path not found, cannot capture `{var}`")
  | .error e => .error (.anchored captureName path e.message)

/-- Captures variables from a document, in the order of their names.  What is found is kept even if
something else is missing. -/
def captureAll (document : Json) :
    List (String × String) → Dict String → List Diagnostic × Dict String
  | [], captured => ([], captured)
  | (var, path) :: rest, captured =>
    match captureOne document var path with
    | .ok value => captureAll document rest (captured.insert var value)
    | .error d =>
      let (ds, captured) := captureAll document rest captured
      (d :: ds, captured)

/-- Captures the variables of a test from a response. -/
def capture (t : TestCase) (r : Response) : StateM (ExecutorState σ) (List Diagnostic) := fun s =>
  if t.capture.isEmpty then ([], s)
  else
    match r.json? with
    | none =>
      (t.capture.keys.map fun var =>
        .plain captureName s!"cannot capture `{var}`: response body is not JSON", s)
    | some document =>
      let (ds, captured) := captureAll document t.capture.entries s.captured
      (ds, { s with captured := captured })

/-- Checks a response: what the checkers find and then what the mocks report, or else what cannot be
captured. -/
def assess (sv : Services σ) (t : TestCase) (r : Response) :
    StateM (ExecutorState σ) (Except CheckError (List Diagnostic)) := do
  match ← Checker.checkAll t r (sv.checkers.map logged) with
  | .error e => return .error e
  | .ok found =>
    let reported ← verifyMocks sv t
    if (found ++ reported).isEmpty then
      let missing ← capture t r
      return .ok missing
    else return .ok (found ++ reported)

/-! ## All stages -/

/-- Sends the request of a test whose templates are filled in, and checks the response. -/
def exchange (sv : Services σ) (t : TestCase) (request : PreparedRequest) :
    StateM (ExecutorState σ) Execution := do
  match ← call (.send request) (sv.send request) with
  | .error e => return sendFailure e
  | .ok response =>
    match ← assess sv t response with
    | .error e => return .fatal (.check e)
    | .ok ds => return .ofExchange ⟨request.summary, response, ds⟩

/-- Executes a test that has passed the gate and whose fixtures are loaded. -/
def perform (cfg : Settings) (sv : Services σ) (t : TestCase) :
    StateM (ExecutorState σ) Execution := do
  let resolved ← resolve cfg t
  match ← prepareMocks sv resolved with
  | .error cause => return .broken cause
  | .ok () =>
    match prepareRequest cfg resolved with
    | .error e => return .fatal e
    | .ok request => exchange sv resolved request

/-- Executes a test. -/
def execute (cfg : Settings) (sv : Services σ) (focusMode : Bool) (t : TestCase) :
    StateM (ExecutorState σ) Execution :=
  match gate focusMode t with
  | some ended => pure ended
  | none => do
    match ← loadFixtures sv t with
    | .error cause => return .broken cause
    | .ok () => perform cfg sv t

end Executor

end Assay
