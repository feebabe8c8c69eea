import Assay.Check.Fault
import Assay.Check.Structure
import Assay.Http.Response
import Assay.Text.Quoted

/-
  Checking the status and the body of a response.

  An expected body that is JSON is compared by structure; any other one is compared as a text, or as
  a pattern if it is a marker.

  Which of the two an expected body is, is found out by reading it: a text that is a document is
  compared as one, with the options of the test (`checkDocument`), and then the actual body has to
  be a document too.  A marker is no document, because it does not start like one, so a body can be
  expected to match a pattern (`checkText`).

  The status comes first in what is found.  If the expected body cannot be evaluated, because its
  pattern is not well formed, then the check ends with a fault, and a mismatch of the status is not
  reported.  The long body of a response is shown up to a number of bytes (`previewSize`); what of
  it is shown is the matter of `Response.previewOf`.
-/

namespace Assay.Check.Body

/-- The name of the checker. -/
def name : String := "body"

/-- How many bytes of a body are shown. -/
def previewSize : Nat := 200

/-- Checks the status code. -/
def checkStatus (expected : Option StatusExpectation) (r : Response) : List Diagnostic :=
  match expected with
  | none => []
  | some e =>
    if e.accepts r.status then []
    else [.anchored name "status"
      s!"server responded with status {(Status.mk r.status).text}, expected {e.text}"]

/-- Checks a body that is expected as a document. -/
def checkDocument [PatternEngine] (o : CompareOptions) (expected : Json) (r : Response) :
    List Diagnostic :=
  match r.json? with
  | some actual => Json.diagnose name o expected actual
  | none => [.plain name ("expected a JSON body, got " ++ Text.quote (r.preview previewSize))]

/-- Checks a body that is expected as a text. -/
def checkText [PatternEngine] (expected : String) (r : Response) :
    Except CheckError (List Diagnostic) :=
  match testText expected r.body with
  | .error e => .error ⟨name, .bodyPattern e⟩
  | .ok true => .ok []
  | .ok false =>
    .ok [.plain name (match patternOf? expected with
      | some pattern => s!"body does not match /{pattern}/: {r.preview previewSize}"
      | none => "expected body " ++ Text.quote expected ++ ", got " ++
          Text.quote (r.preview previewSize))]

/-- Checks the body. -/
def checkBody [PatternEngine] (o : CompareOptions) (expected : Option String) (r : Response) :
    Except CheckError (List Diagnostic) :=
  match expected with
  | none => .ok []
  | some text =>
    match Json.parse text with
    | .ok document => .ok (checkDocument o document r)
    | .error _ => checkText text r

/-- Checks status and body. -/
def check [PatternEngine] (t : TestCase) (r : Response) : Except CheckError (List Diagnostic) :=
  (checkBody t.expect.compare t.expect.body r).map fun ds => checkStatus t.expect.status r ++ ds

end Assay.Check.Body
