import Assay.Case.Basic
import Assay.Check.Fault
import Assay.Check.Pattern
import Assay.Http.Response
import Assay.Report.Outcome
import Assay.Text.Quoted

/-
  Checking the headers of a response.

  Every expected header must be there, under its name in any case, with the expected value or one
  that matches the expected pattern.

  `checkHeader` looks at one expected header, and `checkAll` at all of them in the order of the
  dictionary, which is that of their names as they are written.  A header of the response that
  nobody expects is never looked at.  A pattern is compiled only if the header is there; a pattern
  that is not well formed ends the check with a fault.

  A name is compared without regard to the case of basic Latin letters (`Response.header?`), and
  both the headers of the response and the expected ones are ordered by their names.  Respelling a
  name can therefore change the order in which things are found, but nothing else: see
  `Assay.Proofs.Spelling`. The same expectations can be stated as assertions;
  `Assay.Proofs.Wordings` compares the two.
-/

namespace Assay.Check.Headers

/-- The name of the checker. -/
def name : String := "headers"

/-- Checks one header. -/
def checkHeader [PatternEngine] (r : Response) (header expected : String) :
    Except CheckError (List Diagnostic) :=
  match r.header? header with
  | none => .ok [.anchored name header "header is missing"]
  | some actual =>
    match testText expected actual with
    | .error e => .error ⟨name, .headerPattern header e⟩
    | .ok true => .ok []
    | .ok false =>
      .ok [.anchored name header
        ("expected " ++ Text.quote expected ++ ", got " ++ Text.quote actual)]

/-- Checks some headers, in order; the first fault ends the check. -/
def checkAll [PatternEngine] (r : Response) :
    List (String × String) → Except CheckError (List Diagnostic)
  | [] => .ok []
  | (header, expected) :: rest => do
    let found ← checkHeader r header expected
    let others ← checkAll r rest
    return found ++ others

/-- Checks the expected headers of a test. -/
def check [PatternEngine] (t : TestCase) (r : Response) : Except CheckError (List Diagnostic) :=
  checkAll r t.expect.headers.entries

end Assay.Check.Headers
