import Assay.Check.Assertions
import Assay.Check.Body
import Assay.Check.Headers
import Assay.Proofs.Matching
import Assay.Proofs.Reading

/-
  Two wordings of one check.

  What a header or a body has to be like can be said in two ways: as an expected text, which is
  meant literally or is a marker, or as a typed assertion.  Two checkers evaluate them, each in its
  own order: the one for headers looks for the header first, the one for bodies for a document, and
  the one for assertions knows from the start whether there is a pattern.  Their diagnostics have
  other words and other places, but what the checks come to is the same.

  `Answer` is what a check comes to, whatever it reports: the response is as expected, it is not, or
  nothing can be said of it.  For each checker there is one equation that reduces its answer to the
  test of a single text (`Answer.ofTest`, or `Answer.ofTestOf` for a header that may be missing),
  and the two wordings of a check come to the same test.  So nothing is compared case by case.

  1. Texts and their tests.  A marker is tested as its pattern (`testText_marker`), and a text that
     is no marker by equality (`testText_literal`).  That a marker is no document (`parse_marker`)
     decides which way the checker for bodies goes: no document begins with a dollar sign.

  2. The answer of each checker.  `answer_checkAll_header` and `answer_check_body` are the equations
     for expected texts; `answer_headerMatches`, `answer_headerExists`, `answer_bodyMatches` and
     `answer_bodyEquals` those for assertions, which go through two lemmas about assertions with a
     condition and with a pattern (`answer_of_complaint`, `answer_of_pattern`).

  3. Both wordings, each by two of the equations.

  The engine for patterns is arbitrary: both wordings ask it the same question.
-/

namespace Assay.Check

/-- What a check comes to: the response is as expected, or it is not, or nothing can be said of
it. -/
inductive Answer where
  | passes | mismatch | fault
  deriving DecidableEq, Repr

namespace Answer

/-- The answer of a checker. -/
def ofReport : Except CheckError (List Diagnostic) → Answer
  | .ok [] => passes
  | .ok (_ :: _) => mismatch
  | .error _ => fault

/-- The answer of a single assertion. -/
def ofAssertion [PatternEngine] (a : Assertion) (r : Response) : Answer :=
  ofReport ((Assertions.evaluate a r).map Option.toList)

/-- The answer of a test of a text. -/
def ofTest : Except Regex.Error Bool → Answer
  | .ok true => passes
  | .ok false => mismatch
  | .error _ => fault

/-- The answer of a test of a text that may be missing. -/
def ofTestOf (test : String → Except Regex.Error Bool) (actual : Option String) : Answer :=
  actual.elim mismatch fun text => ofTest (test text)

end Answer

/-! ## Texts and their tests -/

/-- No document begins with a dollar sign. -/
theorem parse_marker (p : String) : ∃ e, Json.parse (marker p) = .error e := by
  obtain ⟨rest, hrest⟩ : ∃ rest, (marker p).toList = '$' :: rest := by
    rw [marker, String.toList_append, String.toList_append]
    exact ⟨_, rfl⟩
  have hread : ∀ fuel depth, ∃ e, Json.readValue (fuel + 1) depth ⟨'$' :: rest, 0⟩ = .error e := by
    intro fuel depth
    rw [Json.readValue, Json.skipSpace_of_head (by decide)]
    exact ⟨_, rfl⟩
  obtain ⟨e, he⟩ := hread (2 * ('$' :: rest).length) Json.depthLimit
  rw [Json.parse, hrest, Json.parseChars, he]
  exact ⟨_, rfl⟩

section Wordings

-- Both wordings reach the same engine, and nothing of what follows depends on which one it is.
variable [PatternEngine]

theorem testText_marker (p actual : String) :
    testText (marker p) actual = testPattern p actual := by
  rw [testText, patternOf?_eq_some_iff.mpr rfl]

theorem testText_literal {v : String} (h : ∀ p, v ≠ marker p) (actual : String) :
    testText v actual = .ok (v == actual) := by
  have hnone : patternOf? v = none := by
    cases hp : patternOf? v with
    | none => rfl
    | some p => exact absurd (patternOf?_eq_some_iff.mp hp) (h p)
  rw [testText, hnone]

/-! ## The answer of each checker -/

variable (r : Response)

/-- A single expected header is tested like its value, if it is there. -/
theorem answer_checkAll_header (header expected : String) :
    Answer.ofReport (Headers.checkAll r [(header, expected)]) =
      Answer.ofTestOf (testText expected) (r.header? header) := by
  rw [Headers.checkAll, Headers.checkAll, Headers.checkHeader]
  cases r.header? header with
  | none => rfl
  | some actual =>
    dsimp only [Answer.ofTestOf, Option.elim_some]
    cases testText expected actual with
    | error e => rfl
    | ok matched => cases matched <;> rfl

/-- An expected body that is no document is tested like a text. -/
theorem answer_checkText (expected : String) :
    Answer.ofReport (Body.checkText expected r) = Answer.ofTest (testText expected r.body) := by
  rw [Body.checkText]
  cases testText expected r.body with
  | error e => rfl
  | ok matched => cases matched <;> rfl

/-- A test that expects no status and a body that is no document gives the answer about its text. -/
theorem answer_check_body {t : TestCase} {expected : String} (hbody : t.expect.body = some expected)
    (hstatus : t.expect.status = none) (hparse : ∃ e, Json.parse expected = .error e) :
    Answer.ofReport (Body.check t r) = Answer.ofTest (testText expected r.body) := by
  obtain ⟨e, he⟩ := hparse
  rw [← answer_checkText, Body.check, hbody, hstatus, Body.checkBody, he]
  show Answer.ofReport ((Body.checkText expected r).map fun ds => [] ++ ds) = _
  cases Body.checkText expected r <;> rfl

/-- An assertion that complains unless a condition holds. -/
theorem answer_of_complaint {a : Assertion} {holds : Bool} {message : String}
    (h : Assertions.failure a r = .ok (Assertions.complaint holds message)) :
    Answer.ofAssertion a r = Answer.ofTest (.ok holds) := by
  rw [Answer.ofAssertion, Assertions.evaluate, h]
  cases holds <;> rfl

/-- An assertion that complains unless a pattern matches a text. -/
theorem answer_of_pattern {a : Assertion} {p text message : String}
    (h : Assertions.failure a r =
      (Assertions.testPatternOf p text).map fun holds => Assertions.complaint holds message) :
    Answer.ofAssertion a r = Answer.ofTest (testPattern p text) := by
  rw [Assertions.testPatternOf] at h
  cases htest : testPattern p text with
  | ok holds =>
    rw [htest] at h
    exact answer_of_complaint r h
  | error e =>
    rw [Answer.ofAssertion, Assertions.evaluate, h, htest]
    rfl

/-- An assertion about a header that is not there fails. -/
theorem answer_of_missing {a : Assertion} {message : String}
    (h : Assertions.failure a r = .ok (some message)) :
    Answer.ofAssertion a r = .mismatch := by
  rw [Answer.ofAssertion, Assertions.evaluate, h]
  rfl

theorem answer_headerMatches (header p : String) :
    Answer.ofAssertion (.headerMatches header p) r =
      Answer.ofTestOf (testPattern p) (r.header? header) := by
  cases hheader : r.header? header with
  | none =>
    apply answer_of_missing
    rw [Assertions.failure, hheader]
  | some actual =>
    apply answer_of_pattern
    rw [Assertions.failure, hheader]

theorem answer_headerExists (header v : String) :
    Answer.ofAssertion (.headerExists header (some v)) r =
      Answer.ofTestOf (fun actual => .ok (v == actual)) (r.header? header) := by
  cases hheader : r.header? header with
  | none =>
    apply answer_of_missing
    unfold Assertions.failure
    dsimp only
    rw [hheader]
  | some actual =>
    apply answer_of_complaint
    unfold Assertions.failure
    dsimp only
    rw [hheader, Bool.beq_comm]

theorem answer_bodyMatches (p : String) :
    Answer.ofAssertion (.bodyMatches p) r = Answer.ofTest (testPattern p r.body) := by
  apply answer_of_pattern
  rw [Assertions.failure]

theorem answer_bodyEquals (v : String) :
    Answer.ofAssertion (.bodyEquals v) r = Answer.ofTest (.ok (v == r.body)) := by
  apply answer_of_complaint
  rw [Assertions.failure, Bool.beq_comm]

/-! ## Both wordings -/

/-- Two wordings of one check come to the same answer on every response.  A single expected header
that is written as a marker passes, is a mismatch or is a fault exactly if the assertion about its
pattern holds, fails or is a fault; a value that is no marker agrees in the same way with the
assertion that the header has it.  The same is true of an expected body, if no status is expected:
written as a marker it agrees with the assertion about its pattern, and if it is neither a marker
nor a document, with the assertion that the body equals it. -/
theorem wordings_of_a_check_agree (t : TestCase) (r : Response) :
    (∀ header p, t.expect.headers.entries = [(header, marker p)] →
      Answer.ofReport (Headers.check t r) = Answer.ofAssertion (.headerMatches header p) r) ∧
    (∀ header v, (∀ p, v ≠ marker p) → t.expect.headers.entries = [(header, v)] →
      Answer.ofReport (Headers.check t r) = Answer.ofAssertion (.headerExists header (some v)) r) ∧
    (t.expect.status = none →
      (∀ p, t.expect.body = some (marker p) →
        Answer.ofReport (Body.check t r) = Answer.ofAssertion (.bodyMatches p) r) ∧
      (∀ v, (∀ p, v ≠ marker p) → (∀ document, Json.parse v ≠ .ok document) →
        t.expect.body = some v →
        Answer.ofReport (Body.check t r) = Answer.ofAssertion (.bodyEquals v) r)) := by
  refine ⟨fun header p hentries => ?_, fun header v hv hentries => ?_,
    fun hstatus => ⟨fun p hbody => ?_,
    fun v hv hparse hbody => ?_⟩⟩
  · rw [Headers.check, hentries, answer_checkAll_header, answer_headerMatches,
      funext (testText_marker p)]
  · rw [Headers.check, hentries, answer_checkAll_header, answer_headerExists,
      funext (testText_literal hv)]
  · rw [answer_check_body r hbody hstatus (parse_marker p), answer_bodyMatches, testText_marker]
  · have herror : ∃ e, Json.parse v = .error e := by
      cases hparsed : Json.parse v with
      | ok document => exact absurd hparsed (hparse document)
      | error e => exact ⟨e, rfl⟩
    rw [answer_check_body r hbody hstatus herror, answer_bodyEquals, testText_literal hv]

end Wordings

/-- A test that expects one header and a body. -/
def wordedTest (header value body : String) : TestCase :=
  { TestCase.ofRequest default "worded" (.get "/") with
    expect :=
      { Expectations.anything with headers := Dict.empty.insert header value, body := some body } }

/-- A response that sends a header under another spelling. -/
def wordedResponse : Response := ⟨200, "OK", Dict.empty.insert "x-trace" "a)", "$matchRegexp(", ⟨0⟩⟩

/-- A pattern that ends in a parenthesis is found in its marker, and a body that only opens a marker
is the text that it is. -/
theorem escaped_parenthesis_in_both_wordings :
    Answer.ofReport
      (Headers.check (wordedTest "X-Trace" (marker "\\)") "$matchRegexp(") wordedResponse) =
      Answer.ofAssertion (.headerMatches "X-Trace" "\\)") wordedResponse ∧
    Answer.ofAssertion (.headerMatches "X-Trace" "\\)") wordedResponse = .passes ∧
    Answer.ofReport
      (Body.check (wordedTest "X-Trace" (marker "\\)") "$matchRegexp(") wordedResponse) =
      Answer.ofAssertion (.bodyEquals "$matchRegexp(") wordedResponse ∧
    Answer.ofAssertion (.bodyEquals "$matchRegexp(") wordedResponse = .passes := by
  have hmarker : patternOf? "$matchRegexp(" = none := by decide +kernel
  have hliteral : ∀ p, "$matchRegexp(" ≠ marker p := by
    intro p hp
    cases hmarker.symm.trans (patternOf?_eq_some_iff.mpr hp)
  have hparse : ∀ document, Json.parse "$matchRegexp(" ≠ .ok document := by
    have herror : (Json.parse "$matchRegexp(").toOption = none := by decide +kernel
    intro document hdocument
    rw [hdocument] at herror
    cases herror
  have h :=
    wordings_of_a_check_agree (wordedTest "X-Trace" (marker "\\)") "$matchRegexp(") wordedResponse
  exact ⟨h.1 _ _ rfl, by decide +kernel, (h.2.2 rfl).2 _ hliteral hparse rfl, by decide +kernel⟩

end Assay.Check
