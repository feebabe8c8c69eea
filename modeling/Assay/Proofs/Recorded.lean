import Assay.Check.Body
import Assay.Proofs.Ordering
import Assay.Proofs.Relating

/-
  Recorded bodies.

  A test can be written by recording: send the request once, and expect the body that came back.
  The same response then passes, whatever the compare options, as long as what was recorded says
  nothing else by being expected, that is, as long as it has no markers (`Body.Literal`).

  `Body.Accepts` says by rules which texts are accepted for an expected one: for a document every
  document that matches, for a marker every text that its pattern matches, for any other text the
  same one.  Whether the expected text is a document decides between them, and markers inside a
  document are a matter of matching; so two equal texts are always treated alike.

  1. Parts.  Nothing is reported for a document, and for a text, exactly if it is accepted by its
     rule (`checkDocument_eq_nil_iff`, `checkText_eq_nil_iff`); `checkBody_eq_nil_iff` puts the two
     together by what reading the expected text gives.

  2. Bodies that are expected as they came.  A document that has been read is ordered, and an
     ordered document without markers matches itself (`Json.Matches.refl`), whatever the options.  A
     text that is neither a document nor a marker is accepted for itself.  These two are
     `Literal.accepts`.

  The theorem also says what the recorded body accepts of other responses.  It holds for any engine
  for patterns, since no pattern is left in a body that means itself.
-/

namespace Assay.Check.Body

/-! ## The rules -/

/-- A text is accepted as the body of a response. -/
inductive Accepts [PatternEngine] (o : CompareOptions) : String → String → Prop where
  /-- For a document every document that matches. -/
  | document {expected actual : String} {v w : Json} :
      Json.parse expected = .ok v → Json.parse actual = .ok w → Json.Matches o v w →
      Accepts o expected actual
  /-- For a marker that is no document every text that its pattern matches. -/
  | pattern {expected actual p : String} {e : Json.SyntaxError}
      {r : PatternEngine.Compiled} :
      Json.parse expected = .error e → patternOf? expected = some p →
      PatternEngine.compile p = .ok r → PatternEngine.isMatch r actual = true →
      Accepts o expected actual
  /-- For any other text the same one. -/
  | text {expected : String} {e : Json.SyntaxError} :
      Json.parse expected = .error e → patternOf? expected = none → Accepts o expected expected

section Parts

variable {o : CompareOptions} {expected : String} {r : Response}

/-- A body is a document exactly if it is read as one. -/
theorem json?_eq_some_iff {v : Json} : r.json? = some v ↔ Json.parse r.body = .ok v := by
  rw [Response.json?]
  cases Json.parse r.body <;> simp [Except.toOption]

variable [PatternEngine]

/-- Nothing is reported for a document exactly if the body is one that matches. -/
theorem checkDocument_eq_nil_iff {v : Json} :
    checkDocument o v r = [] ↔ ∃ w, Json.parse r.body = .ok w ∧ Json.Matches o v w := by
  simp only [← json?_eq_some_iff]
  rw [checkDocument]
  cases r.json? with
  | none => simp
  | some w => simp [Json.diagnose_eq_nil_iff]

/-- Nothing is reported for a text exactly if it is the body, or a marker whose pattern matches the
body. -/
theorem checkText_eq_nil_iff :
    checkText expected r = .ok [] ↔
      (patternOf? expected = none ∧ r.body = expected) ∨
      ∃ p re, patternOf? expected = some p ∧ PatternEngine.compile p = .ok re ∧
        PatternEngine.isMatch re r.body = true := by
  rw [checkText, testText]
  cases hp : patternOf? expected with
  | none =>
    dsimp only
    cases heq : expected == r.body with
    | true => simp [eq_of_beq heq]
    | false => simp [Ne.symm (ne_of_beq_false heq)]
  | some p =>
    dsimp only
    rw [testPattern]
    cases hr : PatternEngine.compile p with
    | error e => simp [Except.map, hr]
    | ok re => cases hm : PatternEngine.isMatch re r.body <;> simp [Except.map, hr, hm]

/-- Nothing is reported of a body exactly if it is accepted. -/
theorem checkBody_eq_nil_iff :
    checkBody o (some expected) r = .ok [] ↔ Accepts o expected r.body := by
  rw [checkBody]
  cases hparse : Json.parse expected with
  | ok v =>
    dsimp only
    rw [Except.ok.injEq, checkDocument_eq_nil_iff]
    constructor
    · rintro ⟨w, hw, hmatch⟩
      exact .document hparse hw hmatch
    · intro h
      cases h with
      | document hv hw hmatch =>
        cases hparse.symm.trans hv
        exact ⟨_, hw, hmatch⟩
      | pattern he => cases hparse.symm.trans he
      | text he => cases hparse.symm.trans he
  | error e =>
    dsimp only
    rw [checkText_eq_nil_iff]
    constructor
    · rintro (⟨hp, hbody⟩ | ⟨p, re, hp, hr, hm⟩)
      · rw [hbody]
        exact .text hparse hp
      · exact .pattern hparse hp hr hm
    · intro h
      cases h with
      | document hv => cases hparse.symm.trans hv
      | pattern _ hp hr hm => exact .inr ⟨_, _, hp, hr, hm⟩
      | text _ hp => exact .inl ⟨hp, rfl⟩

end Parts

/-! ## Bodies that are expected as they came -/

/-- A text means itself when it is expected: it is no marker, or if it is a document, no string in
it is. -/
structure Literal (text : String) : Prop where
  document : ∀ v, Json.parse text = .ok v → v.Unmarked
  text : ∀ e, Json.parse text = .error e → patternOf? text = none

/-- A document means itself if it has no markers. -/
theorem literal_iff_of_document {text : String} {v : Json} (h : Json.parse text = .ok v) :
    Literal text ↔ v.Unmarked := by
  constructor
  · intro hliteral
    exact hliteral.document v h
  · intro hv
    refine ⟨fun w hw => ?_, fun e he => ?_⟩
    · cases h.symm.trans hw
      exact hv
    · cases h.symm.trans he

/-- Any other text means itself if it is no marker. -/
theorem literal_iff_of_text {text : String} {e : Json.SyntaxError}
    (h : Json.parse text = .error e) :
    Literal text ↔ patternOf? text = none := by
  constructor
  · intro hliteral
    exact hliteral.text e h
  · intro hp
    refine ⟨fun w hw => ?_, fun _ _ => hp⟩
    cases h.symm.trans hw

instance (text : String) : Decidable (Literal text) :=
  match h : Json.parse text with
  | .ok _ => decidable_of_iff' _ (literal_iff_of_document h)
  | .error _ => decidable_of_iff' _ (literal_iff_of_text h)

section Recording

variable [PatternEngine]

/-- A text that means itself is accepted where it is expected. -/
theorem Literal.accepts {text : String} (h : Literal text) (o : CompareOptions) :
    Accepts o text text := by
  cases hparse : Json.parse text with
  | ok v =>
    have hordered : v.Ordered := Json.ordered_of_parse hparse
    exact .document hparse hparse (.refl hordered (h.document v hparse))
  | error e => exact .text hparse (h.text e hparse)

/-- A recorded body is its own expectation.  If a test expects the body of a response as it came,
and no status, then nothing is reported of this response and no fault is met, whatever the compare
options, provided the body means itself.  Of another response nothing is reported exactly if its
body is accepted for the recorded one. -/
theorem recorded_body_is_its_own_expectation {t : TestCase} {r : Response}
    (hbody : t.expect.body = some r.body) (hstatus : t.expect.status = none)
    (hliteral : Literal r.body) :
    check t r = .ok [] ∧
      ∀ other : Response, check t other = .ok [] ↔ Accepts t.expect.compare r.body other.body := by
  have hcheck : ∀ other, check t other = .ok [] ↔ Accepts t.expect.compare r.body other.body := by
    intro other
    rw [← checkBody_eq_nil_iff, check, hbody, hstatus]
    cases checkBody t.expect.compare (some r.body) other <;> simp [Except.map, checkStatus]
  exact ⟨(hcheck r).mpr (hliteral.accepts _), hcheck⟩

end Recording

/-- A test that expects a body, and nothing else. -/
def recording (body : String) (o : CompareOptions) : TestCase :=
  { TestCase.ofRequest default "recorded" (.get "/") with
    expect := { Expectations.anything with body := some body, compare := o } }

/-- A response with a body. -/
def responseOf (body : String) : Response := { (default : Response) with body := body }

/-- A list whose second item is expected to match any of the first two. -/
def recordedList : String := "[\x7b\"n\":-0.0\x7d,\x7b\x7d,[\"$\",null]]"

/-- A text that is no document, and no marker either. -/
def recordedText : String := "$matchRegexp(1"

/-- Both pass when they are recorded and expected, here without order and extra members. -/
theorem recorded_list_and_text :
    (Literal recordedList ∧
      check (recording recordedList Json.setwise) (responseOf recordedList) = .ok []) ∧
    (Literal recordedText ∧
      check (recording recordedText Json.setwise) (responseOf recordedText) = .ok []) := by
  have hlist : Literal recordedList := by decide +kernel
  have htext : Literal recordedText := by decide +kernel
  refine ⟨⟨hlist, ?_⟩, htext, ?_⟩
  · exact (recorded_body_is_its_own_expectation (r := responseOf recordedList) rfl rfl hlist).1
  · exact (recorded_body_is_its_own_expectation (r := responseOf recordedText) rfl rfl htext).1

end Assay.Check.Body
