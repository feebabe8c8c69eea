import Assay.Regex.Basic
import Assay.Text.Search

/-
  Expected texts.

  An expected text is meant literally, unless it is written as the marker `$matchRegexp(…)`: then
  any text that matches the pattern between the parentheses will do.

  What a pattern is, and which texts it matches, is the matter of an engine for patterns
  (`PatternEngine`).  A check needs no more of it than that a pattern is compiled once, to a test of
  texts, or refused.  The checks are run with `Regex`; what does not depend on the engine is stated
  for all of them.

  `patternOf?` takes a marker apart and `testText` tests a text against an expected text of either
  sort; `Assay.Check.Headers` and `Assay.Check.Body` use nothing else.  A text that only starts like
  a marker, or does not end like one, is meant literally.  Assertions name a pattern as such,
  without a marker, and use `testPattern`.
-/

namespace Assay

/-- What an expected text begins with if it is a pattern. -/
def patternOpening : String := "$matchRegexp("

/-- The pattern of a marker. -/
def patternOf? (expected : String) : Option String := do
  let inner ← Text.stripFront patternOpening.toList expected.toList
  let pattern ← Text.stripBack [')'] inner
  return String.ofList pattern

/-- An engine for patterns: it compiles a pattern, or says why it is none, and tests texts. -/
class PatternEngine where
  Compiled : Type
  compile : String → Except Regex.Error Compiled
  isMatch : Compiled → String → Bool

/-- The patterns of this library. -/
instance : PatternEngine := ⟨Regex, Regex.compile, Regex.isMatch⟩

/-- Tests a text against a pattern. -/
def testPattern [PatternEngine] (pattern text : String) : Except Regex.Error Bool :=
  (PatternEngine.compile pattern).map fun r => PatternEngine.isMatch r text

/-- Tests a text against an expected text. -/
def testText [PatternEngine] (expected actual : String) : Except Regex.Error Bool :=
  match patternOf? expected with
  | some pattern => testPattern pattern actual
  | none => .ok (expected == actual)

end Assay
