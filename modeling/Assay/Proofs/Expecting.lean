import Assay.Proofs.Definitions
import Assay.Proofs.Malformed

/-
  Values that are expected under a path.

  A definition of type `json_path` gives a path and the value that is expected there.  The assertion
  holds exactly if the path leads to a value in the body that is equal to the expected one, for
  every expected value but one: a null is taken for no value at all (`Assertion.given`), and then
  any value under the path will do.  A definition of type `json_path_matches` that compares for
  equality has no such exception: with it, a null is expected like any other value.

  The theorem of this module is about definitions and not about assertions, since it is the decoder
  that takes the null away.  It says for every path, every value and every order of the members that
  the definition is understood, and when the assertion that it gives holds of a response.

  The proof has two halves for each kind of definition.  The first is decoding, where the order of
  members is arbitrary (`decode_expecting`, which goes through the general lemma about records with
  a tag).  The second is evaluation: an assertion about the value under a path holds exactly if
  there is such a value and nothing is said against it (`evaluatePath_ok_none_iff`), and what can be
  said against it is that it is not the same document (`expecting_holds_iff`,
  `comparing_holds_iff`).

  The run at the end has a null where the body has a five.
-/

namespace Assay

open Check.Assertions (evaluate failure complaint compareValues
  evaluatePath_ok_none_iff evaluate_ok_none_iff responseWith)

namespace Assertion

/-! ## Definitions -/

/-- The definition of a value that is expected under a path. -/
def expecting (path : String) (v : Json) : Json :=
  .object [("type", .string "json_path"), ("path", .string path), ("expected", v)]

/-- The definition of a value that is compared for equality with the one under a path. -/
def comparing (path : String) (v : Json) : Json :=
  .object [("type", .string "json_path_matches"), ("path", .string path),
    ("operator", .string "equals"), ("value", v)]

/-- The value that a definition gives: a null is none. -/
def given : Json → Option Json
  | .null => none
  | v => some v

/-- A value that is given, or else null, is the value of the definition. -/
theorem given_getD (v : Json) : (given v).getD .null = v := by
  cases v <;> rfl

variable {f : Json → Json} {path : String} {v : Json}

/-- The definition is understood in any order of its members. -/
theorem decode_expecting (hf : Json.Rearranges f) (hfix : f v = v) (path : String) :
    decode (f (expecting path v)) = .ok (.jsonPath path (given v)) := by
  have hencode : expecting path v = (jsonPath path (given v)).encode := by
    rw [encode, given_getD]
    rfl
  rw [hencode]
  refine decode_encode hf (fun w (hw : w = v) => hw ▸ hfix) ?_
  cases v with
  | null => trivial
  | _ => exact ⟨Json.noConfusion, rfl⟩

/-- The definition of a comparison is understood in any order of its members. -/
theorem decode_comparing (hf : Json.Rearranges f) (hfix : f v = v) (path : String) :
    decode (f (comparing path v)) = .ok (.jsonPathMatches path .equals v) :=
  decode_encode hf (fun w (hw : w = v) => hw ▸ hfix)
    (show (jsonPathMatches path .equals v).Holds (· = v) from rfl)

end Assertion

namespace Check.Assertions

variable {path : String} {v : Json} {r : Response}

theorem complaint_eq_none_iff {holds : Bool} {message : String} :
    complaint holds message = none ↔ holds = true := by
  cases holds <;> simp [complaint]

/-- A given value has to be the one under the path, and a null is no given value. -/
theorem expecting_holds_iff : evaluate (.jsonPath path (Assertion.given v)) r = .ok none ↔
    ∃ document w, r.json? = some document ∧ document.query path = .ok (some w) ∧
      (v = .null ∨ w.same v = true) := by
  rw [evaluate_ok_none_iff, failure, evaluatePath_ok_none_iff]
  refine exists_congr fun document => exists_congr fun w => and_congr_right' (and_congr_right' ?_)
  cases v with
  | null => exact iff_of_true rfl (.inl rfl)
  | _ => exact complaint_eq_none_iff.trans (or_iff_right (by rintro ⟨⟩)).symm

/-- A value that is compared for equality has to be the one under the path. -/
theorem comparing_holds_iff : evaluate (.jsonPathMatches path .equals v) r = .ok none ↔
    ∃ document w, r.json? = some document ∧ document.query path = .ok (some w) ∧
    w.same v = true := by
  rw [evaluate_ok_none_iff, failure, evaluatePath_ok_none_iff]
  exact exists_congr fun document => exists_congr fun w =>
    and_congr_right' (and_congr_right' complaint_eq_none_iff)

/-- Expected values.  A definition that expects a value under a path is understood, in any order of
its members.  For a value other than null, it holds exactly for the responses whose body is a
document in which there is an equal value under the path; for a route, that is, in which its steps
lead to one.  A null is not compared: the definition holds if there is any value under the path.
The definition that compares with the value for equality holds for the equal values only, whether it
is a null or not. -/
theorem expected_value_is_compared_unless_null (path : String) (v : Json) :
    ∃ a b, Assertion.decode (Assertion.expecting path v) = .ok a ∧
      Assertion.decode (Assertion.comparing path v) = .ok b ∧
      (v.Ordered → Assertion.decode (Assertion.expecting path v).arranged = .ok a ∧
        Assertion.decode (Assertion.comparing path v).arranged = .ok b) ∧
      (∀ r, evaluate a r = .ok none ↔ ∃ document w, r.json? = some document ∧
        document.query path = .ok (some w) ∧ (v = .null ∨ w.same v = true)) ∧
      (∀ r, evaluate b r = .ok none ↔ ∃ document w, r.json? = some document ∧
        document.query path = .ok (some w) ∧ w.same v = true) ∧
      ∀ route : Route, route.text = path → ∀ (document w : Json),
        document.query path = .ok (some w) ↔ document.Leads route.steps w := by
  have hid : ∀ w : Json, id w = w := fun _ => rfl
  refine ⟨_, _, Assertion.decode_expecting Json.rearranges_id (hid v) path,
    Assertion.decode_comparing Json.rearranges_id (hid v) path, fun hordered => ?_,
    fun r => expecting_holds_iff, fun r => comparing_holds_iff, ?_⟩
  · have hfix := Json.arranged_of_ordered hordered
    exact ⟨Assertion.decode_expecting Json.rearranges_arranged hfix path,
      Assertion.decode_comparing Json.rearranges_arranged hfix path⟩
  · rintro route rfl document w
    rw [Json.query_route, Except.ok.injEq, Json.follow_eq_some_iff]

/-- A document with an identifier. -/
def fiveDocument : Json := .object [("id", .word 5)]

/-- A null is expected where a five stands, and the assertion holds. -/
theorem expected_null_holds_of_a_number :
    fiveDocument.compact = "\x7b\"id\":5\x7d" ∧
    fiveDocument.query "$.id" = .ok (some (.word 5)) ∧ (Json.word 5).same .null = false ∧
    ∃ a, Assertion.decode (Assertion.expecting "$.id" .null) = .ok a ∧
      evaluate a (responseWith .empty fiveDocument.compact) = .ok none := by
  have hquery : fiveDocument.query "$.id" = .ok (some (.word 5)) := by rfl
  have hjson : (responseWith .empty fiveDocument.compact).json? = some fiveDocument := by
    have hreadable : fiveDocument.Readable (126 + 1) := ⟨trivial, trivial⟩
    exact Body.json?_eq_some_iff.mpr (Json.parse_compact hreadable)
  refine ⟨by decide +kernel, hquery, rfl, _,
    Assertion.decode_expecting Json.rearranges_id rfl "$.id", ?_⟩
  exact expecting_holds_iff.mpr ⟨fiveDocument, .word 5, hjson, hquery, .inl rfl⟩

end Check.Assertions

end Assay
