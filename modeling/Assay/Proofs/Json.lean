import Assay.Json.Basic

/-
  Reasoning about documents.

  A document is a tree whose inner nodes hold lists: an array its items, and an object its members.
  The induction that comes with such a type speaks of lists of documents as well, and every proof by
  it would have to be stated three times over.  `Json.induction` is the induction that proofs over
  documents need: the hypothesis for an array is about all its items, and that for an object about
  the values of all its members.

  It is proved once by recursion on the size of documents, and as the custom eliminator of the type
  it is what `induction` uses in all other modules.

  The two other lemmas are about members that are looked up by name.  The first member with a name
  counts.
-/

namespace Assay.Json

/-- Induction on a document. -/
@[induction_eliminator]
theorem induction {P : Json → Prop} (null : P .null) (bool : ∀ b, P (.bool b))
    (number : ∀ n, P (.number n)) (string : ∀ s, P (.string s))
    (array : ∀ items : List Json, (∀ v ∈ items, P v) → P (.array items))
    (object : ∀ members : List (String × Json), (∀ m ∈ members, P m.2) → P (.object members)) :
    ∀ v, P v
  | .null => null
  | .bool b => bool b
  | .number n => number n
  | .string s => string s
  | .array items => array items fun v _ => induction null bool number string array object v
  | .object members => object members fun m _ => induction null bool number string array object m.2
termination_by v => sizeOf v
decreasing_by
  · have := List.sizeOf_lt_of_mem ‹v ∈ items›
    simp only [Json.array.sizeOf_spec]
    omega
  · have := List.sizeOf_lt_of_mem ‹m ∈ members›
    have : sizeOf m.2 < sizeOf m := by
      cases m
      simp only [Prod.mk.sizeOf_spec]
      omega
    simp only [Json.object.sizeOf_spec]
    omega

/-! ## Looking up members -/

/-- A name has a value exactly if it is the name of a member. -/
theorem isSome_lookup {key : String} {members : List (String × Json)} :
    (lookup key members).isSome = true ↔ ∃ m ∈ members, m.1 = key := by
  induction members with
  | nil => simp [lookup]
  | cons m rest ih =>
    obtain ⟨k, v⟩ := m
    by_cases h : k = key
    · simp [lookup, h]
    · simp [lookup, h, ih]

/-- What is found under a name is a member. -/
theorem mem_of_lookup {key : String} {v : Json} {members : List (String × Json)}
    (h : lookup key members = some v) : (key, v) ∈ members := by
  induction members with
  | nil => cases h
  | cons m rest ih =>
    obtain ⟨k, w⟩ := m
    rw [lookup] at h
    split at h
    · next hk =>
      cases hk
      cases h
      exact List.mem_cons_self
    · exact List.mem_cons_of_mem _ (ih h)

end Assay.Json
