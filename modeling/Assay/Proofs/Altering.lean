import Assay.Proofs.Templates
import Mathlib.Data.Fintype.EquivFin

/-
  Documents that have been altered.

  One document can come from another one by changes at its leaves, and by giving the items of its
  arrays another order.  `Json.Altered` is the relation for both, with a parameter for each: how a
  leaf may change (`change`), and whether items may change places (`moves`).  The tree stays: arrays
  keep their lengths, objects keep their names, and a leaf stays a leaf.

  The relation is given by one rule for each kind of document.  For arrays the rule has a bijection
  of the places of items, which is the identity unless items may move; for objects it goes by the
  place of a member, and the names are the same, place by place.  Where nothing moves, the rules for
  lists of parts are more handy (`Altered.items`, `Altered.members`), and they are what an induction
  on a document needs.

  Two uses are made of it.

  * Filling in the strings of a document changes only strings, each where it is:
    `altered_mapStrings` says so of any function on strings, by induction on the document, with
    `Rewritten` for what happens to a leaf.  So a template keeps everything of a document but the
    texts in it.
  * The changes that a comparison with relaxed options overlooks are of this kind as well, once with
    items that move and once with leaves that become others of their types.  What follows for the
    comparison is proved once for all parameters.
-/

namespace Assay.Json

/-- A document that holds no other ones. -/
inductive IsLeaf : Json → Prop where
  | null : IsLeaf .null
  | bool (b : Bool) : IsLeaf (.bool b)
  | number (n : Json.Number) : IsLeaf (.number n)
  | string (s : String) : IsLeaf (.string s)

/-- One document comes from another one: leaves change as `change` says, and items change places
only if `moves` holds. -/
inductive Altered (change : Json → Json → Prop) (moves : Prop) : Json → Json → Prop where
  | leaf {v w : Json} : v.IsLeaf → w.IsLeaf → change v w → Altered change moves v w
  | array {vs ws : List Json} (σ : Fin vs.length ≃ Fin ws.length) :
      (moves ∨ ∀ i, (σ i : Nat) = i) → (∀ i, Altered change moves (vs.get i) (ws.get (σ i))) →
      Altered change moves (.array vs) (.array ws)
  | object {ms ns : List (String × Json)} :
      ms.map Prod.fst = ns.map Prod.fst →
      (∀ i (h : i < ms.length) (h' : i < ns.length), Altered change moves ms[i].2 ns[i].2) →
      Altered change moves (.object ms) (.object ns)

section Parts

variable {change : Json → Json → Prop} {moves : Prop} {vs ws : List Json}
    {ms ns : List (String × Json)}

/-- Items are altered, each at its place. -/
theorem Altered.items (h : List.Forall₂ (Altered change moves) vs ws) :
    Altered change moves (.array vs) (.array ws) :=
  .array (finCongr h.length_eq) (.inr fun _ => rfl) fun i => h.get i.2 (h.length_eq ▸ i.2)

/-- Values of members are altered, each under its name. -/
theorem Altered.members
    (h : List.Forall₂ (fun m n => m.1 = n.1 ∧ Altered change moves m.2 n.2) ms ns) :
    Altered change moves (.object ms) (.object ns) := by
  have hnames : List.Forall₂ (· = ·) (ms.map Prod.fst) (ns.map Prod.fst) :=
    List.forall₂_map_left_iff.mpr (List.forall₂_map_right_iff.mpr (h.imp fun _ _ hm => hm.1))
  exact .object (List.forall₂_eq_eq_eq ▸ hnames) fun _ hi hi' => (h.get hi hi').2

end Parts

/-- A string changes as a function says, and any other leaf stays. -/
inductive Rewritten (f : String → String) : Json → Json → Prop where
  | string (s : String) : Rewritten f (.string s) (.string (f s))
  | other {v : Json} : (∀ s, v ≠ .string s) → Rewritten f v v

/-- Applying a function to every string changes only the strings, each where it is. -/
theorem altered_mapStrings (f : String → String) (v : Json) :
    Altered (Rewritten f) False v (v.mapStrings f) := by
  induction v with
  | null => exact .leaf .null .null (.other nofun)
  | bool b => exact .leaf (.bool b) (.bool b) (.other nofun)
  | number n => exact .leaf (.number n) (.number n) (.other nofun)
  | string s => exact .leaf (.string s) (.string (f s)) (.string s)
  | array items ih =>
    rw [mapStrings, mapStringsItems_eq_map]
    exact .items (List.forall₂_map_right_iff.mpr (List.forall₂_same.mpr ih))
  | object members ih =>
    rw [mapStrings, mapStringsMembers_eq_map]
    exact .members
      (List.forall₂_map_right_iff.mpr (List.forall₂_same.mpr fun m hm => ⟨rfl, ih m hm⟩))

end Assay.Json
