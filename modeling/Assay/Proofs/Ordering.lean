import Assay.Dict
import Assay.Proofs.Reading

/-
  Documents that are read are ordered.

  The reader keeps the members of the object it is reading in the order of their names: each new one
  is put at its place, or takes the place of an earlier one with its name.  So whatever text a
  document comes from, the document is ordered (`Json.ordered_of_parse`), and every comparison that
  asks for ordered documents can be made with it.

  The reader is a group of functions that call each other with fuel.  What is proved of them is one
  statement for all (`GivesOrdered`): with some fuel values are ordered, all items of an array are,
  and members that are added to those of an ordered object leave it ordered.  `Gives x P` says that
  if the reader gives something then this has the property `P`, so nothing has to be said about
  errors; it goes through two readers one after the other (`Gives.bind`), and this lemma peels off
  one step of the code at a time.

  1. Members.  Putting one into an ordered object leaves it ordered (`ordered_put`), which is a fact
     about dictionaries (`put_eq_insertEntry`).

  2. Readers.  Each function with one more unit of fuel gives what it should, if all of them do with
     less (`gives_readValue`, `gives_readItems`, `gives_readMember`, `gives_readMembers`).

  3. `givesOrdered` is the induction on the fuel, and `ordered_of_parse` is about the fuel that a
     text is read with.
-/

namespace Assay.Json

/-! ## Members in order -/

/-- A member is put into an object as an entry is put into a dictionary. -/
theorem put_eq_insertEntry (name : String) (value : Json) (members : List (String × Json)) :
    put name value members = Dict.insertEntry name value members := by
  induction members with
  | nil => rfl
  | cons m rest ih =>
    obtain ⟨k, v⟩ := m
    rw [put, Dict.insertEntry, ih]

/-- An object is ordered if its names increase and its values are ordered. -/
theorem ordered_object_iff {members : List (String × Json)} :
    (Json.object members).Ordered ↔
      members.Pairwise (fun m n => m.1 < n.1) ∧ ∀ m ∈ members, m.2.Ordered := by
  rw [Ordered, List.pairwise_map, orderedMembers_iff]

/-- An ordered object with one more member, or with another value for one, is ordered. -/
theorem ordered_put {name : String} {value : Json} {members : List (String × Json)}
    (hvalue : value.Ordered) (h : (Json.object members).Ordered) :
    (Json.object (put name value members)).Ordered := by
  rw [ordered_object_iff] at h ⊢
  rw [put_eq_insertEntry]
  refine ⟨Dict.sorted_insertEntry h.1, fun m hm => ?_⟩
  rcases Dict.mem_insertEntry hm with rfl | hm
  · exact hvalue
  · exact h.2 m hm

/-! ## What a reader gives -/

variable {α β : Type} {P : α → Prop} {Q : β → Prop}

/-- If the reader gives something, then it has the property. -/
def Gives (x : Except FaultAt α) (P : α → Prop) : Prop := ∀ a, x = .ok a → P a

theorem Gives.any (x : Except FaultAt α) : Gives x fun _ => True := fun _ _ => trivial

/-- A failure gives nothing. -/
theorem gives_failNext (c : Cursor) (f : Fault) : Gives (c.failNext f) P := nofun

/-- What is returned has the property. -/
theorem Gives.pure {a : α} (h : P a) : Gives (.ok a) P := by
  intro b hb
  cases hb
  exact h

/-- What is read first has one property, and what is read behind it the other one. -/
theorem Gives.bind {x : Except FaultAt α} {f : α → Except FaultAt β} (hx : Gives x P)
    (hf : ∀ a, P a → Gives (f a) Q) : Gives (x >>= f) Q := by
  intro b hb
  cases hx' : x with
  | error e =>
    rw [hx'] at hb
    cases hb
  | ok a =>
    rw [hx'] at hb
    exact hf a (hx a hx') b hb

/-! ## The reader -/

/-- With some fuel the reader gives ordered documents: as values, as items, and as members that are
added to those of an ordered object. -/
structure GivesOrdered (fuel : Nat) : Prop where
  value : ∀ depth c, Gives (readValue fuel depth c) fun r => r.1.Ordered
  items : ∀ depth c first, Gives (readItems fuel depth c first) fun r => ∀ v ∈ r.1, v.Ordered
  members : ∀ depth c first acc, (Json.object acc).Ordered →
    Gives (readMembers fuel depth c first acc) fun r => (Json.object r.1).Ordered

section Step

variable {fuel : Nat} (ih : GivesOrdered fuel)

include ih

/-- Values are ordered, if items and members are with less fuel. -/
theorem gives_readValue (depth : Nat) (c : Cursor) :
    Gives (readValue (fuel + 1) depth c) fun r => r.1.Ordered := by
  rw [readValue]
  dsimp only
  split
  · exact gives_failNext _ _
  · exact .bind (.any _) fun _ _ => .pure trivial
  · exact .bind (.any _) fun _ _ => .pure trivial
  · exact .bind (.any _) fun _ _ => .pure trivial
  · exact .bind (.any _) fun _ _ => .pure trivial
  · exact .bind (.any _) fun _ _ => .pure trivial
  · -- An array holds what is read as its items.
    cases depth with
    | zero => exact gives_failNext _ _
    | succ depth =>
      refine .bind (ih.items depth _ true) fun r hr => .pure ?_
      exact orderedItems_iff.mpr hr
  · -- An object starts without members.
    cases depth with
    | zero => exact gives_failNext _ _
    | succ depth =>
      have hempty : (Json.object []).Ordered := by simp [Ordered, OrderedMembers]
      exact .bind (ih.members depth _ true [] hempty) fun r hr => .pure hr
  · split
    · exact .bind (.any _) fun _ _ => .pure trivial
    · exact gives_failNext _ _

/-- All items of an array are ordered, if values are with less fuel. -/
theorem gives_readItems (depth : Nat) (c : Cursor) (first : Bool) :
    Gives (readItems (fuel + 1) depth c first) fun r => ∀ v ∈ r.1, v.Ordered := by
  rw [readItems]
  dsimp only
  split
  · exact gives_failNext _ _
  · exact .pure (List.forall_mem_nil _)
  · -- However the item is arrived at, it is read, and then the others.
    have hitem : ∀ c,
      Gives (readValue fuel depth c >>= fun v => readItems fuel depth v.2 false >>= fun vs =>
        pure (v.1 :: vs.1, vs.2)) fun r => ∀ v ∈ r.1, v.Ordered := by
      intro c
      refine .bind (ih.value depth c) fun v hv => ?_
      refine .bind (ih.items depth v.2 false) fun vs hvs => .pure ?_
      exact List.forall_mem_cons.mpr ⟨hv, hvs⟩
    split
    · exact .bind (.any _) fun c _ => hitem c
    · split
      · split <;> exact .bind (.any _) fun c _ => hitem c
      · exact .bind (.any _) fun c _ => hitem c

/-- One more member leaves an object ordered. -/
theorem gives_readMember (depth : Nat) (c : Cursor) {acc : List (String × Json)}
    (hacc : (Json.object acc).Ordered) :
    Gives (readMember fuel depth acc c) fun r => (Json.object r.1).Ordered := by
  have hvalue : ∀ key c, Gives (readValue fuel depth c >>= fun v =>
      readMembers fuel depth v.2 false (put key v.1 acc)) fun r => (Json.object r.1).Ordered := by
    intro key c
    refine .bind (ih.value depth c) fun v hv => ?_
    exact ih.members depth v.2 false _ (ordered_put hv hacc)
  rw [readMember]
  refine .bind (.any _) fun key _ => ?_
  dsimp only
  split <;> exact .bind (.any _) fun c _ => hvalue key.1 c

/-- All members that are added leave an object ordered. -/
theorem gives_readMembers (depth : Nat) (c : Cursor) (first : Bool) (acc : List (String × Json))
    (hacc : (Json.object acc).Ordered) :
    Gives (readMembers (fuel + 1) depth c first acc) fun r => (Json.object r.1).Ordered := by
  rw [readMembers]
  dsimp only
  split
  · exact gives_failNext _ _
  · exact .pure hacc
  · have hmember := fun c => gives_readMember ih depth c hacc
    split
    · split <;> exact .bind (.any _) fun c _ => hmember c
    · split
      · split <;> exact .bind (.any _) fun c _ => hmember c
      · exact .bind (.any _) fun c _ => hmember c

end Step

/-- The reader gives ordered documents.  Induction on the fuel. -/
theorem givesOrdered (fuel : Nat) : GivesOrdered fuel := by
  induction fuel with
  | zero =>
    exact ⟨fun _ c => gives_failNext c _, fun _ c _ => gives_failNext c _,
      fun _ c _ _ _ => gives_failNext c _⟩
  | succ fuel ih => exact ⟨gives_readValue ih, gives_readItems ih, gives_readMembers ih⟩

/-- Every document that is read from a text is ordered. -/
theorem ordered_of_parse {text : String} {v : Json} (h : parse text = .ok v) : v.Ordered := by
  rw [parse, parseChars] at h
  dsimp only at h
  split at h
  · next w hw =>
    cases h
    refine Gives.bind ((givesOrdered _).value depthLimit _) (fun r hr => ?_) v hw
    split
    · exact .pure hr
    · exact gives_failNext _ _
  · cases h

end Assay.Json
