import Assay.Proofs.Json
import Mathlib.Data.List.Perm.Basic

/-
  Documents whose members are arranged.

  The encoders of this library list the members of an object as they come.  As a document they are
  kept in the order of their names, and so they are when a text is read: `Json.arranged` puts the
  members of all objects in order, by putting them in one after the other.  What a decoder makes of
  a document should depend on this as little as possible.

  `Json.Rearranges` says what decoders may rely on: leaves and arrays stay as they are, the members
  of an object keep their names and may change places, and those that are in order stay in order.
  Leaving a document as it is (`rearranges_id`) and arranging it (`rearranges_arranged`) are both
  such changes.  So what is proved for every `Rearranges f` holds for a document as it has been
  encoded and for the same document as it is read back from its text, and no decoder has to be
  looked at twice.

  1. Putting members in order.  A member with a new name is put somewhere (`put_perm`), and at the
     end if all names before it are smaller (`put_of_lt`).  Both are carried through a whole list of
     members by an accumulator (`foldl_put_perm`, `foldl_put_of_sorted`): the first says that
     nothing is lost, the second that an order is kept.

  2. Ordered documents.  `Json.Ordered` is the invariant of documents that have been read, and
     nothing is left to arrange in them (`arranged_of_ordered`).

  3. Looking up.  A decoder finds a member by its name.  If names differ, then what is found does
     not depend on the places of members (`lookup_perm`), and a change of the values is a change of
     what is found (`lookup_map`).  `Rearranges.members` puts the two together, which is all that
     the proofs about decoders use.
-/

namespace Assay.Json

/-! ## Putting members in order -/

mutual
/-- The document with the members of all objects in order. -/
def arranged : Json → Json
  | .array items => .array (arrangedItems items)
  | .object members => ofMembers (arrangedMembers members)
  | .null => .null
  | .bool b => .bool b
  | .number n => .number n
  | .string s => .string s
/-- The items, each arranged. -/
def arrangedItems : List Json → List Json
  | [] => []
  | v :: rest => arranged v :: arrangedItems rest
/-- The members, their values arranged. -/
def arrangedMembers : List (String × Json) → List (String × Json)
  | [] => []
  | (k, v) :: rest => (k, arranged v) :: arrangedMembers rest
end

/-- The items of an array are arranged one by one. -/
theorem arrangedItems_eq_map (items : List Json) : arrangedItems items = items.map arranged := by
  induction items with
  | nil => rfl
  | cons v rest ih => rw [arrangedItems, ih, List.map_cons]

/-- The values of members are arranged one by one, under the same names. -/
theorem arrangedMembers_eq_map (members : List (String × Json)) :
    arrangedMembers members = members.map fun m => (m.1, arranged m.2) := by
  induction members with
  | nil => rfl
  | cons m rest ih => rw [arrangedMembers, ih, List.map_cons]

/-- Putting a value under a new name adds a member somewhere. -/
theorem put_perm {name : String} {value : Json} {members : List (String × Json)}
    (h : ∀ m ∈ members, m.1 ≠ name) : (put name value members).Perm ((name, value) :: members) := by
  induction members with
  | nil => exact .refl _
  | cons m rest ih =>
    obtain ⟨k, v⟩ := m
    have hne : ¬ name = k := (h (k, v) List.mem_cons_self).symm
    rw [put]
    by_cases hlt : name < k
    · rw [if_pos hlt]
    · rw [if_neg hlt, if_neg hne]
      have hrest := ih fun m hm => h m (List.mem_cons_of_mem _ hm)
      exact (hrest.cons (k, v)).trans (.swap (name, value) (k, v) rest)

/-- Putting a value under a name behind all others adds it at the end. -/
theorem put_of_lt {name : String} {value : Json} {members : List (String × Json)}
    (h : ∀ m ∈ members, m.1 < name) : put name value members = members ++ [(name, value)] := by
  induction members with
  | nil => rfl
  | cons m rest ih =>
    obtain ⟨k, v⟩ := m
    have hlt : k < name := h (k, v) List.mem_cons_self
    have hnlt : ¬ name < k := fun hlt' => String.lt_irrefl _ (String.lt_trans hlt hlt')
    have hne : ¬ name = k := fun heq => String.lt_irrefl _ (heq ▸ hlt)
    rw [put, if_neg hnlt, if_neg hne, ih fun m hm => h m (List.mem_cons_of_mem _ hm)]
    rfl

/-- Members with different names are all kept, in some order.  Induction on the members; those that
have been put in are named differently too. -/
theorem foldl_put_perm : ∀ (members acc : List (String × Json)),
    ((acc ++ members).map Prod.fst).Nodup →
    (members.foldl (fun acc m => put m.1 m.2 acc) acc).Perm (acc ++ members) := by
  intro members
  induction members with
  | nil =>
    intro acc _
    rw [List.append_nil]
    exact .refl _
  | cons m rest ih =>
    intro acc h
    have hput : (put m.1 m.2 acc).Perm (m :: acc) := by
      refine put_perm fun m' hm' heq => ?_
      rw [List.map_append, List.nodup_append] at h
      exact h.2.2 m'.1 (List.mem_map_of_mem hm') m.1 (List.mem_map_of_mem List.mem_cons_self) heq
    have hmoved : (put m.1 m.2 acc ++ rest).Perm (acc ++ m :: rest) :=
      (hput.append_right rest).trans List.perm_middle.symm
    rw [List.foldl_cons]
    exact (ih _ ((hmoved.map Prod.fst).nodup_iff.mpr h)).trans hmoved

/-- Members in order are kept in order. -/
theorem foldl_put_of_sorted : ∀ (members acc : List (String × Json)),
    ((acc ++ members).map Prod.fst).Pairwise (· < ·) →
    members.foldl (fun acc m => put m.1 m.2 acc) acc = acc ++ members := by
  intro members
  induction members with
  | nil =>
    intro acc _
    exact (List.append_nil acc).symm
  | cons m rest ih =>
    intro acc h
    have hput : put m.1 m.2 acc = acc ++ [m] := by
      refine put_of_lt fun m' hm' => ?_
      rw [List.map_append, List.pairwise_append] at h
      exact h.2.2 m'.1 (List.mem_map_of_mem hm') m.1 (List.mem_map_of_mem List.mem_cons_self)
    have hassoc : acc ++ [m] ++ rest = acc ++ m :: rest := List.append_assoc acc [m] rest
    rw [List.foldl_cons, hput, ih (acc ++ [m]) (hassoc ▸ h), hassoc]

/-- An object whose members are in order has these members. -/
theorem ofMembers_of_sorted {members : List (String × Json)}
    (h : (members.map Prod.fst).Pairwise (· < ·)) : ofMembers members = .object members :=
  congrArg Json.object (foldl_put_of_sorted members [] h)

/-! ## Ordered documents -/

/-- Items are ordered if each of them is. -/
theorem orderedItems_iff {items : List Json} : OrderedItems items ↔ ∀ v ∈ items, v.Ordered := by
  induction items with
  | nil => simp [OrderedItems]
  | cons v rest ih => rw [OrderedItems, ih, List.forall_mem_cons]

theorem orderedMembers_iff {members : List (String × Json)} :
    OrderedMembers members ↔ ∀ m ∈ members, m.2.Ordered := by
  induction members with
  | nil => simp [OrderedMembers]
  | cons m rest ih => rw [OrderedMembers, ih, List.forall_mem_cons]

/-- There is nothing to arrange in an ordered document. -/
theorem arranged_of_ordered {v : Json} (h : v.Ordered) : v.arranged = v := by
  induction v with
  | null => rfl
  | bool b => rfl
  | number n => rfl
  | string s => rfl
  | array items ih =>
    rw [Ordered, orderedItems_iff] at h
    rw [arranged, arrangedItems_eq_map]
    have hsame : items.map arranged = items.map id :=
      List.map_congr_left fun v hv => ih v hv (h v hv)
    rw [hsame, List.map_id]
  | object members ih =>
    rw [Ordered, orderedMembers_iff] at h
    have hsame : arrangedMembers members = members := by
      have hvalues : (members.map fun m => (m.1, arranged m.2)) = members.map id :=
        List.map_congr_left fun m hm => congrArg (Prod.mk m.1) (ih m hm (h.2 m hm))
      rw [arrangedMembers_eq_map, hvalues, List.map_id]
    rw [arranged, hsame, ofMembers_of_sorted h.1]

/-! ## Changes that decoders may overlook -/

/-- The change leaves everything of a document as it is but the places of members, and those only
where they are not in order. -/
structure Rearranges (f : Json → Json) : Prop where
  null : f .null = .null
  bool : ∀ b, f (.bool b) = .bool b
  number : ∀ n, f (.number n) = .number n
  string : ∀ s, f (.string s) = .string s
  array : ∀ items, f (.array items) = .array (items.map f)
  sorted : ∀ members : List (String × Json), (members.map Prod.fst).Pairwise (· < ·) →
    f (.object members) = .object (members.map fun m => (m.1, f m.2))
  object : ∀ members : List (String × Json), (members.map Prod.fst).Nodup →
    ∃ moved, f (.object members) = .object moved ∧ moved.Perm (members.map fun m => (m.1, f m.2))

/-- Nothing is changed. -/
theorem rearranges_id : Rearranges id where
  null := rfl
  bool := fun _ => rfl
  number := fun _ => rfl
  string := fun _ => rfl
  array := fun items => congrArg Json.array (List.map_id items).symm
  sorted := fun members _ => congrArg Json.object (List.map_id members).symm
  object := fun members _ => ⟨members, rfl, List.Perm.of_eq (List.map_id members).symm⟩

/-- Changing the values of members leaves their names. -/
theorem names_map (f : Json → Json) (members : List (String × Json)) :
    (members.map fun m => (m.1, f m.2)).map Prod.fst = members.map Prod.fst := by
  rw [List.map_map]
  rfl

/-- Members are put in order. -/
theorem rearranges_arranged : Rearranges arranged where
  null := rfl
  bool := fun _ => rfl
  number := fun _ => rfl
  string := fun _ => rfl
  array := fun items => congrArg Json.array (arrangedItems_eq_map items)
  sorted := by
    intro members h
    rw [arranged, arrangedMembers_eq_map, ofMembers_of_sorted]
    rw [names_map]
    exact h
  object := by
    intro members h
    rw [arranged, arrangedMembers_eq_map]
    refine ⟨_, rfl, foldl_put_perm _ [] ?_⟩
    rw [List.nil_append, names_map]
    exact h

/-! ## Looking up members -/

/-- The first member with a name counts. -/
theorem lookup_append (name : String) (ms ns : List (String × Json)) :
    lookup name (ms ++ ns) = (lookup name ms).or (lookup name ns) := by
  induction ms with
  | nil => rfl
  | cons m rest ih =>
    obtain ⟨k, v⟩ := m
    rw [List.cons_append, lookup, lookup]
    split
    · rfl
    · exact ih

/-- Under different names, what is found is what is listed. -/
theorem lookup_eq_some_iff {name : String} {v : Json} {members : List (String × Json)}
    (h : (members.map Prod.fst).Nodup) : lookup name members = some v ↔ (name, v) ∈ members := by
  induction members with
  | nil => simp [lookup]
  | cons m rest ih =>
    obtain ⟨k, w⟩ := m
    obtain ⟨hnew, hrest⟩ := List.nodup_cons.mp h
    rw [lookup, List.mem_cons, Prod.mk.injEq]
    by_cases hk : k = name
    · have habsent : ∀ v, (name, v) ∉ rest := by
        intro v hv
        rw [hk] at hnew
        exact hnew (List.mem_map.mpr ⟨(name, v), hv, rfl⟩)
      simp [hk, habsent, eq_comm]
    · simp [hk, Ne.symm hk, ih hrest]

/-- Under a name there is the same wherever the members stand. -/
theorem lookup_perm {ms ns : List (String × Json)} (h : ms.Perm ns)
    (hnodup : (ns.map Prod.fst).Nodup) (name : String) : lookup name ms = lookup name ns := by
  have hnodup' : (ms.map Prod.fst).Nodup := (h.map Prod.fst).nodup_iff.mpr hnodup
  refine Option.ext fun v => ?_
  rw [lookup_eq_some_iff hnodup', lookup_eq_some_iff hnodup, h.mem_iff]

theorem lookup_map (f : Json → Json) (name : String) (members : List (String × Json)) :
    lookup name (members.map fun m => (m.1, f m.2)) = (lookup name members).map f := by
  induction members with
  | nil => rfl
  | cons m rest ih =>
    obtain ⟨k, v⟩ := m
    rw [List.map_cons, lookup, lookup]
    split
    · rfl
    · exact ih

/-- The members of an object with different names, as they are found after a change. -/
theorem Rearranges.members {f : Json → Json} (hf : Rearranges f) {members : List (String × Json)}
    (h : (members.map Prod.fst).Nodup) :
    ∃ moved, f (.object members) = .object moved ∧
      ∀ name, lookup name moved = (lookup name members).map f := by
  obtain ⟨moved, hmoved, hperm⟩ := hf.object members h
  refine ⟨moved, hmoved, fun name => ?_⟩
  rw [lookup_perm hperm ((names_map f members).symm ▸ h), lookup_map]

end Assay.Json
