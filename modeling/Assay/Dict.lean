/-
  Dictionaries with text keys, in the order of their keys.

  Headers, query parameters, variables, captures and mock definitions are all dictionaries: a list
  of entries whose keys increase strictly, the order being that of code points.  The order is part
  of the type, because it shows: it is the order in which query parameters and headers are sent,
  captures are taken and definitions are written out.

  `get?` is the view through which an operation is described: `insert` changes it at one key,
  `ofList` lets the last entry of a key count, `mapValues` changes every value in place.

  With the keys in order there is only one way to write a dictionary down, so two dictionaries are
  equal as soon as they have the same entries (`Dict.ext`), and equality of records that contain
  them is decidable.  An insertion is made on the list of entries (`insertEntry`); `get?_insert` is
  what everybody else needs to know about it.  `traverseEntries` goes through the values with a
  function that may have effects, in the order of the keys, and keeps the keys.

  More is shown in `Assay.Proofs.Dictionary`: dictionaries with equal views are equal, insertions at
  different keys commute, and inserting a list of entries leaves what the last entry of each key
  says.
-/

namespace Assay

/-- A dictionary: entries in strictly increasing order of their keys. -/
structure Dict (α : Type) where
  entries : List (String × α)
  sorted : entries.Pairwise (fun a b => a.1 < b.1)

namespace Dict

variable {α β : Type}

instance [DecidableEq α] : DecidableEq (Dict α) := fun a b =>
  decidable_of_iff (a.entries = b.entries) (by cases a; cases b; simp)

instance [Repr α] : Repr (Dict α) := ⟨fun d n => reprPrec d.entries n⟩

/-- Two dictionaries with the same entries are equal. -/
theorem ext {a b : Dict α} (h : a.entries = b.entries) : a = b := by
  cases a; cases b; simp_all

/-- The dictionary without entries. -/
def empty : Dict α := ⟨[], .nil⟩

instance : Inhabited (Dict α) := ⟨empty⟩

/-- There are no entries. -/
def isEmpty (d : Dict α) : Bool := d.entries.isEmpty

/-- The keys, in order. -/
def keys (d : Dict α) : List String := d.entries.map Prod.fst

/-- The value under a key. -/
def get? (d : Dict α) (key : String) : Option α :=
  (d.entries.find? fun e => e.1 == key).map Prod.snd

/-! ## Inserting -/

/-- Puts an entry at its place in a list of entries; a value already there is replaced. -/
def insertEntry (key : String) (value : α) : List (String × α) → List (String × α)
  | [] => [(key, value)]
  | e :: rest =>
    if key < e.1 then (key, value) :: e :: rest
    else if key = e.1 then (key, value) :: rest
    else e :: insertEntry key value rest

/-- The keys after inserting are the old ones and the new one. -/
theorem mem_insertEntry {key : String} {value : α} {es : List (String × α)} {e : String × α}
    (h : e ∈ insertEntry key value es) : e = (key, value) ∨ e ∈ es := by
  induction es with
  | nil => simpa [insertEntry] using h
  | cons d rest ih =>
    unfold insertEntry at h
    split at h
    · simpa using h
    · split at h
      · rcases List.mem_cons.1 h with h | h
        · exact .inl h
        · exact .inr (List.mem_cons_of_mem _ h)
      · rcases List.mem_cons.1 h with h | h
        · exact .inr (h ▸ List.mem_cons_self)
        · rcases ih h with h | h
          · exact .inl h
          · exact .inr (List.mem_cons_of_mem _ h)

/-- Inserting keeps the entries in order. -/
theorem sorted_insertEntry {key : String} {value : α} {es : List (String × α)}
    (h : es.Pairwise (fun a b => a.1 < b.1)) :
    (insertEntry key value es).Pairwise (fun a b => a.1 < b.1) := by
  induction es with
  | nil => simp [insertEntry]
  | cons d rest ih =>
    have hd := List.pairwise_cons.1 h
    unfold insertEntry
    split
    · next hlt =>
      refine List.pairwise_cons.2 ⟨fun e he => ?_, h⟩
      rcases List.mem_cons.1 he with he | he
      · exact he ▸ hlt
      · exact String.lt_trans hlt (hd.1 e he)
    · next hnlt =>
      split
      · next heq => exact List.pairwise_cons.2 ⟨fun e he => heq ▸ hd.1 e he, hd.2⟩
      · next hne =>
        refine List.pairwise_cons.2 ⟨fun e he => ?_, ih hd.2⟩
        rcases mem_insertEntry he with he | he
        · -- The new key is neither below nor equal to the first one, so it comes after it.
          subst he
          have hle : d.1 ≤ key := String.not_lt.1 hnlt
          exact Std.lt_of_le_of_ne hle (Ne.symm hne)
        · exact hd.1 e he

/-- Puts a value under a key. -/
def insert (d : Dict α) (key : String) (value : α) : Dict α :=
  ⟨insertEntry key value d.entries, sorted_insertEntry d.sorted⟩

/-- The entry under a name after inserting: the new one under its key, and the old one under any
other. -/
theorem find?_insertEntry (key : String) (value : α) (name : String) (es : List (String × α)) :
    (insertEntry key value es).find? (fun e => e.1 == name) =
      if name = key then some (key, value) else es.find? fun e => e.1 == name := by
  induction es with
  | nil =>
    by_cases h : name = key
    · simp [insertEntry, h]
    · simp [insertEntry, h, Ne.symm h]
  | cons e rest ih =>
    unfold insertEntry
    split
    · by_cases h : name = key
      · simp [h]
      · simp [h, Ne.symm h]
    · split
      · next heq =>
        by_cases h : name = key
        · simp [h]
        · simp [← heq, h, Ne.symm h]
      · next hne =>
        rw [List.find?_cons, ih, List.find?_cons]
        by_cases h : name = key
        · rw [if_pos h, h, beq_false_of_ne (Ne.symm hne), if_pos rfl]
        · rw [if_neg h, if_neg h]

/-- Inserting changes the value under one key. -/
@[simp] theorem get?_insert (d : Dict α) (key : String) (value : α) (name : String) :
    (d.insert key value).get? name = if name = key then some value else d.get? name := by
  rw [get?, insert, find?_insertEntry, get?]
  split <;> rfl

/-- A dictionary with the given entries; of entries with one key the last one counts. -/
def ofList (es : List (String × α)) : Dict α := es.foldl (fun d e => d.insert e.1 e.2) empty

/-! ## Changing the values -/

/-- Applies a function to every value; the keys stay. -/
def mapValues (f : α → β) (d : Dict α) : Dict β where
  entries := d.entries.map fun e => (e.1, f e.2)
  sorted := by
    refine List.pairwise_map.2 ?_
    exact d.sorted

/-- The keys stay as they are. -/
@[simp] theorem keys_mapValues (f : α → β) (d : Dict α) : (d.mapValues f).keys = d.keys := by
  simp [keys, mapValues, Function.comp_def]

/-- Two functions that agree on the values change them in the same way. -/
theorem mapValues_congr {f g : α → β} {d : Dict α} (h : ∀ e ∈ d.entries, f e.2 = g e.2) :
    d.mapValues f = d.mapValues g :=
  ext (List.map_congr_left fun e he => congrArg (Prod.mk e.1) (h e he))

/-- Applies a function that can fail to every value, in order; the first failure counts. -/
def traverseEntries {ε : Type} (f : String → α → Except ε β) :
    List (String × α) → Except ε (List (String × β))
  | [] => .ok []
  | (k, v) :: rest => do
    let w ← f k v
    let ws ← traverseEntries f rest
    return (k, w) :: ws

end Dict

end Assay
