import Assay.Dict
import Mathlib.Data.List.Sort

/-
  Dictionaries as functions from keys to values.

  A dictionary is a list of entries whose keys increase, and it carries the proof of that.  So it is
  determined by what it holds under each key (`Dict.ext_get?`), and equations between dictionaries
  are proved one key at a time, without looking at the order of entries again.

  1. Looking up.  The entries are what is found under the keys (`mem_entries_iff`), since in entries
     in order the one under a key is the only one (`find?_of_sorted`).

  2. Putting in several entries.  `Dict.update` puts them in one after the other, and the later one
     counts.  What is under a key afterwards depends on what was under it before and on the entries,
     and on nothing else (`get?_update_of_not_mem`, `get?_update_congr`).  Entries under different
     keys can be put in in either order (`update_comm`); this is what lets two tests that capture
     different variables be exchanged.

  3. Dictionaries from entries.  Entries in order are put in behind each other
     (`entries_update_of_sorted`), so a dictionary is made of its own entries (`ofList_entries`), as
     when it is read back from a document.
-/

namespace Assay.Dict

variable {α : Type}

/-! ## Looking up -/

/-- In entries in order, the one under a key is the only one. -/
theorem find?_of_sorted {es : List (String × α)} (hsorted : es.Pairwise fun a b => a.1 < b.1)
    {e : String × α} (he : e ∈ es) : es.find? (fun e' => e'.1 == e.1) = some e := by
  induction es with
  | nil => exact absurd he List.not_mem_nil
  | cons d rest ih =>
    obtain ⟨hfirst, hrest⟩ := List.pairwise_cons.mp hsorted
    rcases List.mem_cons.mp he with rfl | he
    · exact List.find?_cons_of_pos (beq_self_eq_true _)
    · have hne : (d.1 == e.1) = false :=
        beq_false_of_ne fun heq => absurd (heq ▸ hfirst e he) (String.lt_irrefl _)
      rw [List.find?_cons, hne]
      exact ih hrest he

/-- The entries are what is found under the keys. -/
theorem mem_entries_iff {d : Dict α} {key : String} {value : α} :
    (key, value) ∈ d.entries ↔ d.get? key = some value := by
  constructor
  · intro h
    rw [get?, find?_of_sorted d.sorted h]
    rfl
  · intro h
    obtain ⟨e, he, rfl⟩ := Option.map_eq_some_iff.mp h
    have hfound : (e.1 == key) = true := List.find?_some (p := fun e : String × α => e.1 == key) he
    have hkey : e.1 = key := eq_of_beq hfound
    rw [← hkey]
    exact List.mem_of_find?_eq_some he

/-- A key is one under which something is found. -/
theorem mem_keys_iff {d : Dict α} {key : String} : key ∈ d.keys ↔ (d.get? key).isSome = true := by
  rw [keys, List.mem_map, Option.isSome_iff_exists]
  constructor
  · rintro ⟨⟨_, value⟩, he, rfl⟩
    exact ⟨value, mem_entries_iff.mp he⟩
  · rintro ⟨value, hvalue⟩
    exact ⟨(key, value), mem_entries_iff.mpr hvalue, rfl⟩

/-- Dictionaries that hold the same under every key are equal. -/
theorem ext_get? {a b : Dict α} (h : ∀ key, a.get? key = b.get? key) : a = b := by
  have hirrefl : Std.Irrefl fun a b : String × α => a.1 < b.1 := ⟨fun e => String.lt_irrefl e.1⟩
  have hantisymm : Std.Antisymm fun a b : String × α => a.1 < b.1 :=
    ⟨fun _ _ hab hba => absurd (String.lt_trans hab hba) (String.lt_irrefl _)⟩
  refine ext (a.sorted.eq_of_mem_iff b.sorted fun e => ?_)
  rw [mem_entries_iff, mem_entries_iff, h e.1]

/-! ## Putting in several entries -/

/-- Puts some entries into a dictionary, one after the other. -/
def update (d : Dict α) (es : List (String × α)) : Dict α :=
  es.foldl (fun d e => d.insert e.1 e.2) d

@[simp] theorem update_nil (d : Dict α) : d.update [] = d := rfl

@[simp] theorem update_cons (d : Dict α) (e : String × α) (es : List (String × α)) :
    d.update (e :: es) = (d.insert e.1 e.2).update es := rfl

theorem update_append (d : Dict α) (es fs : List (String × α)) :
    d.update (es ++ fs) = (d.update es).update fs := List.foldl_append

/-- Nothing changes under other keys. -/
theorem get?_update_of_not_mem {es : List (String × α)} {key : String} : ∀ {d : Dict α},
    (∀ e ∈ es, e.1 ≠ key) → (d.update es).get? key = d.get? key := by
  induction es with
  | nil => exact fun _ => rfl
  | cons e rest ih =>
    intro d h
    have hne : key ≠ e.1 := (h e List.mem_cons_self).symm
    rw [update_cons, ih fun e' he' => h e' (List.mem_cons_of_mem _ he'), get?_insert, if_neg hne]

/-- What is under a key afterwards depends on what was under it before. -/
theorem get?_update_congr {es : List (String × α)} {key : String} : ∀ {d d' : Dict α},
    d.get? key = d'.get? key → (d.update es).get? key = (d'.update es).get? key := by
  induction es with
  | nil => exact id
  | cons e rest ih =>
    intro d d' h
    have hfirst : (d.insert e.1 e.2).get? key = (d'.insert e.1 e.2).get? key := by
      rw [get?_insert, get?_insert, h]
    exact ih hfirst

/-- The keys afterwards are those from before and those of the entries. -/
theorem mem_keys_update {es : List (String × α)} {key : String} : ∀ {d : Dict α},
    key ∈ (d.update es).keys ↔ key ∈ d.keys ∨ key ∈ es.map Prod.fst := by
  induction es with
  | nil => simp
  | cons e rest ih =>
    intro d
    have hinsert : key ∈ (d.insert e.1 e.2).keys ↔ key = e.1 ∨ key ∈ d.keys := by
      rw [mem_keys_iff, mem_keys_iff, get?_insert]
      by_cases hkey : key = e.1 <;> simp [hkey]
    rw [update_cons, ih, hinsert, List.map_cons, List.mem_cons, or_comm (a := key = e.1), or_assoc]

/-- Entries under different keys can be put in in either order. -/
theorem update_comm {es fs : List (String × α)} (h : ∀ e ∈ es, ∀ f ∈ fs, e.1 ≠ f.1) (d : Dict α) :
    (d.update es).update fs = (d.update fs).update es := by
  refine ext_get? fun key => ?_
  by_cases hkey : ∃ e ∈ es, e.1 = key
  · -- The key is one of the first entries, and the others leave it alone.
    obtain ⟨e, he, rfl⟩ := hkey
    have hother : ∀ f ∈ fs, f.1 ≠ e.1 := fun f hf => (h e he f hf).symm
    rw [get?_update_of_not_mem hother]
    exact get?_update_congr (get?_update_of_not_mem hother).symm
  · have hother : ∀ e ∈ es, e.1 ≠ key := fun e he heq => hkey ⟨e, he, heq⟩
    rw [get?_update_of_not_mem (d := d.update fs) hother]
    exact get?_update_congr (get?_update_of_not_mem hother)

/-! ## Dictionaries from entries -/

/-- An entry behind all others is put in at the end. -/
theorem insertEntry_of_lt {key : String} {value : α} {es : List (String × α)}
    (h : ∀ e ∈ es, e.1 < key) :
    insertEntry key value es = es ++ [(key, value)] := by
  induction es with
  | nil => rfl
  | cons e rest ih =>
    have hlt : e.1 < key := h e List.mem_cons_self
    have hnlt : ¬ key < e.1 := fun hlt' => String.lt_irrefl _ (String.lt_trans hlt hlt')
    have hne : ¬ key = e.1 := fun heq => String.lt_irrefl _ (heq ▸ hlt)
    rw [insertEntry, if_neg hnlt, if_neg hne, ih fun e he => h e (List.mem_cons_of_mem _ he)]
    rfl

/-- Entries in order are put in behind each other. -/
theorem entries_update_of_sorted : ∀ {es : List (String × α)} {d : Dict α},
    (d.entries ++ es).Pairwise (fun a b => a.1 < b.1) →
    (d.update es).entries = d.entries ++ es := by
  intro es
  induction es with
  | nil => exact fun _ => (List.append_nil _).symm
  | cons e rest ih =>
    intro d h
    have hinsert : (d.insert e.1 e.2).entries = d.entries ++ [e] :=
      insertEntry_of_lt fun e' he' => (List.pairwise_append.mp h).2.2 e' he' e List.mem_cons_self
    have hassoc : d.entries ++ [e] ++ rest = d.entries ++ e :: rest :=
      List.append_assoc d.entries [e] rest
    rw [update_cons, ih (by rw [hinsert, hassoc]; exact h), hinsert, hassoc]

/-- A dictionary is made of its entries. -/
theorem ofList_entries (d : Dict α) : ofList d.entries = d :=
  ext (entries_update_of_sorted (d := empty) d.sorted)

/-- What a dictionary holds has been put in. -/
theorem mem_of_mem_update {es : List (String × α)} {e : String × α} : ∀ {d : Dict α},
    e ∈ (d.update es).entries → e ∈ d.entries ∨ e ∈ es := by
  induction es with
  | nil => exact fun h => .inl h
  | cons e' rest ih =>
    intro d h
    rcases ih h with h | h
    · rcases mem_insertEntry h with rfl | h
      · exact .inr List.mem_cons_self
      · exact .inl h
    · exact .inr (List.mem_cons_of_mem _ h)

end Assay.Dict
