import Assay.Proofs.Reading

/-
  The indented text of a document is read back.

  It differs from the compact text by blanks only: in front of every item and member stands a new
  line, in front of the end of their container too, and there is a blank behind every colon.  The
  reader skips blanks at these places, so this text is read like the compact one.

  The proof follows the one for the compact text, by the induction on documents that all of these
  proofs use, and reuses its lemmas about rows of items and members.  What is new is only the step
  from a value to the value with blanks in front of it (`ReadsAs.space`), for which the text of a
  value must not start with a blank itself (`starts_indentedChars`).  `newline_indentedItems` and
  `newline_indentedMembers` put a row on lines of its own at any level of indentation, and
  `readsAs_indentedChars` is the induction.

  The result, `parse_indented`, is about the whole text, which ends where the document does.
  Results of tests are written in this form.
-/

namespace Assay.Json

/-- A new line with its indentation is blank. -/
theorem blank_newline (level : Nat) : Blank (newline level) := by
  intro c hc
  rw [newline, List.mem_cons, List.mem_replicate] at hc
  rcases hc with rfl | ⟨-, rfl⟩ <;> rfl

/-- Items on lines of their own. -/
theorem newline_indentedItems (level : Nat) {items : List Json} (h : items ≠ []) :
    newline level ++ indentedItems level items =
      listed (fun v => newline level ++ indentedChars level v) true items := by
  induction items with
  | nil => exact absurd rfl h
  | cons v rest ih =>
    cases rest with
    | nil => exact (List.append_nil _).symm
    | cons w rest =>
      rw [indentedItems, ih (List.cons_ne_nil _ _), ← List.append_assoc]
      rfl

/-- Members on lines of their own. -/
theorem newline_indentedMembers (level : Nat) {members : List (String × Json)} (h : members ≠ []) :
    newline level ++ indentedMembers level members =
      listed (fun m => newline level ++ memberChars (fun v => ' ' :: indentedChars level v) m) true
        members := by
  induction members with
  | nil => exact absurd rfl h
  | cons m rest ih =>
    obtain ⟨k, v⟩ := m
    cases rest with
    | nil => exact (List.append_nil _).symm
    | cons m rest =>
      rw [indentedMembers, ih (List.cons_ne_nil _ _)]
      simp [listed, memberChars]

/-- The text of a readable document starts with no blank. -/
theorem starts_indentedChars {v : Json} {depth : Nat} (level : Nat) (h : v.Readable depth) :
    Starts (v.indentedChars level) := by
  cases v with
  | array items => cases items <;> exact ⟨_, _, rfl, rfl, by decide⟩
  | object members => cases members <;> exact ⟨_, _, rfl, rfl, by decide⟩
  | null => exact starts_compactChars h
  | bool b => cases b <;> exact starts_compactChars h
  | number n => exact starts_compactChars h
  | string s => exact starts_compactChars h

/-- A blank in front of a value is skipped. -/
theorem ReadsAs.space {text : List Char} {depth : Nat} {v : Json} (h : ReadsAs text depth v) :
    ReadsAs (' ' :: text) depth v := by
  intro fuel offset rest hfuel hrest
  rw [List.length_cons] at hfuel
  obtain ⟨fuel, rfl⟩ := Nat.exists_eq_add_one_of_ne_zero (Nat.ne_zero_of_lt hfuel)
  obtain ⟨o, ho⟩ := h (fuel + 1) (offset + 1) rest (by omega) hrest
  have hspace : Blank [' '] := List.forall_mem_singleton.mpr rfl
  have hskip : Cursor.skipSpace ⟨' ' :: text ++ rest, offset⟩ =
    Cursor.skipSpace ⟨text ++ rest, offset + 1⟩ :=
    skipSpace_append hspace (text ++ rest) offset
  refine ⟨o, ?_⟩
  rw [readValue] at ho ⊢
  rw [hskip]
  exact ho

/-- A readable document is read back from its indented text at any level, its members in order. -/
theorem readsAs_indentedChars (v : Json) : ∀ depth level, v.Readable depth →
    ReadsAs (v.indentedChars level) depth v := by
  induction v with
  | null => exact fun depth _ h => readsBack_of_readable _ depth h
  | bool b => cases b <;> exact fun depth _ h => readsBack_of_readable _ depth h
  | number n => exact fun depth _ h => readsBack_of_readable _ depth h
  | string s => exact fun depth _ h => readsBack_of_readable _ depth h
  | array items ih =>
    intro depth level h
    cases depth with
    | zero => exact h.elim
    | succ depth =>
      have hitems : ∀ v ∈ items, v.Readable depth := readableItems_iff.mp h
      cases items with
      | nil => exact readsBack_of_readable (.array []) (depth + 1) h
      | cons v rest =>
        rw [indentedChars, ← List.append_assoc, newline_indentedItems _ (List.cons_ne_nil v rest)]
        exact readsAs_array (blank_newline _) (blank_newline _) (fun _ => .newline _)
          (fun v hv => starts_indentedChars _ (hitems v hv)) fun v hv => ih v hv depth _
            (hitems v hv)
  | object members ih =>
    intro depth level h
    cases depth with
    | zero => exact h.elim
    | succ depth =>
      have hmembers : ∀ m ∈ members, m.2.Readable depth := readableMembers_iff.mp h
      cases members with
      | nil => exact readsBack_of_readable (.object []) (depth + 1) h
      | cons m rest =>
        rw [indentedChars, ← List.append_assoc, newline_indentedMembers _ (List.cons_ne_nil m rest)]
        exact readsAs_object (blank_newline _) (blank_newline _) (fun _ => .newline _)
          fun m hm => (ih m hm depth _ (hmembers m hm)).space

/-- The indented text of a document is read as the document with its members in order. -/
theorem parse_indented {v : Json} (h : v.Readable depthLimit) : parse v.indented = .ok v.arranged :=
  parse_of_readsAs (readsAs_indentedChars v depthLimit 0 h)

end Assay.Json
