import Assay.Pairing
import Mathlib.Data.Finset.Card
import Mathlib.Data.Fintype.EquivFin

/-
  Serving rows one after the other serves all of them whenever this is possible.

  Rows accept columns, and each of them looks for one of its own.  A row takes a column that is
  free, or the column of another row for which a new one is found; columns that have been looked at
  in a search are not looked at again.  This is the search by augmenting paths, with fuel for the
  depth of the recursion.

  A search that succeeds hands its row one more column and leaves every other row with exactly as
  many columns as before (`Gained`).  A search that fails has looked at a set of columns that is
  closed: each of them is owned, and its owner accepts no column outside (`Exhausted`).  Then no
  pairing serves the row and these owners (`Exhausted.no_pairing`): they are one more than the
  columns that they accept.  So the converse of success is not proved by following the code, but by
  counting.

  1. States.  `Owners.Sound` is the invariant: every column is owned by a row that accepts it, and
     no row owns two.

  2. One step.  Taking a free column, and taking one whose owner has found another (`gained_free`,
     `gained_moved`), both are gains for the row that searches.

  3. Whole searches.  `tryColumns_spec` is about the columns of one row, when a search for another
     row gives an answer; `seek_spec` is the induction on the fuel, which has to exceed the number
     of columns that have not been looked at (`unseen`).

  4. Closed sets.  `Exhausted.no_pairing` is the argument by counting, with the finite sets of
     Mathlib.

  5. Serving all rows.  Serving the next row gives it a column, and all rows keep theirs, or leaves
     everything as it is (`serve_cases`).  The result is `unserved_eq_nil_iff`: no row stays without
     a column exactly when there is a pairing that serves every row.
-/

namespace Assay.Pairing

/-! ## States and searches -/

/-- Every column is owned by a row that accepts it, and no row owns two columns. -/
structure Owners.Sound (rows : Nat → List Nat) (o : Owners) : Prop where
  accepts : ∀ k i, o.of? k = some i → k ∈ rows i
  single : ∀ i k k', o.of? k = some i → o.of? k' = some i → k = k'

/-- The change that a successful search for a row makes: one new column for the row itself, which
was not looked at before, and for every other row one column if it had one, else none. -/
structure Gained (rows : Nat → List Nat) (seen : List Nat) (row : Nat) (o o' : Owners) : Prop where
  keeps : ∀ k ∈ seen, o'.of? k = o.of? k
  gains : ∃ j, j ∉ seen ∧ o'.of? j = some row ∧
    ∀ k, o'.of? k = some row → k = j ∨ o.of? k = some row
  accepts : ∀ k i, o'.of? k = some i → k ∈ rows i
  single : ∀ i, i ≠ row → ∀ k k', o'.of? k = some i → o'.of? k' = some i → k = k'
  serves : ∀ k i, o.of? k = some i → ∃ k', o'.of? k' = some i
  owners : ∀ k i, o'.of? k = some i → i = row ∨ ∃ k', o.of? k' = some i

/-- What a failed search leaves behind: the columns that it looked at are owned by rows that accept
nothing but columns that were looked at. -/
structure Exhausted (rows : Nat → List Nat) (seen seen' : List Nat) (o : Owners) : Prop where
  grows : ∀ k ∈ seen, k ∈ seen'
  closed : ∀ k ∈ seen', k ∉ seen → ∃ i, o.of? k = some i ∧ ∀ j ∈ rows i, j ∈ seen'

/-- What a search for a row gives that starts with some columns looked at and has some columns to
try. -/
def Answers (rows : Nat → List Nat) (o : Owners) (row : Nat) (columns seen : List Nat) :
    Option Owners × List Nat → Prop
  | (some o', _) => Gained rows seen row o o'
  | (none, seen') => Exhausted rows seen seen' o ∧ ∀ j ∈ columns, j ∈ seen'

/-- A search that knew more columns to begin with makes the same change. -/
theorem Gained.of_subset {rows : Nat → List Nat} {seen more : List Nat} {row : Nat} {o o' : Owners}
    (hsub : ∀ k ∈ seen, k ∈ more) (h : Gained rows more row o o') : Gained rows seen row o o' := by
  obtain ⟨j, hj, hrow, honly⟩ := h.gains
  exact { h with
    keeps := fun k hk => h.keeps k (hsub k hk)
    gains := ⟨j, fun hk => hj (hsub j hk), hrow, honly⟩ }

/-- Nothing has been looked at in vain if nothing has been looked at. -/
theorem Exhausted.refl (rows : Nat → List Nat) (seen : List Nat) (o : Owners) :
    Exhausted rows seen seen o :=
  ⟨fun _ hk => hk, fun _ hk hk' => absurd hk hk'⟩

/-- What has been looked at in vain first and then is all looked at in vain. -/
theorem Exhausted.trans {rows : Nat → List Nat} {s₁ s₂ s₃ : List Nat} {o : Owners}
    (h₁ : Exhausted rows s₁ s₂ o) (h₂ : Exhausted rows s₂ s₃ o) : Exhausted rows s₁ s₃ o := by
  refine ⟨fun k hk => h₂.grows k (h₁.grows k hk), fun k hk hk' => ?_⟩
  by_cases hmid : k ∈ s₂
  · obtain ⟨i, hi, hrows⟩ := h₁.closed k hmid hk'
    exact ⟨i, hi, fun j hj => h₂.grows j (hrows j hj)⟩
  · exact h₂.closed k hk hmid

/-- A column can be added to what was looked at once its owner has been searched for in vain. -/
theorem Exhausted.cons {rows : Nat → List Nat} {seen seen' : List Nat} {o : Owners} {j other : Nat}
    (hown : o.of? j = some other) (h : Exhausted rows (j :: seen) seen' o)
    (hrows : ∀ k ∈ rows other, k ∈ seen') : Exhausted rows seen seen' o := by
  refine ⟨fun k hk => h.grows k (List.mem_cons_of_mem j hk), fun k hk hk' => ?_⟩
  by_cases hkj : k = j
  · subst hkj
    exact ⟨other, hown, hrows⟩
  · refine h.closed k hk ?_
    rw [List.mem_cons]
    rintro (heq | hmem)
    · exact hkj heq
    · exact hk' hmem

/-! ## One step of a search -/

section Step

variable {rows : Nat → List Nat} {o : Owners} {row j : Nat} {seen : List Nat}

/-- Taking a free column. -/
theorem gained_free (hs : o.Sound rows) (hown : ∀ k, o.of? k = some row → k ∈ seen)
    (hj : j ∈ rows row) (hjs : j ∉ seen) (hfree : o.of? j = none) :
    Gained rows seen row o (o.give j row) := by
  -- A column that somebody owns now is the new one, or was owned by the same row before.
  have hcases : ∀ k i, (o.give j row).of? k = some i → (k = j ∧ i = row) ∨ o.of? k = some i := by
    intro k i hk
    rw [Owners.of?_give] at hk
    split at hk
    · next heq => exact .inl ⟨heq, (Option.some.inj hk).symm⟩
    · exact .inr hk
  have hother : ∀ k, k ≠ j → (o.give j row).of? k = o.of? k := by
    intro k hk
    rw [Owners.of?_give, if_neg hk]
  refine ⟨fun k hk => hother k ?_, ⟨j, hjs, ?_, fun k hk => ?_⟩, fun k i hk => ?_, ?_, ?_, ?_⟩
  · rintro rfl
    exact hjs hk
  · rw [Owners.of?_give, if_pos rfl]
  · exact (hcases k row hk).imp And.left id
  · rcases hcases k i hk with ⟨rfl, rfl⟩ | h
    · exact hj
    · exact hs.accepts k i h
  · intro i hi k k' hk hk'
    have h := (hcases k i hk).resolve_left fun h => hi h.2
    have h' := (hcases k' i hk').resolve_left fun h => hi h.2
    exact hs.single i k k' h h'
  · intro k i hk
    refine ⟨k, ?_⟩
    rw [hother k, hk]
    rintro rfl
    rw [hfree] at hk
    cases hk
  · intro k i hk
    rcases hcases k i hk with ⟨-, rfl⟩ | h
    · exact .inl rfl
    · exact .inr ⟨k, h⟩

/-- Taking the column of another row, for which a new one has been found. -/
theorem gained_moved {other : Nat} {o₁ : Owners} (hs : o.Sound rows)
    (hown : ∀ k, o.of? k = some row → k ∈ seen) (hj : j ∈ rows row) (hjs : j ∉ seen)
    (hother : o.of? j = some other) (h : Gained rows (j :: seen) other o o₁) :
    Gained rows seen row o (o₁.give j row) := by
  have hne : row ≠ other := by
    rintro rfl
    exact hjs (hown j hother)
  have hj₁ : o₁.of? j = some other := by
    rw [h.keeps j List.mem_cons_self, hother]
  have hcases : ∀ k i, (o₁.give j row).of? k = some i →
      (k = j ∧ i = row) ∨ (k ≠ j ∧ o₁.of? k = some i) := by
    intro k i hk
    rw [Owners.of?_give] at hk
    split at hk
    · next heq => exact .inl ⟨heq, (Option.some.inj hk).symm⟩
    · next hkj => exact .inr ⟨hkj, hk⟩
  have hrest : ∀ k, k ≠ j → (o₁.give j row).of? k = o₁.of? k := by
    intro k hk
    rw [Owners.of?_give, if_neg hk]
  -- The other row owned `j` only, so its new column is the only one it keeps.
  obtain ⟨j', hj', hnew, honly⟩ := h.gains
  have hlast : ∀ k, k ≠ j → o₁.of? k = some other → k = j' := by
    intro k hk hk₁
    rcases honly k hk₁ with heq | hold
    · exact heq
    · exact absurd (hs.single other k j hold hother) hk
  have hjj' : j' ≠ j := by
    rintro rfl
    exact hj' List.mem_cons_self
  refine ⟨fun k hk => ?_, ⟨j, hjs, ?_, fun k hk => ?_⟩, fun k i hk => ?_, ?_, ?_, ?_⟩
  · have hkj : k ≠ j := by
      rintro rfl
      exact hjs hk
    rw [hrest k hkj, h.keeps k (List.mem_cons_of_mem j hk)]
  · rw [Owners.of?_give, if_pos rfl]
  · -- What the row owned before lies in `seen`, and has not been touched.
    rcases hcases k row hk with ⟨rfl, -⟩ | ⟨-, hk₁⟩
    · exact .inl rfl
    · obtain ⟨k', hk'⟩ := (h.owners k row hk₁).resolve_left hne
      have hk'₁ : o₁.of? k' = some row := by
        rw [h.keeps k' (List.mem_cons_of_mem j (hown k' hk')), hk']
      rw [h.single row hne k k' hk₁ hk'₁]
      exact .inr hk'
  · rcases hcases k i hk with ⟨rfl, rfl⟩ | ⟨-, hk₁⟩
    · exact hj
    · exact h.accepts k i hk₁
  · intro i hi k k' hk hk'
    obtain ⟨hkj, hk₁⟩ := (hcases k i hk).resolve_left fun h => hi h.2
    obtain ⟨hkj', hk₁'⟩ := (hcases k' i hk').resolve_left fun h => hi h.2
    by_cases hio : i = other
    · subst hio
      rw [hlast k hkj hk₁, hlast k' hkj' hk₁']
    · exact h.single i hio k k' hk₁ hk₁'
  · intro k i hk
    obtain ⟨k', hk'⟩ := h.serves k i hk
    by_cases hkj : k' = j
    · subst hkj
      rw [hj₁] at hk'
      exact ⟨j', by rw [hrest j' hjj', hnew, hk']⟩
    · exact ⟨k', by rw [hrest k' hkj, hk']⟩
  · intro k i hk
    rcases hcases k i hk with ⟨-, rfl⟩ | ⟨-, hk₁⟩
    · exact .inl rfl
    · rcases h.owners k i hk₁ with rfl | hold
      · exact .inr ⟨j, hother⟩
      · exact .inr hold

end Step

/-! ## Whole searches -/

/-- How many columns have not been looked at. -/
def unseen (columns : Nat) (seen : List Nat) : Nat := (Finset.range columns \ seen.toFinset).card

theorem unseen_nil (columns : Nat) : unseen columns [] = columns := by
  rw [unseen, List.toFinset_nil, Finset.sdiff_empty, Finset.card_range]

/-- Looking at a new column leaves fewer columns. -/
theorem unseen_cons_lt {columns j : Nat} {seen : List Nat} (hj : j < columns) (hjs : j ∉ seen) :
    unseen columns (j :: seen) < unseen columns seen := by
  refine Finset.card_lt_card (Finset.ssubset_iff_of_subset ?_ |>.2 ⟨j, ?_, ?_⟩)
  · intro k hk
    rw [Finset.mem_sdiff, List.mem_toFinset, List.mem_cons, not_or] at hk
    rw [Finset.mem_sdiff, List.mem_toFinset]
    exact ⟨hk.1, hk.2.2⟩
  · rw [Finset.mem_sdiff, Finset.mem_range, List.mem_toFinset]
    exact ⟨hj, hjs⟩
  · rw [Finset.mem_sdiff, List.mem_toFinset]
    exact fun h => h.2 List.mem_cons_self

/-- The more has been looked at, the fewer columns are left. -/
theorem unseen_le {columns : Nat} {seen seen' : List Nat} (h : ∀ k ∈ seen, k ∈ seen') :
    unseen columns seen' ≤ unseen columns seen := by
  refine Finset.card_le_card fun k hk => ?_
  rw [Finset.mem_sdiff, List.mem_toFinset] at hk ⊢
  exact ⟨hk.1, fun hs => hk.2 (h k hs)⟩

/-- Trying the columns of a row in order, when a search for another row gives an answer as long as
some column that could be tried has been looked at by then.  Induction on the columns that are
left. -/
theorem tryColumns_spec {rows : Nat → List Nat} {columns fuel : Nat}
    (hbound : ∀ i, ∀ j ∈ rows i, j < columns) {o : Owners} (hs : o.Sound rows)
    (again : Nat → Owners → List Nat → Option Owners × List Nat)
    (hagain : ∀ other seen, (∀ k, o.of? k = some other → k ∈ seen) → unseen columns seen < fuel →
      Answers rows o other (rows other) seen (again other o seen))
    {row : Nat} : ∀ (js seen : List Nat), (∀ j ∈ js, j ∈ rows row) →
      (∀ k, o.of? k = some row → k ∈ seen) → unseen columns seen < fuel + 1 →
      Answers rows o row js seen (tryColumns again row o js seen) := by
  intro js
  induction js with
  | nil =>
    intro seen _ _ _
    rw [tryColumns]
    exact ⟨.refl rows seen o, fun j hj => absurd hj List.not_mem_nil⟩
  | cons j rest ih =>
    intro seen hjs hown hfuel
    have hj : j ∈ rows row := hjs j List.mem_cons_self
    have hrest : ∀ k ∈ rest, k ∈ rows row := fun k hk => hjs k (List.mem_cons_of_mem j hk)
    rw [tryColumns]
    by_cases hseen : j ∈ seen
    · -- A column that has been looked at is passed over.
      rw [if_pos (List.contains_iff_mem.2 hseen)]
      have h := ih seen hrest hown hfuel
      cases hr : tryColumns again row o rest seen with
      | mk found seen' =>
        rw [hr] at h
        cases found with
        | some o' => exact h
        | none => exact ⟨h.1, List.forall_mem_cons.2 ⟨h.1.grows j hseen, h.2⟩⟩
    · rw [if_neg fun hc => hseen (List.contains_iff_mem.1 hc)]
      cases hj? : o.of? j with
      | none => exact gained_free hs hown hj hseen hj?
      | some other =>
        have hless : unseen columns (j :: seen) < fuel := by
          have := unseen_cons_lt (hbound row j hj) hseen
          omega
        have hother := hagain other (j :: seen)
          (fun k hk => (hs.single other k j hk hj?) ▸ List.mem_cons_self) hless
        cases hr : again other o (j :: seen) with
        | mk found seen₁ =>
          rw [hr] at hother
          simp only [hr]
          cases found with
          | some o₁ => exact gained_moved hs hown hj hseen hj? hother
          | none =>
            -- The owner of `j` has no way out; the search goes on and knows more columns.
            have hgone : Exhausted rows seen seen₁ o := hother.1.cons hj? hother.2
            have hjs₁ : j ∈ seen₁ := hother.1.grows j List.mem_cons_self
            have hle : unseen columns seen₁ ≤ unseen columns seen := unseen_le hgone.grows
            have h := ih seen₁ hrest (fun k hk => hgone.grows k (hown k hk)) (by omega)
            show Answers rows o row (j :: rest) seen (tryColumns again row o rest seen₁)
            cases hr' : tryColumns again row o rest seen₁ with
            | mk found seen₂ =>
              rw [hr'] at h
              cases found with
              | some o' => exact h.of_subset hgone.grows
              | none =>
                exact ⟨hgone.trans h.1, List.forall_mem_cons.2 ⟨h.1.grows j hjs₁, h.2⟩⟩

/-- A search with more fuel than there are columns to look at gives an answer.  Induction on the
fuel. -/
theorem seek_spec {rows : Nat → List Nat} {columns : Nat} (hbound : ∀ i, ∀ j ∈ rows i, j < columns)
    {o : Owners} (hs : o.Sound rows) : ∀ (fuel row : Nat) (seen : List Nat),
      (∀ k, o.of? k = some row → k ∈ seen) → unseen columns seen < fuel →
      Answers rows o row (rows row) seen (seek rows fuel row o seen) := by
  intro fuel
  induction fuel with
  | zero =>
    intro row seen _ hfuel
    omega
  | succ fuel ih =>
    intro row seen hown hfuel
    rw [seek]
    exact tryColumns_spec hbound hs (seek rows fuel) ih (rows row) seen (fun _ hj => hj) hown hfuel

/-! ## Closed sets of columns -/

/-- The row that owns a column, or any row. -/
def Owners.owner (o : Owners) (column : Nat) : Nat := (o.of? column).getD 0

/-- After a failed search each column that was looked at has an owner, who accepts only such
columns. -/
theorem Exhausted.owner_spec {rows : Nat → List Nat} {o : Owners} {seen : List Nat}
    (h : Exhausted rows [] seen o) {k : Nat} (hk : k ∈ seen) :
    o.of? k = some (o.owner k) ∧ ∀ j ∈ rows (o.owner k), j ∈ seen := by
  obtain ⟨i, hi, hrows⟩ := h.closed k hk List.not_mem_nil
  have howner : o.owner k = i := by rw [Owners.owner, hi, Option.getD_some]
  rw [howner]
  exact ⟨hi, hrows⟩

/-- A failed search for a row without a column: no pairing gives that row and all the owners a
column each, because they accept only the columns that were looked at, one less than they are
rows. -/
theorem Exhausted.no_pairing {rows : Nat → List Nat} {o : Owners} (hs : o.Sound rows) {row : Nat}
    (hnone : ∀ k, o.of? k ≠ some row) {seen : List Nat} (h : Exhausted rows [] seen o)
    (hrow : ∀ j ∈ rows row, j ∈ seen) (g : Nat → Nat)
    (hg : ∀ i, i = row ∨ (∃ k, o.of? k = some i) → g i ∈ rows i)
    (hinj : ∀ i i', i = row ∨ (∃ k, o.of? k = some i) → i' = row ∨ (∃ k, o.of? k = some i') →
      g i = g i' → i = i') : False := by
  -- The rows in question, of which each one stands for itself.
  let among : Finset Nat := insert row (seen.toFinset.image o.owner)
  have hamong : ∀ i ∈ among, (i = row ∨ ∃ k, o.of? k = some i) ∧ ∀ j ∈ rows i, j ∈ seen := by
    intro i hi
    rcases Finset.mem_insert.1 hi with rfl | hi
    · exact ⟨.inl rfl, hrow⟩
    · obtain ⟨k, hk, rfl⟩ := Finset.mem_image.1 hi
      have hk' := h.owner_spec (List.mem_toFinset.1 hk)
      exact ⟨.inr ⟨k, hk'.1⟩, hk'.2⟩
  have hcard : among.card = seen.toFinset.card + 1 := by
    rw [Finset.card_insert_of_notMem, Finset.card_image_of_injOn]
    · intro k hk k' hk' heq
      have h₁ := (h.owner_spec (List.mem_toFinset.1 hk)).1
      have h₂ := (h.owner_spec (List.mem_toFinset.1 hk')).1
      exact hs.single _ k k' h₁ (heq ▸ h₂)
    · intro hmem
      obtain ⟨k, hk, heq⟩ := Finset.mem_image.1 hmem
      exact hnone k (heq ▸ (h.owner_spec (List.mem_toFinset.1 hk)).1)
  have hle : among.card ≤ seen.toFinset.card := by
    refine Finset.card_le_card_of_injOn g (fun i hi => ?_) (fun i hi i' hi' heq => ?_)
    · have hi := hamong i hi
      exact List.mem_toFinset.2 (hi.2 (g i) (hg i hi.1))
    · exact hinj i i' (hamong i hi).1 (hamong i' hi').1 heq
  omega

/-! ## Serving all rows -/

section Serving

variable {rows : Nat → List Nat} {columns : Nat}

/-- What holds after the first rows have been served: the state is sound and only these rows own
columns. -/
structure Served (rows : Nat → List Nat) (count : Nat) (o : Owners) : Prop where
  sound : o.Sound rows
  owners : ∀ k i, o.of? k = some i → i < count

/-- In the beginning no rows have been served. -/
theorem served_unowned : Served rows 0 unowned := by
  have hnone : ∀ k, unowned.of? k = none := fun _ => rfl
  refine ⟨⟨fun k i h => ?_, fun i k k' h _ => ?_⟩, fun k i h => ?_⟩ <;>
  · rw [hnone] at h
    cases h

/-- Serving the next row either gives it a column, and all rows keep theirs, or leaves everything as
it is, and then the search for the row has failed. -/
theorem serve_cases (hbound : ∀ i, ∀ j ∈ rows i, j < columns) {count : Nat} {o : Owners}
    (h : Served rows count o) :
    Gained rows [] count o (serve rows columns o count) ∨
      serve rows columns o count = o ∧
        ∃ seen, Exhausted rows [] seen o ∧ ∀ j ∈ rows count, j ∈ seen := by
  have hfuel : unseen columns [] < columns + 1 := by
    rw [unseen_nil]
    exact Nat.lt_succ_self columns
  have hown : ∀ k, o.of? k = some count → k ∈ [] := by
    intro k hk
    have := h.owners k count hk
    omega
  have hspec := seek_spec hbound h.sound (columns + 1) count [] hown hfuel
  rw [serve]
  cases hr : seek rows (columns + 1) count o [] with
  | mk found seen =>
    rw [hr] at hspec
    cases found with
    | some o' => exact .inl hspec
    | none => exact .inr ⟨rfl, seen, hspec⟩

/-- The rows served so far own columns after one more row is served, and nothing else does but that
row. -/
theorem Served.serve (hbound : ∀ i, ∀ j ∈ rows i, j < columns) {count : Nat} {o : Owners}
    (h : Served rows count o) : Served rows (count + 1) (serve rows columns o count) := by
  rcases serve_cases hbound h with hg | ⟨heq, -⟩
  · refine ⟨⟨hg.accepts, fun i k k' hk hk' => ?_⟩, fun k i hk => ?_⟩
    · by_cases hi : i = count
      · -- The new row owned nothing before, so it owns its new column only.
        subst hi
        obtain ⟨j, -, -, honly⟩ := hg.gains
        have hnew : ∀ k, (Pairing.serve rows columns o i).of? k = some i → k = j := by
          intro k hk
          refine (honly k hk).resolve_right fun hold => ?_
          exact absurd (h.owners k i hold) (Nat.lt_irrefl i)
        rw [hnew k hk, hnew k' hk']
      · exact hg.single i hi k k' hk hk'
    · rcases hg.owners k i hk with rfl | ⟨k', hk'⟩
      · exact Nat.lt_succ_self i
      · exact Nat.lt_succ_of_lt (h.owners k' i hk')
  · rw [heq]
    exact ⟨h.sound, fun k i hk => Nat.lt_succ_of_lt (h.owners k i hk)⟩

/-- One more row is served behind the others. -/
theorem pair_succ (rows : Nat → List Nat) (count columns : Nat) :
    pair rows (count + 1) columns = serve rows columns (pair rows count columns) count := by
  rw [pair, List.range_succ, List.foldl_append]
  rfl

/-- The first rows have been served once they have been paired. -/
theorem served_pair (hbound : ∀ i, ∀ j ∈ rows i, j < columns) (count : Nat) :
    Served rows count (pair rows count columns) := by
  induction count with
  | zero => exact served_unowned
  | succ count ih =>
    rw [pair_succ]
    exact ih.serve hbound

/-- If some pairing serves the first rows, then serving them in order does. -/
theorem pair_serves (hbound : ∀ i, ∀ j ∈ rows i, j < columns) (g : Nat → Nat) : ∀ count,
    (∀ i < count, g i ∈ rows i) → (∀ i < count, ∀ i' < count, g i = g i' → i = i') →
    ∀ i < count, ∃ k, (pair rows count columns).of? k = some i := by
  intro count
  induction count with
  | zero =>
    intro _ _ i hi
    omega
  | succ count ih =>
    intro hg hinj i hi
    have hold := ih (fun i hi => hg i (by omega)) fun i hi i' hi' => hinj i (by omega) i' (by omega)
    have hserved : Served rows count (pair rows count columns) := served_pair hbound count
    rw [pair_succ]
    rcases serve_cases hbound hserved with hgain | ⟨-, seen, hex, hrow⟩
    · rcases Nat.lt_succ_iff_lt_or_eq.1 hi with hlt | rfl
      · obtain ⟨k, hk⟩ := hold i hlt
        exact hgain.serves k i hk
      · obtain ⟨j, -, hj, -⟩ := hgain.gains
        exact ⟨j, hj⟩
    · -- A failed search contradicts the pairing that is given.
      have hlt : ∀ i, i = count ∨ (∃ k, (pair rows count columns).of? k = some i) →
        i < count + 1 := by
        rintro i (rfl | ⟨k, hk⟩)
        · exact Nat.lt_succ_self i
        · exact Nat.lt_succ_of_lt (hserved.owners k i hk)
      refine (hex.no_pairing hserved.sound (fun k hk => ?_) hrow g (fun i hi => hg i (hlt i hi))
        fun i i' hi hi' => hinj i (hlt i hi) i' (hlt i' hi')).elim
      exact absurd (hserved.owners k count hk) (Nat.lt_irrefl count)

/-- A row has a column if one of the columns in range is its own. -/
theorem serves_iff {o : Owners} {row : Nat} :
    o.serves columns row = true ↔ ∃ k < columns, o.of? k = some row := by
  simp only [Owners.serves, List.any_eq_true, List.mem_range, beq_iff_eq]

/-- No row stays without a column exactly when there is a pairing that serves every row. -/
theorem unserved_eq_nil_iff (hbound : ∀ i, ∀ j ∈ rows i, j < columns) (count : Nat) :
    unserved rows count columns = [] ↔
      ∃ g : Fin count → Fin columns, Function.Injective g ∧ ∀ i : Fin count,
      (g i : Nat) ∈ rows i := by
  have hserved : Served rows count (pair rows count columns) := served_pair hbound count
  have hall : unserved rows count columns = [] ↔
      ∀ i < count, ∃ k < columns, (pair rows count columns).of? k = some i := by
    simp only [unserved, List.filter_eq_nil_iff, List.mem_range, Bool.not_eq_true',
      Bool.not_eq_false, serves_iff]
  rw [hall]
  constructor
  · intro h
    choose! f hf hown using h
    refine ⟨fun i => ⟨f i, hf i i.2⟩, fun i i' heq => ?_, fun i => ?_⟩
    · -- A column has one owner only.
      have heq : f i = f i' := congrArg Fin.val heq
      have h₁ := hown i i.2
      rw [heq, hown i' i'.2] at h₁
      exact Fin.ext (Option.some.inj h₁).symm
    · exact hserved.sound.accepts _ _ (hown i i.2)
  · rintro ⟨g, hinj, hg⟩ i hi
    let f : Nat → Nat := fun i => if h : i < count then g ⟨i, h⟩ else 0
    have hf : ∀ i, ∀ h : i < count, f i = g ⟨i, h⟩ := fun i h => dif_pos h
    obtain ⟨k, hk⟩ := pair_serves hbound f count
      (fun i hi => by rw [hf i hi]; exact hg ⟨i, hi⟩)
      (fun i hi i' hi' heq => by
        rw [hf i hi, hf i' hi'] at heq
        exact congrArg Fin.val (hinj (Fin.ext heq))) i hi
    exact ⟨k, hbound i k (hserved.sound.accepts k i hk), hk⟩

end Serving

end Assay.Pairing
