import Assay.Proofs.Pairing
import Mathlib.Data.Finset.Prod
import Mathlib.Data.Finset.Max
import Mathlib.Order.Lattice.Nat

/-
  Serving rows one after the other gives a largest pairing, after every row.

  Rows look for columns that they accept, one row after the other, and a row may take over the
  column of another one that can go elsewhere (`seek`, `serve`).  What this should give is a pairing
  that is as large as possible, and not only in the end: whether a row gets a column is decided when
  its turn comes, and the later rows do not change it.

  A search that succeeds adds one pair, and one more row allows one more pair at most.  A search
  that fails has looked at a closed set of columns; then every pairing of the rows so far and the
  new one can be changed into one without the new row that is as large (`Exhausted.exchange`): the
  columns of the closed set are given back to their owners.  So the size of a largest pairing stays
  what it is exactly if the row gets no column, and a row that gets one keeps having one.

  1. Pairings.  `OneToOne` is a finite set of pairs in which no row and no column occurs twice, and
     `sizes` are the sizes of all such sets.  There is a largest one (`isGreatest_largest`), and it
     grows by one at most with one more row (`OneToOne.card_le_succ`).

  2. Owners.  The state of the search says who owns each column; as a set of pairs this is a pairing
     of the rows that have been served (`Served.oneToOne`).

  3. Serving all rows.  `serve_spec` is one row: the pairing stays one, the size of a largest one is
     followed, and the row has a column or there is an `Exhausted` set.  `isGreatest_pair` is the
     induction on the rows.  From it comes which rows stay without a column, in terms of sizes alone
     (`unserved_eq`), and how many (`length_unserved`).

  4. Searches without fuel.  `Search` describes a search by rules, and leaves no choice
     (`Search.unique`).  The fuel of `seek` suffices for it whoever owns the columns, sound or not,
     because the columns that are looked at are never looked at again (`seek_search`).
-/

namespace Assay.Pairing

/-! ## Pairings -/

/-- Some pairs of a row and a column: the row is one of the first ones and accepts the column, and
neither a row nor a column is in two pairs. -/
structure OneToOne (accepts : Nat → Nat → Prop) (count : Nat) (p : Finset (Nat × Nat)) : Prop where
  among : ∀ x ∈ p, x.1 < count
  accepted : ∀ x ∈ p, accepts x.1 x.2
  rowOnce : ∀ x ∈ p, ∀ y ∈ p, x.1 = y.1 → x = y
  columnOnce : ∀ x ∈ p, ∀ y ∈ p, x.2 = y.2 → x = y

/-- The sizes of the pairings of the first rows. -/
def sizes (accepts : Nat → Nat → Prop) (count : Nat) : Set Nat :=
  {n | ∃ p, OneToOne accepts count p ∧ p.card = n}

/-- The size of a largest pairing of the first rows. -/
noncomputable def largest (accepts : Nat → Nat → Prop) (count : Nat) : Nat :=
  sSup (sizes accepts count)

section Sizes

variable {accepts : Nat → Nat → Prop} {count : Nat} {p : Finset (Nat × Nat)}

/-- Some pairs of a pairing are a pairing. -/
theorem OneToOne.subset {q : Finset (Nat × Nat)} (h : OneToOne accepts count p) (hq : q ⊆ p) :
    OneToOne accepts count q :=
  ⟨fun x hx => h.among x (hq hx), fun x hx => h.accepted x (hq hx),
    fun x hx y hy => h.rowOnce x (hq hx) y (hq hy),
    fun x hx y hy => h.columnOnce x (hq hx) y (hq hy)⟩

/-- A pairing of the first rows is one of more rows. -/
theorem OneToOne.mono {more : Nat} (hle : count ≤ more) (h : OneToOne accepts count p) :
    OneToOne accepts more p :=
  { h with among := fun x hx => Nat.lt_of_lt_of_le (h.among x hx) hle }

/-- Two pairings without a row or a column in common make up one. -/
theorem OneToOne.union {q : Finset (Nat × Nat)} (hp : OneToOne accepts count p)
    (hq : OneToOne accepts count q) (hrows : ∀ x ∈ p, ∀ y ∈ q, x.1 ≠ y.1)
    (hcolumns : ∀ x ∈ p, ∀ y ∈ q, x.2 ≠ y.2) : OneToOne accepts count (p ∪ q) where
  among := Finset.forall_mem_union.mpr ⟨hp.among, hq.among⟩
  accepted := Finset.forall_mem_union.mpr ⟨hp.accepted, hq.accepted⟩
  rowOnce := by
    intro x hx y hy heq
    rcases Finset.mem_union.mp hx with hx | hx <;> rcases Finset.mem_union.mp hy with hy | hy
    · exact hp.rowOnce x hx y hy heq
    · exact absurd heq (hrows x hx y hy)
    · exact absurd heq.symm (hrows y hy x hx)
    · exact hq.rowOnce x hx y hy heq
  columnOnce := by
    intro x hx y hy heq
    rcases Finset.mem_union.mp hx with hx | hx <;> rcases Finset.mem_union.mp hy with hy | hy
    · exact hp.columnOnce x hx y hy heq
    · exact absurd heq (hcolumns x hx y hy)
    · exact absurd heq.symm (hcolumns y hy x hx)
    · exact hq.columnOnce x hx y hy heq

/-- No pairing has more pairs than there are rows. -/
theorem OneToOne.card_le (h : OneToOne accepts count p) : p.card ≤ count := by
  have hle : p.card ≤ (Finset.range count).card :=
    Finset.card_le_card_of_injOn Prod.fst (fun x hx => Finset.mem_range.mpr (h.among x hx))
      (fun x hx y hy => h.rowOnce x hx y hy)
  rwa [Finset.card_range] at hle

/-- There is a largest size. -/
theorem isGreatest_largest (accepts : Nat → Nat → Prop) (count : Nat) :
    IsGreatest (sizes accepts count) (largest accepts count) := by
  have hne : (sizes accepts count).Nonempty :=
    ⟨0, ∅, ⟨by simp, by simp, by simp, by simp⟩, Finset.card_empty⟩
  have hbdd : BddAbove (sizes accepts count) := by
    refine ⟨count, ?_⟩
    rintro n ⟨p, hp, rfl⟩
    exact hp.card_le
  exact ⟨Nat.sSup_mem hne hbdd, fun n hn => le_csSup hbdd hn⟩

theorem largest_eq {size : Nat} (h : IsGreatest (sizes accepts count) size) :
    largest accepts count = size := (isGreatest_largest accepts count).unique h

/-- A pairing has at most as many pairs as there are rows. -/
theorem largest_le (accepts : Nat → Nat → Prop) (count : Nat) : largest accepts count ≤ count := by
  obtain ⟨p, hp, hcard⟩ := (isGreatest_largest accepts count).1
  exact hcard ▸ hp.card_le

/-- One more row allows one more pair at most. -/
theorem OneToOne.card_le_succ {size : Nat} (hmax : size ∈ upperBounds (sizes accepts count))
    (h : OneToOne accepts (count + 1) p) : p.card ≤ size + 1 := by
  let old := p.filter fun x => x.1 ≠ count
  let new := p.filter fun x => ¬x.1 ≠ count
  have hold : old.card ≤ size := by
    refine hmax ⟨old, { h.subset (Finset.filter_subset _ p) with among := fun x hx => ?_ }, rfl⟩
    obtain ⟨hxp, hne⟩ := Finset.mem_filter.mp hx
    exact Nat.lt_of_le_of_ne (Nat.le_of_lt_succ (h.among x hxp)) hne
  have hnew : new.card ≤ 1 := by
    refine Finset.card_le_one.mpr fun x hx y hy => ?_
    obtain ⟨hxp, hxc⟩ := Finset.mem_filter.mp hx
    obtain ⟨hyp, hyc⟩ := Finset.mem_filter.mp hy
    exact h.rowOnce x hxp y hyp ((not_not.mp hxc).trans (not_not.mp hyc).symm)
  have hsum : old.card + new.card = p.card := Finset.card_filter_add_card_filter_not _
  omega

end Sizes

/-! ## The pairing of the owners -/

/-- The pairs that owners make up. -/
def Owners.pairing (o : Owners) (columns : Nat) : Finset (Nat × Nat) :=
  (Finset.range columns).filterMap (fun j => (o.of? j).map fun i => (i, j)) (by
    intro j j' x hx hx'
    obtain ⟨i, -, rfl⟩ := Option.map_eq_some_iff.mp hx
    obtain ⟨i', -, heq⟩ := Option.map_eq_some_iff.mp hx'
    exact (Prod.mk.inj heq).2.symm)

/-- A column is paired with its owner. -/
theorem Owners.mem_pairing {o : Owners} {columns : Nat} {x : Nat × Nat} :
    x ∈ o.pairing columns ↔ x.2 < columns ∧ o.of? x.2 = some x.1 := by
  obtain ⟨i, j⟩ := x
  simp only [Owners.pairing, Finset.mem_filterMap, Finset.mem_range, Option.map_eq_some_iff,
    Prod.mk.injEq]
  constructor
  · rintro ⟨k, hk, i', hi', rfl, rfl⟩
    exact ⟨hk, hi'⟩
  · rintro ⟨hj, hi⟩
    exact ⟨j, hj, i, hi, rfl, rfl⟩

section Serving

variable {rows : Nat → List Nat} {columns count : Nat} {o : Owners}

/-- Rows that have been served, with columns that they own, form a pairing. -/
theorem Served.oneToOne_owned (h : Served rows count o) {p : Finset (Nat × Nat)}
    (howns : ∀ x ∈ p, o.of? x.2 = some x.1) : OneToOne (fun i j => j ∈ rows i) count p where
  among := fun x hx => h.owners _ _ (howns x hx)
  accepted := fun x hx => h.sound.accepts _ _ (howns x hx)
  rowOnce := by
    intro x hx y hy heq
    have hy' := howns y hy
    rw [← heq] at hy'
    exact Prod.ext heq (h.sound.single x.1 x.2 y.2 (howns x hx) hy')
  columnOnce := by
    intro x hx y hy heq
    have hx' := howns x hx
    rw [heq, howns y hy] at hx'
    exact Prod.ext (Option.some.inj hx').symm heq

/-- All rows that have been served form a pairing with their columns. -/
theorem Served.oneToOne (h : Served rows count o) :
    OneToOne (fun i j => j ∈ rows i) count (o.pairing columns) :=
  h.oneToOne_owned fun _ hx => (Owners.mem_pairing.mp hx).2

/-- The rows of the pairing are those that have been served. -/
theorem Owners.mem_image_pairing {i : Nat} :
    i ∈ (o.pairing columns).image Prod.fst ↔ o.serves columns i = true := by
  rw [Finset.mem_image, serves_iff]
  constructor
  · rintro ⟨x, hx, rfl⟩
    exact ⟨x.2, Owners.mem_pairing.mp hx⟩
  · rintro ⟨j, hj, hi⟩
    exact ⟨(i, j), Owners.mem_pairing.mpr ⟨hj, hi⟩, rfl⟩

/-- Rows that have been served are as many as their columns. -/
theorem Served.card_image (h : Served rows count o) :
    ((o.pairing columns).image Prod.fst).card = (o.pairing columns).card :=
  Finset.card_image_of_injOn fun x hx y hy => h.oneToOne.rowOnce x hx y hy

/-- The columns that were looked at, with their owners. -/
def Owners.restored (o : Owners) (seen : List Nat) : Finset (Nat × Nat) :=
  seen.toFinset.image fun k => (o.owner k, k)

theorem Owners.mem_restored {seen : List Nat} {x : Nat × Nat} :
    x ∈ o.restored seen ↔ x.2 ∈ seen ∧ x.1 = o.owner x.2 := by
  rw [Owners.restored, Finset.mem_image]
  constructor
  · rintro ⟨k, hk, rfl⟩
    exact ⟨List.mem_toFinset.mp hk, rfl⟩
  · rintro ⟨hk, howner⟩
    exact ⟨x.2, List.mem_toFinset.mpr hk, Prod.ext howner.symm rfl⟩

/-- There are as many columns given back as have been looked at. -/
theorem Owners.card_restored (o : Owners) (seen : List Nat) :
    (o.restored seen).card = seen.toFinset.card :=
  Finset.card_image_of_injective _ fun _ _ heq => (Prod.mk.inj heq).2

/-- After a search has failed, the columns that were looked at can all go back to their owners. -/
theorem Exhausted.restored (hs : Served rows count o) {seen : List Nat}
    (h : Exhausted rows [] seen o) :
    OneToOne (fun i j => j ∈ rows i) count (o.restored seen) := by
  refine hs.oneToOne_owned fun x hx => ?_
  obtain ⟨hseen, howner⟩ := Owners.mem_restored.mp hx
  rw [howner]
  exact (h.owner_spec hseen).1

/-- After a search has failed, a pairing of the rows so far and the new row need not have the new
row: the columns that were looked at go back to their owners.  No other pair loses its row by this,
because the owners and the new row accept only columns that were looked at. -/
theorem Exhausted.exchange (hs : Served rows count o) {seen : List Nat}
    (h : Exhausted rows [] seen o) (hrow : ∀ j ∈ rows count, j ∈ seen) {p : Finset (Nat × Nat)}
    (hp : OneToOne (fun i j => j ∈ rows i) (count + 1) p) :
    ∃ q, OneToOne (fun i j => j ∈ rows i) count q ∧ p.card ≤ q.card := by
  let kept := p.filter fun x => x.2 ∉ seen
  have hkept : ∀ x ∈ kept, x ∈ p ∧ x.2 ∉ seen := fun x hx => Finset.mem_filter.mp hx
  have hpaired : OneToOne (fun i j => j ∈ rows i) count kept := by
    refine { hp.subset (Finset.filter_subset _ p) with among := fun x hx => ?_ }
    obtain ⟨hxp, hxs⟩ := hkept x hx
    refine Nat.lt_of_le_of_ne (Nat.le_of_lt_succ (hp.among x hxp)) fun heq => hxs (hrow x.2 ?_)
    rw [← heq]
    exact hp.accepted x hxp
  -- A pair that is kept has neither a row nor a column of a pair that is restored.
  have hrows : ∀ x ∈ kept, ∀ y ∈ o.restored seen, x.1 ≠ y.1 := by
    intro x hx y hy heq
    obtain ⟨hseen, howner⟩ := Owners.mem_restored.mp hy
    refine (hkept x hx).2 ((h.owner_spec hseen).2 x.2 ?_)
    rw [← howner, ← heq]
    exact hp.accepted x (hkept x hx).1
  have hcolumns : ∀ x ∈ kept, ∀ y ∈ o.restored seen, x.2 ≠ y.2 :=
    fun x hx y hy heq => (hkept x hx).2 (heq ▸ (Owners.mem_restored.mp hy).1)
  refine ⟨kept ∪ o.restored seen, hpaired.union (h.restored hs) hrows hcolumns, ?_⟩
  have hdisjoint : Disjoint kept (o.restored seen) :=
    Finset.disjoint_left.mpr fun x hx hx' => hrows x hx x hx' rfl
  have hgiven : (p.filter fun x => ¬x.2 ∉ seen).card ≤ seen.toFinset.card := by
    refine Finset.card_le_card_of_injOn Prod.snd (fun x hx => ?_) fun x hx y hy heq => ?_
    · exact List.mem_toFinset.mpr (not_not.mp (Finset.mem_filter.mp hx).2)
    · exact hp.columnOnce x (Finset.mem_filter.mp hx).1 y (Finset.mem_filter.mp hy).1 heq
  have hsum : kept.card + (p.filter fun x => ¬x.2 ∉ seen).card = p.card :=
    Finset.card_filter_add_card_filter_not _
  rw [Finset.card_union_of_disjoint hdisjoint, Owners.card_restored]
  omega

/-! ## Serving all rows -/

/-- A row that is searched for with success adds a pair: all other rows keep having a column. -/
theorem Gained.card_lt (hbound : ∀ i, ∀ j ∈ rows i, j < columns) {o' : Owners}
    (h : Served rows count o) (h' : Served rows (count + 1) o') (hg : Gained rows [] count o o') :
    (o.pairing columns).card + 1 ≤ (o'.pairing columns).card := by
  have hrange : ∀ {k i}, o'.of? k = some i → k < columns :=
    fun hk => hbound _ _ (h'.sound.accepts _ _ hk)
  have hnew : count ∉ (o.pairing columns).image Prod.fst := by
    rw [Owners.mem_image_pairing, serves_iff]
    rintro ⟨k, -, hk⟩
    exact Nat.lt_irrefl count (h.owners k count hk)
  rw [← h.card_image, ← h'.card_image, ← Finset.card_insert_of_notMem hnew]
  refine Finset.card_le_card fun i hi => ?_
  rw [Owners.mem_image_pairing, serves_iff]
  rcases Finset.mem_insert.mp hi with rfl | hi
  · obtain ⟨j, -, hj, -⟩ := hg.gains
    exact ⟨j, hrange hj, hj⟩
  · rw [Owners.mem_image_pairing, serves_iff] at hi
    obtain ⟨k, -, hk⟩ := hi
    obtain ⟨k', hk'⟩ := hg.serves k i hk
    exact ⟨k', hrange hk', hk'⟩

variable (hbound : ∀ i, ∀ j ∈ rows i, j < columns)
include hbound

/-- What serving one more row does to the pairing, to the size of a largest one, and to the row. -/
theorem serve_spec (h : Served rows count o)
    (hmax : IsGreatest (sizes (fun i j => j ∈ rows i) count) (o.pairing columns).card) :
    let o' := serve rows columns o count
    IsGreatest (sizes (fun i j => j ∈ rows i) (count + 1)) (o'.pairing columns).card ∧
    (o'.serves columns count = true ↔ (o'.pairing columns).card ≠ (o.pairing columns).card) := by
  intro o'
  have h' : Served rows (count + 1) o' := h.serve hbound
  rcases serve_cases hbound h with hg | ⟨heq, seen, hex, hrow⟩
  · have hlt : (o.pairing columns).card + 1 ≤ (o'.pairing columns).card := hg.card_lt hbound h h'
    -- A row more allows no more than this pair more.
    refine ⟨⟨⟨_, h'.oneToOne, rfl⟩, ?_⟩, ?_⟩
    · rintro n ⟨p, hp, rfl⟩
      exact (hp.card_le_succ hmax.2).trans hlt
    · refine iff_of_true ?_ (by omega)
      obtain ⟨j, -, hj, -⟩ := hg.gains
      exact serves_iff.mpr ⟨j, hbound _ _ (h'.sound.accepts j count hj), hj⟩
  · have heq : o' = o := heq
    rw [heq]
    -- No pairing needs the new row, so none is larger than those without it.
    refine ⟨⟨⟨_, h.oneToOne.mono (Nat.le_succ count), rfl⟩, ?_⟩, ?_⟩
    · rintro n ⟨p, hp, rfl⟩
      obtain ⟨q, hq, hle⟩ := hex.exchange h hrow hp
      exact hle.trans (hmax.2 ⟨q, hq, rfl⟩)
    · refine iff_of_false ?_ (fun hne => hne rfl)
      rw [serves_iff]
      rintro ⟨k, -, hk⟩
      exact Nat.lt_irrefl count (h.owners k count hk)

/-- After every row the pairing is a largest one.  Induction on the rows. -/
theorem isGreatest_pair (count : Nat) :
    IsGreatest (sizes (fun i j => j ∈ rows i) count)
      ((pair rows count columns).pairing columns).card := by
  induction count with
  | zero =>
    refine ⟨⟨_, served_unowned.oneToOne, rfl⟩, ?_⟩
    rintro n ⟨p, hp, rfl⟩
    exact hp.card_le.trans (Nat.zero_le _)
  | succ count ih =>
    rw [pair_succ]
    exact (serve_spec hbound (served_pair hbound count) ih).1

/-- Whether a row has a column does not change when other rows are served. -/
theorem serves_serve {i : Nat} (h : Served rows count o) (hi : i < count) :
    (serve rows columns o count).serves columns i = true ↔ o.serves columns i = true := by
  have h' : Served rows (count + 1) (serve rows columns o count) := h.serve hbound
  rcases serve_cases hbound h with hg | ⟨heq, -⟩
  · rw [serves_iff, serves_iff]
    constructor
    · rintro ⟨k, -, hk⟩
      obtain ⟨k', hk'⟩ := (hg.owners k i hk).resolve_left (Nat.ne_of_lt hi)
      exact ⟨k', hbound _ _ (h.sound.accepts k' i hk'), hk'⟩
    · rintro ⟨k, -, hk⟩
      obtain ⟨k', hk'⟩ := hg.serves k i hk
      exact ⟨k', hbound _ _ (h'.sound.accepts k' i hk'), hk'⟩
  · rw [heq]

/-- A row has a column in the end exactly if it makes the largest pairing larger.  Induction on the
rows behind it. -/
theorem serves_pair_iff {i : Nat} (count : Nat) (hi : i < count) :
    (pair rows count columns).serves columns i = true ↔
      largest (fun i j => j ∈ rows i) (i + 1) ≠ largest (fun i j => j ∈ rows i) i := by
  induction count with
  | zero => exact absurd hi (Nat.not_lt_zero i)
  | succ count ih =>
    rw [pair_succ]
    rcases Nat.lt_succ_iff_lt_or_eq.mp hi with hlt | rfl
    · rw [serves_serve hbound (served_pair hbound count) hlt]
      exact ih hlt
    · have hspec := serve_spec hbound (served_pair hbound i) (isGreatest_pair hbound i)
      rw [largest_eq hspec.1, largest_eq (isGreatest_pair hbound i)]
      exact hspec.2

/-- The rows that stay without a column are those that do not make the largest pairing larger. -/
theorem unserved_eq (count : Nat) :
    unserved rows count columns = (List.range count).filter fun i =>
      largest (fun i j => j ∈ rows i) (i + 1) = largest (fun i j => j ∈ rows i) i := by
  refine List.filter_congr fun i hi => ?_
  have hiff := serves_pair_iff hbound count (List.mem_range.mp hi)
  rw [Bool.eq_iff_iff, Bool.not_eq_true', ← Bool.not_eq_true, hiff, not_not, decide_eq_true_eq]

/-- As many rows stay without a column as a largest pairing leaves out. -/
theorem length_unserved (count : Nat) :
    (unserved rows count columns).length = count - largest (fun i j => j ∈ rows i) count := by
  have hmax := isGreatest_pair hbound count
  have hserved : Served rows count (pair rows count columns) := served_pair hbound count
  rw [largest_eq hmax]
  unfold unserved
  generalize pair rows count columns = o at hserved ⊢
  have hrows : (o.pairing columns).image Prod.fst =
      (Finset.range count).filter fun i => o.serves columns i = true := by
    ext i
    rw [Owners.mem_image_pairing, Finset.mem_filter, Finset.mem_range, serves_iff]
    exact ⟨fun ⟨k, hk, hi⟩ => ⟨hserved.owners k i hi, k, hk, hi⟩, And.right⟩
  have hunserved : ((List.range count).filter fun i => !o.serves columns i).length =
      ((Finset.range count).filter fun i => ¬o.serves columns i = true).card := by
    rw [← List.toFinset_card_of_nodup (List.nodup_range.filter _)]
    refine congrArg Finset.card (Finset.ext fun i => ?_)
    simp
  have hsum : ((Finset.range count).filter fun i => o.serves columns i = true).card +
      ((Finset.range count).filter fun i => ¬o.serves columns i = true).card =
        (Finset.range count).card :=
    Finset.card_filter_add_card_filter_not _
  rw [← hrows, hserved.card_image, Finset.card_range] at hsum
  show ((List.range count).filter fun i => !o.serves columns i).length = _
  rw [hunserved]
  omega

end Serving

/-! ## Searches without fuel -/

/-- Searching by rules: a row looks for a column among some that are left to try, when some columns
have been looked at. -/
inductive Search (rows : Nat → List Nat) :
    Nat → Owners → List Nat → List Nat → Option Owners × List Nat → Prop where
  /-- No column is left. -/
  | nothing {row o seen} : Search rows row o [] seen (none, seen)
  /-- A column that has been looked at is passed over. -/
  | passed {row o j rest seen answer} : j ∈ seen → Search rows row o rest seen answer →
      Search rows row o (j :: rest) seen answer
  /-- A free column is taken. -/
  | free {row o j rest seen} : j ∉ seen → o.of? j = none →
      Search rows row o (j :: rest) seen (some (o.give j row), j :: seen)
  /-- A column is taken whose owner finds another one. -/
  | moved {row o j rest seen other o' seen'} : j ∉ seen → o.of? j = some other →
      Search rows other o (rows other) (j :: seen) (some o', seen') →
      Search rows row o (j :: rest) seen (some (o'.give j row), seen')
  /-- The owner of a column finds no other one. -/
  | kept {row o j rest seen other seen' answer} : j ∉ seen → o.of? j = some other →
      Search rows other o (rows other) (j :: seen) (none, seen') →
      Search rows row o rest seen' answer → Search rows row o (j :: rest) seen answer

/-- The columns that were looked at are never forgotten. -/
theorem Search.grows {rows : Nat → List Nat} {row : Nat} {o : Owners} {js seen : List Nat}
    {answer : Option Owners × List Nat} (h : Search rows row o js seen answer) :
    ∀ k ∈ seen, k ∈ answer.2 := by
  induction h with
  | nothing => exact fun _ hk => hk
  | passed _ _ ih => exact ih
  | free => exact fun _ hk => List.mem_cons_of_mem _ hk
  | moved _ _ _ ih => exact fun k hk => ih k (List.mem_cons_of_mem _ hk)
  | kept _ _ _ _ ih ih' => exact fun k hk => ih' k (ih k (List.mem_cons_of_mem _ hk))

section Fuel

variable {rows : Nat → List Nat} {columns : Nat} (hbound : ∀ i, ∀ j ∈ rows i, j < columns)
include hbound

/-- Trying the columns of a row follows the rules, when a search for another row does as long as
some column that could be tried has been looked at by then.  Induction on the columns that are
left. -/
theorem tryColumns_search {fuel : Nat} {o : Owners}
    (again : Nat → Owners → List Nat → Option Owners × List Nat)
    (hagain : ∀ other seen, unseen columns seen < fuel →
      Search rows other o (rows other) seen (again other o seen))
    {row : Nat} :
    ∀ (js seen : List Nat), (∀ j ∈ js, j ∈ rows row) → unseen columns seen < fuel + 1 →
      Search rows row o js seen (tryColumns again row o js seen) := by
  intro js
  induction js with
  | nil =>
    intro seen _ _
    rw [tryColumns]
    exact .nothing
  | cons j rest ih =>
    intro seen hjs hfuel
    have hrest : ∀ k ∈ rest, k ∈ rows row := fun k hk => hjs k (List.mem_cons_of_mem j hk)
    rw [tryColumns]
    by_cases hseen : j ∈ seen
    · rw [if_pos (List.contains_iff_mem.2 hseen)]
      exact .passed hseen (ih seen hrest hfuel)
    · rw [if_neg fun hc => hseen (List.contains_iff_mem.1 hc)]
      cases hj : o.of? j with
      | none => exact .free hseen hj
      | some other =>
        have hless : unseen columns (j :: seen) < unseen columns seen :=
          unseen_cons_lt (hbound row j (hjs j List.mem_cons_self)) hseen
        have hother := hagain other (j :: seen) (by omega)
        cases hr : again other o (j :: seen) with
        | mk found seen₁ =>
          rw [hr] at hother
          simp only [hr]
          cases found with
          | some o₁ => exact .moved hseen hj hother
          | none =>
            have hle : unseen columns seen₁ ≤ unseen columns (j :: seen) := unseen_le hother.grows
            exact .kept hseen hj hother (ih seen₁ hrest (by omega))

/-- A search with more fuel than there are columns to look at follows the rules, whoever owns the
columns.  Induction on the fuel. -/
theorem seek_search {o : Owners} :
    ∀ (fuel row : Nat) (seen : List Nat), unseen columns seen < fuel →
    Search rows row o (rows row) seen (seek rows fuel row o seen) := by
  intro fuel
  induction fuel with
  | zero => exact fun _ _ hfuel => absurd hfuel (Nat.not_lt_zero _)
  | succ fuel ih =>
    intro row seen hfuel
    rw [seek]
    exact tryColumns_search hbound (seek rows fuel) ih (rows row) seen (fun _ hj => hj) hfuel

end Fuel

/-- The rules leave no choice: a search has one answer. -/
theorem Search.unique {rows : Nat → List Nat} {row : Nat} {o : Owners} {js seen : List Nat}
    {answer answer' : Option Owners × List Nat} (h : Search rows row o js seen answer)
    (h' : Search rows row o js seen answer') : answer = answer' := by
  induction h generalizing answer' with
  | nothing => cases h'; rfl
  | passed hseen _ ih =>
    cases h' with
    | passed _ h' => exact ih h'
    | free hseen' => exact absurd hseen hseen'
    | moved hseen' => exact absurd hseen hseen'
    | kept hseen' => exact absurd hseen hseen'
  | free hseen hfree =>
    cases h' with
    | passed hseen' => exact absurd hseen' hseen
    | free => rfl
    | moved _ hown => rw [hfree] at hown; cases hown
    | kept _ hown => rw [hfree] at hown; cases hown
  | moved hseen hown _ ih =>
    cases h' with
    | passed hseen' => exact absurd hseen' hseen
    | free _ hfree => rw [hfree] at hown; cases hown
    | moved _ hown' h' =>
      cases hown.symm.trans hown'
      cases ih h'
      rfl
    | kept _ hown' h' =>
      cases hown.symm.trans hown'
      cases ih h'
  | kept hseen hown _ _ ih ih' =>
    cases h' with
    | passed hseen' => exact absurd hseen' hseen
    | free _ hfree => rw [hfree] at hown; cases hown
    | moved _ hown' h' =>
      cases hown.symm.trans hown'
      cases ih h'
    | kept _ hown' h' h'' =>
      cases hown.symm.trans hown'
      cases ih h'
      exact ih' h''

end Assay.Pairing
