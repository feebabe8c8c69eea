import Assay.Proofs.Largest
import Assay.Proofs.Matching

/-
  Which expected items stay alone when the order of arrays does not count.

  As few as possible: the comparison reports as many items as a largest pairing of matching items
  leaves out, and it reports an item exactly if the pairings of the items up to it can be no larger
  than those of the items before it.  So which items are reported can be told from the sizes of
  pairings, and does not depend on the way in which the search goes; nor does it depend on its fuel,
  as the search follows rules that leave no choice.

  The work is done in the theory of pairings, about rows and columns: `Pairing.unserved_eq` says
  which rows stay without a column, `Pairing.length_unserved` how many, and `Pairing.Search.unique`
  that a search has one answer.  What is left here is to say what rows and columns are.  Rows are
  expected items and columns are actual ones, both by their places, and a row accepts a column if
  the items match (`mem_candidates_iff`, which comes from the agreement of the comparison with the
  rules of matching).  Every row without a column is reported, because it belongs to an item
  (`length_unpairedItems`).

  In the example a loose item comes first and takes the object that a strict one needs; it gives it
  up for another one.
-/

namespace Assay.Json

/-- An expected and an actual item match, which are given by their places. -/
def MatchesAt (o : CompareOptions) (es as : List Json) (i j : Nat) : Prop :=
  ∃ e a, es[i]? = some e ∧ as[j]? = some a ∧ Matches o e a

variable {o : CompareOptions} {es as : List Json}

/-- The candidates of the search are the places of matching items. -/
theorem mem_candidates_iff {i j : Nat} :
    j ∈ candidates (matchRows o es as) as.length i ↔ MatchesAt o es as i j := by
  by_cases hi : i < es.length
  · by_cases hj : j < as.length
    · rw [mem_candidates hi hj, compare_eq_nil_iff, MatchesAt]
      simp [hi, hj]
    · refine iff_of_false (fun hmem => ?_) ?_
      · exact hj (List.mem_range.mp (List.mem_filter.mp hmem).1)
      · rintro ⟨e, a, -, ha, -⟩
        exact hj (List.getElem?_eq_some_iff.mp ha).1
  · refine iff_of_false (fun hmem => ?_) ?_
    · -- There is no row for a place behind the last item.
      have hrow : (matchRows o es as).getD i [] = [] := by
        rw [matchRows_eq, List.getD_eq_getElem?_getD, List.getElem?_eq_none, Option.getD_none]
        rw [List.length_map]
        exact Nat.le_of_not_lt hi
      have htrue := (List.mem_filter.mp hmem).2
      rw [hrow] at htrue
      cases htrue
    · rintro ⟨e, a, he, -⟩
      exact hi (List.getElem?_eq_some_iff.mp he).1

theorem candidates_eq_matchesAt :
    (fun i j => j ∈ candidates (matchRows o es as) as.length i) = MatchesAt o es as :=
  funext fun _ => funext fun _ => propext mem_candidates_iff

theorem candidates_lt : ∀ i, ∀ j ∈ candidates (matchRows o es as) as.length i, j < as.length :=
  fun _ _ hj => List.mem_range.mp (List.mem_filter.mp hj).1

/-- Every row without a column is reported, because it belongs to an item. -/
theorem length_unpairedItems (place : List Step) (rows : List (List Bool)) (columns : Nat) :
    (unpairedItems place es rows columns).length =
      (Pairing.unserved (candidates rows columns) es.length columns).length := by
  show ((Pairing.unserved (candidates rows columns) es.length columns).filterMap _).length = _
  rw [List.length_filterMap_eq_countP, List.countP_eq_length]
  intro i hi
  have hlt : i < es.length := List.mem_range.mp (List.mem_filter.mp hi).1
  simp [hlt]

/-- Two arrays of one length, compared without regard to their order.  The expected items that are
reported are those with which the pairings of matching items can be no larger than without them, and
all in all as many as a largest pairing leaves out.  After every item, the pairing that has been
found is one to one and as large as it can be, so no two expected items share an actual one.  The
search always ends: its rules give one answer for every graph and all owners, and this is the answer
that is used. -/
theorem unpaired_items_are_fewest (o : CompareOptions) (ho : o.ignoreArrayOrder = true)
    (place : List Step) (es as : List Json) (hlen : es.length = as.length) :
    let size := Pairing.largest (MatchesAt o es as)
    let owners := fun count =>
      Pairing.pair (candidates (matchRows o es as) as.length) count as.length
    let found := compare o place (.array es) (.array as)
    found = ((List.range es.length).filter fun i => size (i + 1) = size i).filterMap
      (fun i => es[i]?.map fun e => ⟨place ++ [.item i], .unpaired e⟩) ∧
    found.length + size es.length = es.length ∧
    (∀ count ≤ es.length,
      Pairing.OneToOne (MatchesAt o es as) count ((owners count).pairing as.length) ∧
      ((owners count).pairing as.length).card = size count) ∧
    ∀ (rows : Nat → List Nat) (columns : Nat), (∀ i, ∀ j ∈ rows i, j < columns) →
      ∀ row owners answer, Pairing.Search rows row owners (rows row) [] answer ↔
        answer = Pairing.seek rows (columns + 1) row owners [] := by
  intro size owners found
  have hbelow : ∀ i, ∀ j ∈ candidates (matchRows o es as) as.length i, j < as.length :=
    candidates_lt
  have hfound : found = unpairedItems place es (matchRows o es as) as.length := by
    show compare o place (.array es) (.array as) = _
    rw [compare, if_neg (not_not.mpr hlen), if_pos ho]
  refine ⟨?_, ?_, fun count _ => ⟨?_, ?_⟩, fun rows columns hbound row owners answer => ?_⟩
  · rw [hfound]
    show (Pairing.unserved (candidates (matchRows o es as) as.length) es.length
      as.length).filterMap _ = _
    rw [Pairing.unserved_eq hbelow, candidates_eq_matchesAt]
  · rw [hfound, length_unpairedItems, Pairing.length_unserved hbelow, candidates_eq_matchesAt]
    exact Nat.sub_add_cancel (Pairing.largest_le _ _)
  · rw [← candidates_eq_matchesAt]
    exact (Pairing.served_pair hbelow count).oneToOne
  · have hmax := Pairing.isGreatest_pair hbelow count
    rw [candidates_eq_matchesAt] at hmax
    exact (Pairing.largest_eq hmax).symm
  · have hsearch := Pairing.seek_search hbound (o := owners) (columns + 1) row [] (by
      rw [Pairing.unseen_nil]
      exact Nat.lt_succ_self columns)
    exact ⟨fun h => h.unique hsearch, fun h => h ▸ hsearch⟩

/-- Options under which the order of arrays does not count. -/
def unordered : CompareOptions := { CompareOptions.strict with ignoreArrayOrder := true }

/-- An object that nothing is expected of, and two that have to have a member. -/
def looseAndStrict : List Json := [.object [], .object [("a", .null)], .object [("a", .null)]]

/-- One actual object with this member, and two without. -/
def oneOfThree : List Json := [.object [("a", .null)], .object [], .object []]

/-- The loose item gives the object with the member to the first strict item; the second one is left
alone, and a largest pairing has two pairs. -/
theorem second_strict_item_is_left_alone :
    unordered.ignoreArrayOrder = true ∧ looseAndStrict.length = oneOfThree.length ∧
    (compare unordered [] (.array looseAndStrict) (.array oneOfThree)).map Mismatch.place =
      [[.item 2]] ∧
    Pairing.largest (MatchesAt unordered looseAndStrict oneOfThree) 3 = 2 := by
  obtain ⟨-, hlength, -, -⟩ :=
    unpaired_items_are_fewest unordered rfl [] looseAndStrict oneOfThree rfl
  have hfound :
      (compare unordered [] (.array looseAndStrict) (.array oneOfThree)).map Mismatch.place =
        [[.item 2]] := by decide +kernel
  have hone : (compare unordered [] (.array looseAndStrict) (.array oneOfThree)).length = 1 := by
    rw [← List.length_map, hfound]
    rfl
  rw [hone] at hlength
  exact ⟨rfl, rfl, hfound, Nat.add_left_cancel (n := 1) hlength⟩

end Assay.Json
