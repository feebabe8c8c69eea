import Assay.Load.Files
import Assay.Proofs.Directories

/-
  The files at or below a location.

  A path has its entries below it (`Files.Tree.children`), if it leads to a directory, links
  followed.  What is at or below a location is what one comes to by going from a path to one of its
  entries again and again (`AtOrBelow`).  That goes on for ever where a link leads back to a
  directory above it, and it breaks off where a link leads nowhere; a location below which neither
  happens is `Traversable`.

  For such a location the walk of the loader finds every file at or below it once, and in the order
  of the names of their paths.  The walk has fuel and a list of the directories it stands in; the
  theorem says that the fuel suffices, and knows nothing of either.

  1. Trees in order.  The entries of a directory have names, each one once, in their order
     (`InOrder`).  A node of the tree has a place, and there are as many places as nodes, which
     bounds how many different directories a walk can be in.

  2. What is below a location.  Two paths at or below different entries differ in the name of the
     entry, and so in their order (`Parts.lt`).  A location is traversable if some closed set of
     paths is (`traversable_of_closed`), which is how a concrete one is checked.

  3. What a walk finds.  `Found` says that some paths are the files at or below a path, each once
     and in order.  A file is found alone (`found_file`), and a directory finds what its entries
     find, one after the other (`found_directory`).

  4. The walk.  `Descent` is its invariant: it stands at a path at or below the location, and the
     directories above it are different nodes of the tree.  It is kept by a step to an entry
     (`Descent.child`), no step closes a loop (`Descent.new`), and there are not more directories
     above a path than the tree has nodes (`Descent.length_le`).  `filesBelow_spec` is the induction
     on the fuel.

  5. The files of a location are those that the walk finds and that have the right extension and
     pass the filter (`files_eq`).
-/

namespace Assay

/-! ## Trees in order -/

namespace Files

instance : DecidablePred IsName := fun name =>
  decidable_of_iff ('/' ∉ name.toList ∧ name ≠ "" ∧ name ≠ "." ∧ name ≠ "..")
    ⟨fun ⟨hslash, hempty, hdot, hdots⟩ => ⟨hslash, hempty, hdot, hdots⟩,
      fun ⟨hslash, hempty, hdot, hdots⟩ => ⟨hslash, hempty, hdot, hdots⟩⟩

namespace Node

/-- The entries of a directory. -/
def entries : Node → List (String × Node)
  | .directory es => es
  | _ => []

mutual
/-- The places of the nodes at and below a node. -/
def places : Node → List (List String)
  | .file .. => [[]]
  | .link _ => [[]]
  | .directory es => [] :: placesIn es
/-- The places of the nodes among some entries. -/
def placesIn : List (String × Node) → List (List String)
  | [] => []
  | (n, v) :: rest => (places v).map (n :: ·) ++ placesIn rest
end

mutual

/-- There is a place for each node. -/
theorem length_places : ∀ v : Node, v.places.length = Load.nodeCount v
  | .file .. => rfl
  | .link _ => rfl
  | .directory es => by rw [places, Load.nodeCount, List.length_cons, length_placesIn es]
theorem length_placesIn : ∀ es : List (String × Node), (placesIn es).length = Load.entryCount es
  | [] => rfl
  | (n, v) :: rest => by
    rw [placesIn, Load.entryCount, List.length_append, List.length_map, length_places v,
      length_placesIn rest]
end

/-- What is below an entry is below its directory. -/
theorem mem_placesIn {n : String} {v : Node} {place : List String} {es : List (String × Node)}
    (h : entryIn n es = some v) (hplace : place ∈ v.places) : n :: place ∈ placesIn es := by
  induction es with
  | nil => cases h
  | cons e rest ih =>
    obtain ⟨k, u⟩ := e
    rw [entryIn] at h
    rw [placesIn, List.mem_append]
    split at h
    · next hk =>
      cases h
      exact .inl (hk ▸ List.mem_map_of_mem hplace)
    · exact .inr (ih h)

/-- Wherever there is a node, there is its place.  Induction on the place. -/
theorem mem_places {v u : Node} {place : List String} (h : v.get? place = some u) :
    place ∈ v.places := by
  induction place generalizing v with
  | nil => cases v <;> exact List.mem_cons_self
  | cons n place ih =>
    cases v with
    | file k content => cases h
    | link target => cases h
    | directory es =>
      rw [get?] at h
      obtain ⟨w, hw, hplace⟩ := Option.bind_eq_some_iff.mp h
      exact List.mem_cons_of_mem _ (mem_placesIn hw (ih hplace))

end Node

namespace Tree

/-- The root is a directory, and the entries of every directory have names, each one once, and are
in the order of their names. -/
structure InOrder (t : Tree) : Prop where
  root : t.root.kind = .directory
  named : ∀ place, ∀ v ∈ t.root.get? place, ∀ e ∈ v.entries, IsName e.1
  sorted : ∀ place, ∀ v ∈ t.root.get? place, v.entries.Pairwise fun a b => a.1 < b.1

/-! ## What is below a location -/

/-- The paths of the entries of the directory that a path leads to; if it leads to none, there are
none. -/
def children (t : Tree) (path : String) : List String :=
  match t.find path with
  | .ok (.directory es) => es.map fun e => join path e.1
  | _ => []

/-- A path is at another one, or below it. -/
def AtOrBelow (t : Tree) : String → String → Prop :=
  Relation.ReflTransGen fun path child => child ∈ t.children path

/-- A path is below another one. -/
def Below (t : Tree) : String → String → Prop :=
  Relation.TransGen fun path child => child ∈ t.children path

/-- No link below a location dangles: every path leads to a file or a directory.  A path that goes
through more links than are followed leads nowhere.  And no link closes a loop: no path leads to the
directory of a path above it. -/
structure Traversable (t : Tree) (location : String) : Prop where
  leads : ∀ path, t.Below location path → t.has path = true
  unlooped : ∀ path inner, t.AtOrBelow location path → t.Below path inner →
    t.locate inner true ≠ t.locate path true

/-- The path leads to a file. -/
def isFile (t : Tree) (path : String) : Bool :=
  match t.find path with
  | .ok (.file ..) => true
  | _ => false

variable {t : Tree} {path : String} {place : List String} {v : Node}

/-- What is found under a path is the node at its place. -/
theorem find_eq_ok_iff : t.find path = .ok v ↔
    ∃ place, t.locate path true = .ok place ∧ t.root.get? place = some v := by
  rw [find]
  cases t.locate path true with
  | error e => exact iff_of_false (by rintro ⟨⟩) (by rintro ⟨_, ⟨⟩, _⟩)
  | ok place =>
    simp only [bind, Except.bind]
    constructor
    · intro h
      cases hnode : t.root.get? place with
      | none =>
        rw [hnode] at h
        cases h
      | some u =>
        rw [hnode] at h
        cases h
        exact ⟨place, rfl, hnode⟩
    · rintro ⟨_, ⟨⟩, hnode⟩
      rw [hnode]
      rfl

/-- A path is there if something is found under it. -/
theorem has_iff : t.has path = true ↔ ∃ v, t.find path = .ok v := by
  rw [has]
  cases t.find path with
  | error e => exact iff_of_false (by rintro ⟨⟩) (by rintro ⟨_, ⟨⟩⟩)
  | ok v => exact ⟨fun _ => ⟨v, rfl⟩, fun _ => rfl⟩

theorem isFile_of_find {number : Nat} {content : List UInt8}
    (h : t.find path = .ok (.file number content)) :
    t.isFile path = true := by
  rw [isFile, h]

theorem isFile_of_find_directory {es : List (String × Node)}
    (h : t.find path = .ok (.directory es)) :
    t.isFile path = false := by
  rw [isFile, h]

/-- The entries of a directory are its children. -/
theorem children_of_find_directory {es : List (String × Node)}
    (h : t.find path = .ok (.directory es)) :
    t.children path = es.map fun e => join path e.1 := by
  rw [children, h]

theorem children_of_isFile (h : t.isFile path = true) : t.children path = [] := by
  rw [isFile] at h
  rw [children]
  split at h
  · next hfind => rw [hfind]
  · cases h

/-- What is at or below a path is the path itself, or is at or below one of its entries. -/
theorem atOrBelow_iff {q : String} :
    t.AtOrBelow path q ↔ q = path ∨ ∃ child ∈ t.children path, t.AtOrBelow child q := by
  rw [AtOrBelow, Relation.ReflTransGen.cases_head_iff, eq_comm]

/-- The names of what is below a path start with its own. -/
theorem AtOrBelow.names_eq {q : String} (h : t.AtOrBelow path q) :
    ∃ rest, names q = names path ++ rest := by
  induction h with
  | refl => exact ⟨[], (List.append_nil _).symm⟩
  | @tail inner child _ hchild ih =>
    obtain ⟨rest, hrest⟩ := ih
    rw [children] at hchild
    split at hchild
    · obtain ⟨e, -, rfl⟩ := List.mem_map.mp hchild
      exact ⟨rest ++ names e.1, by rw [names_join, hrest, List.append_assoc]⟩
    · cases hchild

/-- A walk that follows links does not end at one.  Induction on the names that are left to walk. -/
theorem walk_ne_link : ∀ {fuel links : Nat} {place ns reached : List String},
    (∀ target, t.root.get? place ≠ some (.link target)) →
    walk t true fuel links place ns = .ok reached →
      ∀ target, t.root.get? reached ≠ some (.link target) := by
  intro fuel
  induction fuel with
  | zero =>
    intro links place ns reached _ hwalk
    rw [walk] at hwalk
    cases hwalk
  | succ fuel ih =>
    intro links place ns reached hplace hwalk
    cases ns with
    | nil =>
      cases hwalk
      exact hplace
    | cons n rest =>
      obtain ⟨es, hdirectory⟩ : ∃ es, t.root.get? place = some (.directory es) := by
        rw [walk] at hwalk
        split at hwalk
        · next es hplace => exact ⟨es, hplace⟩
        · cases hwalk
        · cases hwalk
      rw [walk_cons hdirectory] at hwalk
      split at hwalk
      · split at hwalk
        · cases hwalk
        · next hroot =>
          -- What has an entry is a directory, so the place above this one is that of a directory.
          refine ih (fun target htarget => ?_) hwalk
          have hne : place ≠ [] := fun hnil => hroot (by rw [hnil]; rfl)
          rw [← List.dropLast_append_getLast hne, Node.get?_append, htarget] at hdirectory
          cases hdirectory
      · cases hn : t.root.get? (place ++ [n]) with
        | none =>
          rw [hn] at hwalk
          cases hwalk
        | some u =>
          rw [hn, Option.map_some] at hwalk
          cases u with
          | file k content => exact ih (fun target h => (by rw [hn] at h; cases h)) hwalk
          | directory es => exact ih (fun target h => (by rw [hn] at h; cases h)) hwalk
          | link target =>
            simp only [Node.kind, Bool.not_true, Bool.and_false, Bool.false_eq_true, if_false]
              at hwalk
            split at hwalk
            · cases hwalk
            · split at hwalk
              · cases hwalk
              · exact ih hplace hwalk

/-- The place of a path is where its names lead. -/
theorem walk_of_locate (h : t.locate path true = .ok place) :
    walk t true nameLimit 0 [] (names path) = .ok place := by
  rw [locate] at h
  split at h
  · cases h
  obtain ⟨place', hwalk, hend⟩ := Instant.bind_eq_ok h
  -- A directory may be asked for at the end, which leaves the place as it is.
  have hplace : place' = place := by
    dsimp only at hend
    split at hend
    · split at hend <;> cases hend
      rfl
    · cases hend
      rfl
  rw [hwalk, hplace]

/-- What is found under a path is a file or a directory. -/
theorem InOrder.find_cases (h : t.InOrder) (hfind : t.find path = .ok v) :
    (∃ number content, v = .file number content) ∨ ∃ es, v = .directory es := by
  obtain ⟨place, hlocate, hnode⟩ := find_eq_ok_iff.mp hfind
  have hstart : ∀ target, t.root.get? [] ≠ some (.link target) := by
    obtain ⟨es, hroot⟩ := Node.directory_of_kind h.root
    rw [hroot]
    rintro target ⟨⟩
  cases v with
  | file number content => exact .inl ⟨number, content, rfl⟩
  | directory es => exact .inr ⟨es, rfl⟩
  | link target => exact absurd hnode (walk_ne_link hstart (walk_of_locate hlocate) target)

/-- A location is traversable if all that one comes to from it are some paths that lead somewhere,
and every entry lies deeper than its directory, however the depth of a place is measured. -/
theorem traversable_of_closed {location : String} {paths : List String}
    (depth : Except IoError (List String) → Nat) (hstart : location ∈ paths)
    (h : ∀ p ∈ paths, ∀ child ∈ t.children p, child ∈ paths ∧ t.has child = true ∧
      depth (t.locate p true) < depth (t.locate child true)) : t.Traversable location := by
  have hmem : ∀ path, t.AtOrBelow location path → path ∈ paths := by
    intro path hpath
    induction hpath with
    | refl => exact hstart
    | tail _ hchild ih => exact (h _ ih _ hchild).1
  refine ⟨fun path hpath => ?_, fun path inner hpath hinner => ?_⟩
  · obtain ⟨directory, hdirectory, hchild⟩ := Relation.TransGen.tail'_iff.mp hpath
    exact (h directory (hmem _ hdirectory) path hchild).2.1
  · have hdeeper : depth (t.locate path true) < depth (t.locate inner true) := by
      induction hinner with
      | single hchild => exact (h path (hmem _ hpath) _ hchild).2.2
      | @tail directory child hdirectory hchild ih =>
        have hmem' := hmem directory (hpath.trans hdirectory.to_reflTransGen)
        exact ih.trans (h directory hmem' child hchild).2.2
    intro heq
    rw [heq] at hdeeper
    exact Nat.lt_irrefl _ hdeeper

end Tree

end Files

namespace Load

open Files (join names Tree)

/-! ## Actions one after the other -/

section MapM

variable {ε α β : Type} {f : α → Except ε β}

/-- Actions one after the other succeed exactly if each of them does. -/
theorem mapM_eq_ok_iff {as : List α} {bs : List β} :
    as.mapM f = .ok bs ↔ List.Forall₂ (fun a b => f a = .ok b) as bs := by
  induction as generalizing bs with
  | nil =>
    rw [List.mapM_nil, List.forall₂_nil_left_iff]
    exact ⟨fun h => (by cases h; rfl), fun h => (by rw [h]; rfl)⟩
  | cons a as ih =>
    rw [List.mapM_cons]
    constructor
    · intro h
      obtain ⟨b, hb, h⟩ := Instant.bind_eq_ok h
      obtain ⟨rest, hrest, h⟩ := Instant.bind_eq_ok h
      cases h
      exact .cons hb (ih.mp hrest)
    · rintro (_ | ⟨hb, hrest⟩)
      rw [hb, show as.mapM f = .ok _ from ih.mpr hrest]
      rfl

/-- If each action succeeds with a result of some kind, then so do all of them. -/
theorem exists_mapM_eq_ok {R : α → β → Prop} {as : List α}
    (h : ∀ a ∈ as, ∃ b, f a = .ok b ∧ R a b) :
    ∃ bs, as.mapM f = .ok bs ∧ List.Forall₂ R as bs := by
  induction as with
  | nil => exact ⟨[], rfl, .nil⟩
  | cons a as ih =>
    obtain ⟨⟨b, hb, hR⟩, hrest⟩ := List.forall_mem_cons.mp h
    obtain ⟨bs, hbs, hRs⟩ := ih hrest
    exact ⟨b :: bs, mapM_eq_ok_iff.mpr (.cons hb (mapM_eq_ok_iff.mp hbs)), .cons hR hRs⟩

end MapM

/-! ## The order of paths -/

/-- Two paths have the same names up to the last one, and the first path comes first. -/
def Parts (p q : String) : Prop :=
  ∃ front n m, names p = front ++ [n] ∧ names q = front ++ [m] ∧ n < m

variable {t : Tree} {location path : String}

/-- Then whatever is at or below the first path comes before what is at or below the second one. -/
theorem Parts.lt {p q p' q' : String} (h : Parts p q) (hp : t.AtOrBelow p p')
    (hq : t.AtOrBelow q q') :
    names p' < names q' := by
  obtain ⟨front, n, m, hn, hm, hlt⟩ := h
  obtain ⟨back, hback⟩ := hp.names_eq
  obtain ⟨back', hback'⟩ := hq.names_eq
  rw [hback, hback', hn, hm, List.append_assoc, List.append_assoc]
  exact List.append_left_lt (List.cons_lt_cons_iff.mpr (.inl hlt))

/-- The entries of a directory are in order. -/
theorem parts_children (horder : t.InOrder) (path : String) : (t.children path).Pairwise Parts := by
  rw [Tree.children]
  split
  · next es hfind =>
    obtain ⟨place, -, hnode⟩ := Tree.find_eq_ok_iff.mp hfind
    have hnames : ∀ e ∈ es, names (join path e.1) = names path ++ [e.1] := by
      intro e he
      rw [Files.names_join, Files.names_of_isName (horder.named place _ hnode e he)]
    rw [List.pairwise_map]
    refine (horder.sorted place _ hnode).imp_of_mem fun ha hb hlt => ?_
    exact ⟨names path, _, _, hnames _ ha, hnames _ hb, hlt⟩
  · exact .nil

/-! ## What a walk finds -/

/-- These are the files at or below a path, each one once, in the order of their names. -/
structure Found (t : Tree) (path : String) (found : List String) : Prop where
  mem_iff : ∀ p, p ∈ found ↔ t.AtOrBelow path p ∧ t.isFile p = true
  sorted : found.Pairwise fun p q => names p < names q

/-- A file is all that there is at and below its path. -/
theorem found_file (h : t.isFile path = true) : Found t path [path] := by
  refine ⟨fun p => ?_, List.pairwise_singleton _ _⟩
  rw [List.mem_singleton, Tree.atOrBelow_iff, Tree.children_of_isFile h]
  constructor
  · rintro rfl
    exact ⟨.inl rfl, h⟩
  · rintro ⟨rfl | ⟨child, hchild, -⟩, -⟩
    · rfl
    · cases hchild

/-- What has been found below some paths, one after the other.  Induction on the paths. -/
theorem found_flatten {paths : List String} {founds : List (List String)}
    (h : List.Forall₂ (Found t) paths founds) (hparts : paths.Pairwise Parts) :
    (∀ p, p ∈ founds.flatten ↔ (∃ path ∈ paths, t.AtOrBelow path p) ∧ t.isFile p = true) ∧
    founds.flatten.Pairwise fun p q => names p < names q := by
  induction h with
  | nil => exact ⟨fun p => (by simp), .nil⟩
  | @cons path found paths founds hfound _ ih =>
    obtain ⟨hfirst, hrest⟩ := List.pairwise_cons.mp hparts
    obtain ⟨hmem, hsorted⟩ := ih hrest
    rw [List.flatten_cons]
    refine ⟨fun p => ?_, List.pairwise_append.mpr ⟨hfound.sorted, hsorted, fun p hp q hq => ?_⟩⟩
    · rw [List.mem_append, hfound.mem_iff, hmem, List.exists_mem_cons_iff, or_and_right]
    · obtain ⟨⟨path', hpath', hbelow⟩, -⟩ := (hmem q).mp hq
      exact (hfirst path' hpath').lt ((hfound.mem_iff p).mp hp).1 hbelow

/-- What there is at and below a directory is what there is at and below its entries. -/
theorem found_directory (horder : t.InOrder) (h : t.isFile path = false)
    {founds : List (List String)} (hfounds : List.Forall₂ (Found t) (t.children path) founds) :
    Found t path founds.flatten := by
  obtain ⟨hmem, hsorted⟩ := found_flatten hfounds (parts_children horder path)
  refine ⟨fun p => ?_, hsorted⟩
  rw [hmem, @Tree.atOrBelow_iff t path]
  constructor
  · rintro ⟨hbelow, hfile⟩
    exact ⟨.inr hbelow, hfile⟩
  · rintro ⟨rfl | hbelow, hfile⟩
    · rw [h] at hfile
      cases hfile
    · exact ⟨hbelow, hfile⟩

/-! ## The walk -/

section Walk

variable {ancestors : List (List String × String)} {place : List String}

/-- A walk from a file finds this file. -/
theorem filesBelow_file {number : Nat} {content : List UInt8} (isLink : Bool) (fuel : Nat)
    (hlocate : t.locate path true = .ok place)
    (hnode : t.root.get? place = some (.file number content)) :
    filesBelow t (fuel + 1) ancestors isLink path = .ok [path] := by
  rw [filesBelow, hlocate]
  simp only [Except.mapError, bind, Except.bind, hnode]
  rfl

/-- From a directory that is none of those around it, the walk goes on to the entries, one after the
other. -/
theorem filesBelow_directory {es : List (String × Files.Node)} (isLink : Bool) (fuel : Nat)
    (hlocate : t.locate path true = .ok place)
    (hnode : t.root.get? place = some (.directory es)) (hnew : ancestor? ancestors place = none) :
    ∃ isLink' : String × Files.Node → Bool, filesBelow t (fuel + 1) ancestors isLink path =
      (es.mapM fun e => filesBelow t fuel ((place, path) :: ancestors) (isLink' e)
        (join path e.1)).map
        List.flatten := by
  rw [filesBelow, hlocate]
  simp only [Except.mapError, bind, Except.bind, hnode, hnew]
  cases isLink <;> exact ⟨_, rfl⟩

/-- The walk stands at a path at or below the location, and these are the directories above it:
different nodes of the tree. -/
structure Descent (t : Tree) (location : String) (ancestors : List (List String × String))
    (path : String) :
    Prop where
  atOrBelow : t.AtOrBelow location path
  above : ∀ a ∈ ancestors, t.AtOrBelow location a.2 ∧ t.locate a.2 true = .ok a.1 ∧ t.Below a.2 path
  distinct : (ancestors.map Prod.fst).Nodup
  standing : ∀ a ∈ ancestors, a.1 ∈ t.root.places

/-- At the location itself there are no directories above. -/
theorem descent_nil (t : Tree) (location : String) : Descent t location [] location :=
  ⟨.refl, List.forall_mem_nil _, .nil, List.forall_mem_nil _⟩

/-- There are not more directories above a path than the tree has nodes. -/
theorem Descent.length_le (h : Descent t location ancestors path) :
    ancestors.length ≤ nodeCount t.root := by
  have hsub : ancestors.map Prod.fst ⊆ t.root.places := by
    intro place hplace
    obtain ⟨a, ha, rfl⟩ := List.mem_map.mp hplace
    exact h.standing a ha
  calc ancestors.length = (ancestors.map Prod.fst).length := (List.length_map Prod.fst).symm
    _ ≤ t.root.places.length := (h.distinct.subperm hsub).length_le
    _ = nodeCount t.root := Files.Node.length_places t.root

/-- The place of the path is none of those above it, as no link closes a loop. -/
theorem Descent.new (h : Descent t location ancestors path) (hwalk : t.Traversable location)
    (hlocate : t.locate path true = .ok place) : ∀ a ∈ ancestors, a.1 ≠ place := by
  intro a ha heq
  obtain ⟨hbelow, hplace, hpath⟩ := h.above a ha
  exact hwalk.unlooped a.2 path hbelow hpath (by rw [hlocate, hplace, heq])

/-- The walk goes on from a directory to one of its entries. -/
theorem Descent.child (h : Descent t location ancestors path) (hwalk : t.Traversable location)
    {v : Files.Node} (hlocate : t.locate path true = .ok place) (hnode : t.root.get? place = some v)
    {child : String} (hchild : child ∈ t.children path) :
    Descent t location ((place, path) :: ancestors) child := by
  refine ⟨h.atOrBelow.tail hchild, ?_, ?_, ?_⟩
  · rw [List.forall_mem_cons]
    refine ⟨⟨h.atOrBelow, hlocate, .single hchild⟩, fun a ha => ?_⟩
    obtain ⟨hbelow, hplace, hpath⟩ := h.above a ha
    exact ⟨hbelow, hplace, hpath.tail hchild⟩
  · rw [List.map_cons, List.nodup_cons]
    refine ⟨fun hmem => ?_, h.distinct⟩
    obtain ⟨a, ha, heq⟩ := List.mem_map.mp hmem
    exact h.new hwalk hlocate a ha heq
  · exact List.forall_mem_cons.mpr ⟨Files.Node.mem_places hnode, h.standing⟩

/-- A walk finds the files at and below its path.  Induction on the fuel, which is more than there
are directories that could still be entered. -/
theorem filesBelow_spec (horder : t.InOrder) (hwalk : t.Traversable location) :
    ∀ {fuel : Nat} {ancestors : List (List String × String)} {path : String} (isLink : Bool),
      Descent t location ancestors path → nodeCount t.root < fuel + ancestors.length →
      t.has path = true →
        ∃ found, filesBelow t fuel ancestors isLink path = .ok found ∧ Found t path found := by
  intro fuel
  induction fuel with
  | zero =>
    intro ancestors path isLink h hfuel _
    have := h.length_le
    omega
  | succ fuel ih =>
    intro ancestors path isLink h hfuel hhas
    obtain ⟨v, hfind⟩ := Tree.has_iff.mp hhas
    obtain ⟨place, hlocate, hnode⟩ := Tree.find_eq_ok_iff.mp hfind
    rcases horder.find_cases hfind with ⟨number, content, rfl⟩ | ⟨es, rfl⟩
    · exact ⟨[path], filesBelow_file isLink fuel hlocate hnode,
        found_file (Tree.isFile_of_find hfind)⟩
    · have hnew : ancestor? ancestors place = none := by
        rw [ancestor?, Option.map_eq_none_iff, List.find?_eq_none]
        intro a ha heq
        exact h.new hwalk hlocate a ha (by simpa using heq)
      obtain ⟨isLink', hstep⟩ := filesBelow_directory isLink fuel hlocate hnode hnew
      have hchildren := Tree.children_of_find_directory hfind
      have hentries : ∀ e ∈ es, ∃ found, filesBelow t fuel ((place, path) :: ancestors) (isLink' e)
          (join path e.1) = .ok found ∧ Found t (join path e.1) found := by
        intro e he
        have hchild : join path e.1 ∈ t.children path := by
          rw [hchildren]
          exact List.mem_map_of_mem he
        have hbelow : t.Below location (join path e.1) := .tail' h.atOrBelow hchild
        refine ih _ (h.child hwalk hlocate hnode hchild) ?_ (hwalk.leads _ hbelow)
        rw [List.length_cons]
        omega
      obtain ⟨founds, hfounds, hall⟩ := exists_mapM_eq_ok hentries
      refine ⟨founds.flatten, by rw [hstep, hfounds]; rfl, ?_⟩
      refine found_directory horder (Tree.isFile_of_find_directory hfind) ?_
      rw [hchildren]
      exact List.forall₂_map_left_iff.mpr hall

end Walk

/-! ## The files of a location -/

/-- The extension of the path is one of the two that a file of tests can have. -/
theorem isYaml_iff {p : String} :
    isYaml p = true ↔ Files.extension? p = some "yaml" ∨ Files.extension? p = some "yml" := by
  rw [isYaml, Bool.or_eq_true, beq_iff_eq, beq_iff_eq]

/-- A filter that is set and not empty has to occur in the path. -/
theorem accepts_iff {filter : Option String} {p : String} :
    accepts filter p = true ↔ ∀ f, filter = some f → f ≠ "" → f.toList <:+: p.toList := by
  cases filter with
  | none => exact iff_of_true rfl nofun
  | some f =>
    rw [accepts, Bool.or_eq_true, String.isEmpty_iff, Text.contains_iff]
    constructor
    · rintro (hempty | hoccurs) g hg hne
      · exact absurd ((Option.some.inj hg).symm.trans hempty) hne
      · exact Option.some.inj hg ▸ hoccurs
    · intro h
      by_cases hempty : f = ""
      · exact .inl hempty
      · exact .inr (h f rfl hempty)

/-- The files of tests are those found by a walk that are accepted. -/
theorem files_eq {found : List String} (hexists : t.has location = true)
    (hfound : filesBelow t (walkLimit t) [] false location = .ok found) (filter : Option String) :
    files t location filter = .ok (found.filter fun p => isYaml p && accepts filter p) := by
  rw [files, hexists, hfound]
  rfl

/-- In a tree whose directories are in order, let a location be there, and let no link below it
dangle or close a loop.  Then its files of tests can be listed: they are the files at or below the
location, links followed, that have the extension of YAML and whose path contains the filter, if
there is one that is not empty.  Each of them is listed once, in the order of the names in its path,
and a filter only leaves out some of those that are listed without it. -/
theorem files_are_listed_in_order {t : Tree} {location : String} (horder : t.InOrder)
    (hexists : t.has location = true) (hwalk : t.Traversable location) (filter : Option String) :
    ∃ found all, files t location filter = .ok found ∧ files t location none = .ok all ∧
      (∀ p, p ∈ found ↔ t.AtOrBelow location p ∧ t.isFile p = true ∧
        (Files.extension? p = some "yaml" ∨ Files.extension? p = some "yml") ∧
        ∀ f, filter = some f → f ≠ "" → f.toList <:+: p.toList) ∧
      found.Nodup ∧ (found.Pairwise fun p q => names p < names q) ∧ found.Sublist all := by
  have hfuel : nodeCount t.root < walkLimit t + ([] : List (List String × String)).length := by
    rw [walkLimit, List.length_nil]
    nlinarith
  obtain ⟨found, hfound, hmem, hsorted⟩ :=
    filesBelow_spec horder hwalk false (descent_nil t location) hfuel hexists
  have hlisted : (found.filter fun p => isYaml p && accepts filter p).Pairwise
      fun p q => names p < names q :=
    hsorted.filter _
  refine ⟨_, _, files_eq hexists hfound filter, files_eq hexists hfound none, fun p => ?_, ?_,
    hlisted, ?_⟩
  · rw [List.mem_filter, hmem, Bool.and_eq_true, isYaml_iff, accepts_iff, and_assoc]
  · exact hlisted.imp fun {p q} hlt (heq : p = q) => List.lt_irrefl _ (heq ▸ hlt)
  · refine List.monotone_filter_right _ fun p => ?_
    simp only [Bool.and_eq_true]
    exact fun ⟨hyaml, _⟩ => ⟨hyaml, rfl⟩

/-- A directory beside a file whose name goes on like its own, and a link to the directory. -/
def linkedTree : Tree where
  root := .directory
    [("t", .directory [("a", .directory [("x.yaml", .file 0 [])]), ("a.yaml", .file 1 []),
    ("b", .link "a")])]
  next := 2

/-- The file in the directory is listed under two paths, and both come where their directories
stand. -/
theorem linked_files_are_listed :
    linkedTree.InOrder ∧ linkedTree.has "t" = true ∧ linkedTree.Traversable "t" ∧
    ∃ found all, files linkedTree "t" (some "x") = .ok found ∧ files linkedTree "t" none = .ok all ∧
      "t/b/x.yaml" ∈ found ∧ "t/a.yaml" ∉ found ∧ found.Nodup ∧
      (found.Pairwise fun p q => names p < names q) ∧ found.Sublist all := by
  have horder : linkedTree.InOrder := by
    have hplaces : ∀ place ∈ linkedTree.root.places, ∀ v ∈ linkedTree.root.get? place,
        (∀ e ∈ v.entries, Files.IsName e.1) ∧ v.entries.Pairwise fun a b => a.1 < b.1 := by
      decide +kernel
    refine ⟨rfl, fun place v hv => ?_, fun place v hv => ?_⟩
    · exact (hplaces place (Files.Node.mem_places hv) v hv).1
    · exact (hplaces place (Files.Node.mem_places hv) v hv).2
  have hexists : linkedTree.has "t" = true := by decide +kernel
  have hwalk : linkedTree.Traversable "t" :=
    Tree.traversable_of_closed (fun place => place.toOption.elim 0 List.length)
      (show "t" ∈ ["t", "t/a", "t/a/x.yaml", "t/a.yaml", "t/b", "t/b/x.yaml"] by decide)
        (by decide +kernel)
  obtain ⟨found, all, hfound, hall, hmem, hnodup, hsorted, hsub⟩ :=
    files_are_listed_in_order horder hexists hwalk (some "x")
  refine ⟨horder, hexists, hwalk, found, all, hfound, hall, (hmem _).mpr ?_, fun hin => ?_,
    hnodup, hsorted, hsub⟩
  · have hdirectory : linkedTree.AtOrBelow "t" "t/b" := .single (by decide +kernel)
    refine ⟨hdirectory.tail (by decide +kernel), by decide +kernel, by decide +kernel, ?_⟩
    rintro _ ⟨⟩ -
    decide +kernel
  · exact absurd (((hmem _).mp hin).2.2.2 "x" rfl (by decide)) (by decide +kernel)

end Load

end Assay
