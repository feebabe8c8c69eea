import Assay.Output.Desk
import Assay.Proofs.Lines

/-
  New files in a directory.

  Sinks write their results by paths, into a tree of files whose links may lead anywhere.  To say
  what a directory holds after some files have been written to it, one has to know that writing a
  file does not lead the path of the directory elsewhere.  A tree that has at least the nodes of
  another one, each of the same kind, `Grows` from it, and a walk that succeeds does not change when
  its tree grows.  Writing a file under a name that its directory does not have only makes the tree
  grow: so the path of the directory leads to the same place afterwards, and its entries are those
  that were there and the new one.

  1. The names of a path.  A path is cut at its slashes (`splitAtChar_append`), and the path of an
     entry has the names of its directory and its own (`names_join`).

  2. Nodes.  What a walk asks of a node is its kind: a file, a directory, or a link with its target.
     `Grows` goes by kinds, place by place, and a new entry of a directory makes it grow (`put_new`,
     by induction on the place of the directory).

  3. Walks.  `walk_cons` is one step of a walk, by the kind of the node under the next name, and
     `walk_of_grows` carries a whole walk over to a tree that has grown.  The fuel and the number of
     links stay the same, so no bound is met that was not met before.

  4. Files of a directory.  `Leads` says that a path leads to a directory at a place, as
     `find_iff_leads` does in terms of the operations of a tree.  A file is written by creating it
     and then changing its content by its number; no other file of the directory has this number
     (`FilesBelow`), so the others stay as they are (`Leads.write`).

  5. Directories that hold texts.  `ResultDirectory.Holds` is the invariant that the sinks use: the
     directory has these files and no other entry, and can take more of them (`Holds.write`).  What
     it says about the tree alone is `Files.Tree.Lists`.
-/

namespace Assay

/-! ## The names of a path -/

namespace Text

/-- A text has at least one piece. -/
theorem splitAtChar_ne_nil (sep : Char) (s : List Char) : splitAtChar sep s ≠ [] := by
  cases s with
  | nil => exact List.cons_ne_nil _ _
  | cons c s =>
    rw [splitAtChar]
    split
    · exact List.cons_ne_nil _ _
    · split <;> exact List.cons_ne_nil _ _

/-- A text is cut at a separator into the pieces of what stands before it and behind it. -/
theorem splitAtChar_append (sep : Char) (front back : List Char) :
    splitAtChar sep (front ++ sep :: back) = splitAtChar sep front ++ splitAtChar sep back := by
  obtain ⟨piece, rest, hback⟩ := List.exists_cons_of_ne_nil (splitAtChar_ne_nil sep back)
  induction front with
  | nil => simp [splitAtChar, hback]
  | cons c front ih =>
    obtain ⟨piece', rest', hfront⟩ := List.exists_cons_of_ne_nil (splitAtChar_ne_nil sep front)
    rw [List.cons_append, splitAtChar, ih, splitAtChar, hfront]
    dsimp only [List.cons_append]
    split <;> rfl

/-- Without separators the text is one piece. -/
theorem splitAtChar_of_not_mem {sep : Char} {s : List Char} (h : sep ∉ s) :
    splitAtChar sep s = [s] := by
  induction s with
  | nil => rfl
  | cons c s ih =>
    rw [List.mem_cons, not_or] at h
    rw [splitAtChar, ih h.2]
    exact if_neg (Ne.symm h.1)

end Text

namespace Files

/-- A name of an entry: a text without a slash that is not empty and says nothing about
directories. -/
structure IsName (name : String) : Prop where
  noSlash : '/' ∉ name.toList
  ne_empty : name ≠ ""
  ne_dot : name ≠ "."
  ne_dots : name ≠ ".."

/-- Such a name does not start at the root. -/
theorem IsName.relative {name : String} (h : IsName name) : isAbsolute name = false :=
  decide_eq_false fun hhead => h.noSlash (List.mem_of_head? hhead)

/-- The name of an entry is a path of one name. -/
theorem names_of_isName {name : String} (h : IsName name) : names name = [name] := by
  rw [names, Text.splitAtChar_of_not_mem h.noSlash, List.map_singleton, String.ofList_toList,
    List.filter_singleton]
  simp [h.ne_empty, h.ne_dot]

theorem names_dot : names "." = [] := by decide

/-- The path of an entry is cut into pieces that name its directory and the pieces of its own
name. -/
theorem splitAtChar_join (path name : String) : ∃ front : List (List Char),
    Text.splitAtChar '/' (join path name).toList = front ++ Text.splitAtChar '/' name.toList ∧
    (front.map String.ofList).filter (fun n => n ≠ "" && n ≠ ".") = names path := by
  rw [join]
  split
  · next h =>
    rw [Bool.or_eq_true, beq_iff_eq, decide_eq_true_eq] at h
    rcases h with rfl | h
    · exact ⟨[], rfl, rfl⟩
    · obtain ⟨front, hfront⟩ := List.getLast?_eq_some_iff.mp h
      refine ⟨Text.splitAtChar '/' front, ?_, ?_⟩
      · rw [String.toList_append, hfront, List.append_assoc]
        exact Text.splitAtChar_append '/' front name.toList
      · rw [names, hfront, Text.splitAtChar_append, List.map_append, List.filter_append]
        exact (List.append_nil _).symm
  · refine ⟨Text.splitAtChar '/' path.toList, ?_, rfl⟩
    rw [String.toList_append, String.toList_append, List.append_assoc]
    exact Text.splitAtChar_append '/' path.toList name.toList

/-- The names of a path to an entry of a directory. -/
theorem names_join (path name : String) : names (join path name) = names path ++ names name := by
  obtain ⟨front, hsplit, hnames⟩ := splitAtChar_join path name
  rw [names, hsplit, List.map_append, List.filter_append, hnames]
  rfl

theorem join_empty (name : String) : join "" name = name := String.empty_append

/-- The path of an entry starts with that of its directory. -/
theorem join_eq_append (path name : String) : ∃ back, join path name = path ++ back := by
  rw [join]
  split
  · exact ⟨name, rfl⟩
  · exact ⟨"/" ++ name, String.append_assoc⟩

/-- The path of an entry ends with its name. -/
theorem join_eq_append_name (path name : String) : ∃ front, join path name = front ++ name := by
  rw [join]
  split
  · exact ⟨path, rfl⟩
  · exact ⟨path ++ "/", rfl⟩

theorem join_ne_empty {name : String} (path : String) (hname : name ≠ "") :
    join path name ≠ "" := by
  by_cases hpath : path = ""
  · rw [hpath, join_empty]
    exact hname
  · obtain ⟨back, hback⟩ := join_eq_append path name
    rw [hback]
    exact fun h => hpath (String.append_eq_empty_iff.mp h).1

/-- The path of an entry starts at the root exactly if that of its directory does. -/
theorem isAbsolute_join {name : String} (path : String) (hname : isAbsolute name = false) :
    isAbsolute (join path name) = isAbsolute path := by
  by_cases hpath : path = ""
  · rw [hpath, join_empty, hname]
    rfl
  · obtain ⟨back, hback⟩ := join_eq_append path name
    have hlist : path.toList ≠ [] := fun h => hpath (String.toList_eq_nil_iff.mp h)
    rw [hback, isAbsolute, isAbsolute, String.toList_append, List.head?_append_of_ne_nil _ hlist]

/-! ## Nodes -/

/-- What a node is to a path that goes through it. -/
inductive NodeKind where
  | file
  | link (target : String)
  | directory

namespace Node

/-- The kind of a node. -/
def kind : Node → NodeKind
  | file _ _ => .file
  | link target => .link target
  | directory _ => .directory

/-- A node has at least what is below another one, each node of the same kind. -/
def Grows (v v' : Node) : Prop :=
  ∀ place u, v.get? place = some u → ∃ u', v'.get? place = some u' ∧ u'.kind = u.kind

/-- What has grown twice has grown. -/
theorem Grows.trans {v v' v'' : Node} (h : v.Grows v') (h' : v'.Grows v'') : v.Grows v'' := by
  intro place u hu
  obtain ⟨u', hu', hkind⟩ := h place u hu
  obtain ⟨u'', hu'', hkind'⟩ := h' place u' hu'
  exact ⟨u'', hu'', hkind'.trans hkind⟩

theorem directory_of_kind {v : Node} (h : v.kind = .directory) : ∃ es, v = directory es := by
  cases v with
  | directory es => exact ⟨es, rfl⟩
  | file n content => cases h
  | link target => cases h

/-- A place is reached by two parts of it, one after the other. -/
theorem get?_append (v : Node) (front back : List String) :
    v.get? (front ++ back) = (v.get? front).bind fun u => u.get? back := by
  induction front generalizing v with
  | nil => rfl
  | cons n front ih =>
    cases v with
    | directory es =>
      rw [List.cons_append, get?, get?]
      cases entryIn n es with
      | none => rfl
      | some u => exact ih u
    | file k content => rfl
    | link target => rfl

/-- The entry of a directory is found behind its place. -/
theorem get?_entry {v : Node} {place : List String} {es : List (String × Node)}
    (h : v.get? place = some (directory es)) (n : String) :
    v.get? (place ++ [n]) = entryIn n es := by
  rw [get?_append, h, Option.bind_some, get?]
  cases entryIn n es <;> rfl

/-- A new entry is found under its name, and the others under theirs. -/
theorem entryIn_putEntry (n m : String) (v : Node) (es : List (String × Node)) :
    entryIn m (putEntry n v es) = if n = m then some v else entryIn m es := by
  induction es with
  | nil => rfl
  | cons e rest ih =>
    obtain ⟨k, u⟩ := e
    rw [putEntry]
    split
    · rfl
    · split
      · next hk =>
        subst hk
        rw [entryIn, entryIn]
        split <;> rfl
      · next hk =>
        rw [entryIn, ih, entryIn]
        split
        · next hkm => rw [if_neg (hkm ▸ hk)]
        · rfl

/-- Nothing is found under a name that no entry has. -/
theorem entryIn_eq_none {n : String} {es : List (String × Node)} :
    entryIn n es = none ↔ n ∉ es.map Prod.fst := by
  induction es with
  | nil => exact ⟨fun _ => List.not_mem_nil, fun _ => rfl⟩
  | cons e rest ih =>
    obtain ⟨k, u⟩ := e
    rw [entryIn, List.map_cons, List.mem_cons, not_or, ← ih]
    split
    · next hk => exact ⟨fun h => (by cases h), fun h => absurd hk.symm h.1⟩
    · next hk => exact ⟨fun h => ⟨Ne.symm hk, h⟩, fun h => h.2⟩

/-- A new entry is one more. -/
theorem perm_putEntry {n : String} {es : List (String × Node)} (h : entryIn n es = none)
    (v : Node) :
    (putEntry n v es).Perm ((n, v) :: es) := by
  induction es with
  | nil => exact .refl _
  | cons e rest ih =>
    obtain ⟨k, u⟩ := e
    rw [entryIn] at h
    split at h
    · cases h
    · next hk =>
      rw [putEntry, if_neg (Ne.symm hk)]
      split
      · exact .refl _
      · exact ((ih h).cons _).trans (.swap _ _ _)

/-- Putting something below an entry puts the changed entry back. -/
theorem put_cons (es : List (String × Node)) (node : Node) (d : String) (place : List String)
    (n : String) :
    (directory es).put node (d :: (place ++ [n])) =
      match entryIn d es with
      | some v => directory (putEntry d (v.put node (place ++ [n])) es)
      | none => directory es := by
  cases place <;> rfl

/-- A directory grows if its entry under a name does. -/
theorem grows_putEntry {d : String} {u : Node} {es : List (String × Node)}
    (h : ∀ w, entryIn d es = some w → w.Grows u) :
    (directory es).Grows (directory (putEntry d u es)) := by
  intro place x hx
  cases place with
  | nil =>
    cases hx
    exact ⟨_, rfl, rfl⟩
  | cons m place =>
    rw [get?] at hx ⊢
    rw [entryIn_putEntry]
    split
    · next hdm =>
      subst hdm
      obtain ⟨w, hw, hget⟩ := Option.bind_eq_some_iff.mp hx
      exact h w hw place x hget
    · exact ⟨x, hx, rfl⟩

/-- A new entry of a directory is found there, and nothing else is lost.  Induction on the place of
the directory. -/
theorem put_new {place : List String} {n : String} (node : Node) {es : List (String × Node)}
    (hnew : entryIn n es = none) : ∀ {v : Node}, v.get? place = some (directory es) →
      (v.put node (place ++ [n])).get? place = some (directory (putEntry n node es)) ∧
      v.Grows (v.put node (place ++ [n])) := by
  induction place with
  | nil =>
    intro v hv
    cases hv
    refine ⟨rfl, grows_putEntry ?_⟩
    rw [hnew]
    nofun
  | cons d place ih =>
    intro v hv
    cases v with
    | file k content => cases hv
    | link target => cases hv
    | directory es' =>
      rw [get?] at hv
      obtain ⟨w, hw, hplace⟩ := Option.bind_eq_some_iff.mp hv
      obtain ⟨hfound, hgrows⟩ := ih hplace
      rw [List.cons_append, put_cons, hw]
      refine ⟨?_, grows_putEntry ?_⟩
      · rw [get?, entryIn_putEntry, if_pos rfl]
        exact hfound
      · rw [hw]
        rintro _ ⟨⟩
        exact hgrows

end Node

/-! ## Walks -/

namespace Tree

/-- One step of a walk: what the next name leads to, by its kind. -/
theorem walk_cons {t : Tree} {place : List String} {es : List (String × Node)}
    (hplace : t.root.get? place = some (.directory es)) (followLast : Bool) (fuel links : Nat)
    (n : String) (rest : List String) : walk t followLast (fuel + 1) links place (n :: rest) =
      if n = ".." then
        if place.isEmpty then .error .notFound else walk t followLast fuel links place.dropLast rest
      else
        match (t.root.get? (place ++ [n])).map Node.kind with
        | none => .error .notFound
        | some (.link target) =>
          if rest.isEmpty && !followLast then .ok (place ++ [n])
          else if linkLimit ≤ links then .error .tooManyLinks
          else if isAbsolute target || target == "" then .error .notFound
          else walk t followLast fuel (links + 1) place (names target ++ rest)
        | some _ => walk t followLast fuel links (place ++ [n]) rest := by
  rw [walk, hplace, Node.get?_entry hplace]
  dsimp only
  refine if_congr Iff.rfl rfl ?_
  cases Node.entryIn n es with
  | none => rfl
  | some v => cases v <;> rfl

/-- A walk that succeeds goes the same way when the tree has grown.  Induction on the names that are
left to walk. -/
theorem walk_of_grows {t t' : Tree} (h : t.root.Grows t'.root) {followLast : Bool} :
    ∀ {fuel links : Nat} {place ns reached : List String},
      walk t followLast fuel links place ns = .ok reached →
        walk t' followLast fuel links place ns = .ok reached := by
  intro fuel
  induction fuel with
  | zero =>
    intro links place ns reached hwalk
    rw [walk] at hwalk
    cases hwalk
  | succ fuel ih =>
    intro links place ns reached hwalk
    cases ns with
    | nil => exact hwalk
    | cons n rest =>
      obtain ⟨es, hplace⟩ : ∃ es, t.root.get? place = some (.directory es) := by
        rw [walk] at hwalk
        split at hwalk
        · next es hplace => exact ⟨es, hplace⟩
        · cases hwalk
        · cases hwalk
      -- The walk stands at a directory in both trees, and the next name leads to one kind of node
      -- in both.
      obtain ⟨v, hplace', hkind⟩ := h place _ hplace
      obtain ⟨es', rfl⟩ := Node.directory_of_kind hkind
      rw [walk_cons hplace] at hwalk
      rw [walk_cons hplace']
      split at hwalk
      · next hup =>
        rw [if_pos hup]
        split at hwalk
        · cases hwalk
        · next hroot =>
          rw [if_neg hroot]
          exact ih hwalk
      next hup =>
      rw [if_neg hup]
      cases hn : t.root.get? (place ++ [n]) with
      | none =>
        rw [hn] at hwalk
        cases hwalk
      | some u =>
        obtain ⟨u', hu', hkind'⟩ := h (place ++ [n]) u hn
        rw [hn, Option.map_some] at hwalk
        rw [hu', Option.map_some, hkind']
        cases hk : u.kind with
        | file =>
          rw [hk] at hwalk
          exact ih hwalk
        | directory =>
          rw [hk] at hwalk
          exact ih hwalk
        | link target =>
          rw [hk] at hwalk
          dsimp only at hwalk ⊢
          split at hwalk
          · next hlast =>
            rw [if_pos hlast]
            exact hwalk
          next hlast =>
          rw [if_neg hlast]
          split at hwalk
          · cases hwalk
          next hlinks =>
          rw [if_neg hlinks]
          split at hwalk
          · cases hwalk
          next htarget =>
          rw [if_neg htarget]
          exact ih hwalk

/-! ## Files of a directory -/

/-- A path leads to a directory at a place. -/
structure Leads (t : Tree) (path : String) (place : List String) (es : List (String × Node)) :
    Prop where
  relative : isAbsolute path = false
  walked : walk t true nameLimit 0 [] (names path) = .ok place
  directory : t.root.get? place = some (.directory es)

/-- The path of a directory leads to the same place when the tree has grown. -/
theorem Leads.of_grows {t t' : Tree} {path : String} {place : List String}
    {es es' : List (String × Node)} (h : t.Leads path place es) (hgrows : t.root.Grows t'.root)
    (hdirectory : t'.root.get? place = some (.directory es')) : t'.Leads path place es' :=
  ⟨h.relative, walk_of_grows hgrows h.walked, hdirectory⟩

/-- A path with a dot behind it is walked like the path, and asks for a directory. -/
theorem locate_dot (t : Tree) {path : String} (hrelative : isAbsolute path = false) :
    t.locate (join path ".") true = (walk t true nameLimit 0 [] (names path) >>= fun place =>
      match t.root.get? place with
      | some (.directory _) => .ok place
      | some _ => .error .notDirectory
      | none => .error .notFound) := by
  have hback : (Text.splitAtChar '/' (join path ".").toList).getLast? = some ['.'] := by
    obtain ⟨front, hsplit, -⟩ := splitAtChar_join path "."
    rw [hsplit]
    exact List.getLast?_concat
  have hnames : names (join path ".") = names path := by
    rw [names_join, names_dot, List.append_nil]
  rw [locate, hback, hnames, isAbsolute_join path (by decide), hrelative,
    beq_false_of_ne (join_ne_empty path (by decide)), Bool.or_self, if_neg Bool.false_ne_true]
  refine bind_congr fun place => ?_
  rw [if_pos (by decide)]
  cases t.root.get? place with
  | none => rfl
  | some v => cases v <;> rfl

/-- A directory is found under its path; a dot stands behind it since the path itself may be
empty. -/
theorem find_iff_leads {t : Tree} {path : String} {es : List (String × Node)} :
    t.find (join path ".") = .ok (.directory es) ↔ ∃ place, t.Leads path place es := by
  rw [find]
  constructor
  · intro h
    obtain ⟨place, hlocate, hfound⟩ := Instant.bind_eq_ok h
    have hrelative : isAbsolute path = false := by
      rw [← isAbsolute_join path (by decide : isAbsolute "." = false)]
      rw [locate] at hlocate
      split at hlocate
      · cases hlocate
      · next hstart =>
          exact Bool.eq_false_iff.mpr fun habsolute => hstart (by rw [habsolute, Bool.or_true])
    rw [locate_dot t hrelative] at hlocate
    obtain ⟨place', hwalk, hplace⟩ := Instant.bind_eq_ok hlocate
    split at hplace
    · cases hplace
      split at hfound
      · next v hv =>
        cases hfound
        exact ⟨_, hrelative, hwalk, hv⟩
      · cases hfound
    · cases hplace
    · cases hplace
  · rintro ⟨place, hrelative, hwalk, hplace⟩
    rw [locate_dot t hrelative, hwalk]
    simp only [bind, Except.bind, hplace]
    rfl

/-- Changing a file changes entries one by one. -/
theorem changeEntries_putEntry (number : Nat) (f : List UInt8 → List UInt8) (n : String) (v : Node)
    (es : List (String × Node)) : changeEntries number f (Node.putEntry n v es) =
      Node.putEntry n (changeNode number f v) (changeEntries number f es) := by
  induction es with
  | nil => rfl
  | cons e rest ih =>
    obtain ⟨k, u⟩ := e
    rw [Node.putEntry, changeEntries, Node.putEntry]
    split
    · rfl
    · split
      · rfl
      · rw [changeEntries, ih]

theorem kind_changeNode (number : Nat) (f : List UInt8 → List UInt8) (v : Node) :
    (changeNode number f v).kind = v.kind := by
  cases v with
  | file n content =>
    rw [changeNode]
    split <;> rfl
  | link target => rfl
  | directory es => rfl

/-- Changing the content of a file changes no kinds. -/
theorem grows_changeNode (number : Nat) (f : List UInt8 → List UInt8) (v : Node) :
    v.Grows (changeNode number f v) := by
  intro place u hu
  refine ⟨changeNode number f u, ?_, kind_changeNode number f u⟩
  rw [get?_changeNode, hu]
  rfl

/-- The entries are files, and all of them are older than a number. -/
def FilesBelow (number : Nat) (es : List (String × Node)) : Prop :=
  ∀ e ∈ es, ∃ k content, e.2 = .file k content ∧ k < number

/-- A number that no entry has changes no entry. -/
theorem changeEntries_of_filesBelow {number : Nat} {es : List (String × Node)}
    (h : FilesBelow number es) (f : List UInt8 → List UInt8) : changeEntries number f es = es := by
  induction es with
  | nil => rfl
  | cons e rest ih =>
    obtain ⟨k, u⟩ := e
    obtain ⟨k', content, hu, hlt⟩ := h _ (List.mem_cons_self ..)
    dsimp only at hu
    subst hu
    rw [changeEntries, changeNode, if_neg (Nat.ne_of_lt hlt),
      ih fun e he => h e (List.mem_cons_of_mem _ he)]

/-- A file is created under a name that the directory does not have. -/
theorem Leads.create {t : Tree} {path : String} {place : List String} {es : List (String × Node)}
    (h : t.Leads path place es) {name : String} (hname : IsName name)
    (hnew : Node.entryIn name es = none) :
    t.create (join path name) =
      .ok (t.next, ⟨t.root.put (.file t.next []) (place ++ [name]), t.next + 1⟩) := by
  have hnames : names (join path name) = names path ++ [name] := by
    rw [names_join, names_of_isName hname]
  have hentry : t.entryPlace linkLimit (names (join path name)) = .ok (place, name) := by
    rw [hnames, linkLimit, entryPlace, List.getLast?_concat, List.dropLast_concat, h.walked]
    split
    · next hlast => cases hlast
    · next hlast => exact absurd (Option.some.inj hlast) hname.ne_dots
    · next n _ hlast =>
      cases hlast
      simp only [bind, Except.bind, h.directory, hnew]
      rfl
  have hend : (join path name).toList.getLast? ≠ some '/' := by
    obtain ⟨front, hfront⟩ := join_eq_append_name path name
    have hlist : name.toList ≠ [] := fun hnil => hname.ne_empty (String.toList_eq_nil_iff.mp hnil)
    rw [hfront, String.toList_append, List.getLast?_append_of_ne_nil _ hlist]
    exact fun hlast => hname.noSlash (List.mem_of_getLast? hlast)
  have hfree : t.root.get? (place ++ [name]) = none := by rw [Node.get?_entry h.directory, hnew]
  rw [Tree.create, isAbsolute_join path hname.relative, h.relative,
    beq_false_of_ne (join_ne_empty path hname.ne_empty), Bool.or_self, if_neg Bool.false_ne_true,
    hentry]
  simp only [bind, Except.bind, if_neg hend, hfree]
  rfl

/-- A file is written under a name that the directory does not have. -/
theorem Leads.write {t : Tree} {path : String} {place : List String} {es : List (String × Node)}
    (h : t.Leads path place es) (hfiles : FilesBelow t.next es) {name : String}
    (hname : IsName name) (hnew : Node.entryIn name es = none) (bytes : List UInt8) :
    ∃ t', t.write (join path name) bytes = .ok t' ∧
      t'.Leads path place (Node.putEntry name (.file t.next bytes) es) ∧ t'.next = t.next + 1 := by
  obtain ⟨hput, hgrows⟩ := Node.put_new (.file t.next []) hnew h.directory
  refine ⟨Tree.writeAt ⟨t.root.put (.file t.next []) (place ++ [name]), t.next + 1⟩ t.next 0 bytes,
    ?_, h.of_grows (hgrows.trans (grows_changeNode t.next (overwrite 0 bytes) _)) ?_, rfl⟩
  · rw [Tree.write, h.create hname hnew]
    rfl
  · -- The bytes change no other entry: the numbers of the others are lower than that of the new
    -- file.
    rw [Tree.writeAt, get?_changeNode, hput, Option.map_some, changeNode, changeEntries_putEntry,
      changeNode, if_pos rfl, changeEntries_of_filesBelow hfiles]
    simp [overwrite]

end Tree

end Files

/-! ## Directories that hold texts -/

/-- The content of a file. -/
def Files.Node.content? : Files.Node → Option (List UInt8)
  | .file _ content => some content
  | _ => none

/-- The directory that a path leads to has these files, each with its text, and no other entry.  The
empty path leads to the root. -/
def Files.Tree.Lists (t : Files.Tree) (path : String) (files : List (String × String)) : Prop :=
  ∃ es, t.find (Files.join path ".") = .ok (.directory es) ∧
    (es.map fun e => (e.1, e.2.content?)).Perm (files.map fun f => (f.1, some f.2.toUTF8.toList))

namespace ResultDirectory

/-- The directory of a path holds these files, and can take more of them. -/
def Holds (path : String) (t : Files.Tree) (files : List (String × String)) : Prop :=
  ∃ place es, t.Leads path place es ∧ Files.Tree.FilesBelow t.next es ∧
    (es.map fun e => (e.1, e.2.content?)).Perm (files.map fun f => (f.1, some f.2.toUTF8.toList))

theorem holds_empty {path : String} {t : Files.Tree}
    (h : t.find (Files.join path ".") = .ok (.directory [])) :
    Holds path t [] := by
  obtain ⟨place, hleads⟩ := Files.Tree.find_iff_leads.mp h
  exact ⟨place, [], hleads, List.forall_mem_nil _, .refl _⟩

/-- A directory lists what it holds. -/
theorem Holds.lists {path : String} {t : Files.Tree} {files : List (String × String)}
    (h : Holds path t files) :
    t.Lists path files := by
  obtain ⟨place, es, hleads, -, hperm⟩ := h
  exact ⟨es, Files.Tree.find_iff_leads.mpr ⟨place, hleads⟩, hperm⟩

/-- A file under a new name is added. -/
theorem Holds.write {path : String} {t : Files.Tree} {files : List (String × String)}
    (h : Holds path t files) {name : String} (hname : Files.IsName name)
    (hnew : name ∉ files.map Prod.fst) (text : String) :
    ∃ t', ResultDirectory.write path name text t = (.ok (), t') ∧
    Holds path t' (files ++ [(name, text)]) := by
  obtain ⟨place, es, hleads, hbelow, hperm⟩ := h
  have hfree : Files.Node.entryIn name es = none := by
    have hnames := hperm.map Prod.fst
    rw [List.map_map, List.map_map] at hnames
    exact Files.Node.entryIn_eq_none.mpr fun hmem => hnew (hnames.mem_iff.mp hmem)
  obtain ⟨t', hwrite, hleads', hnext⟩ := hleads.write hbelow hname hfree text.toUTF8.toList
  have hput := Files.Node.perm_putEntry hfree (.file t.next text.toUTF8.toList)
  refine ⟨t', ?_, place, _, hleads', ?_, ?_⟩
  · rw [ResultDirectory.write, hwrite]
  · intro e he
    rw [hnext]
    rcases List.mem_cons.mp (hput.mem_iff.mp he) with rfl | he
    · exact ⟨_, _, rfl, Nat.lt_succ_self _⟩
    · obtain ⟨k, content, hfile, hlt⟩ := hbelow e he
      exact ⟨k, content, hfile, Nat.lt_succ_of_lt hlt⟩
  · rw [List.map_append]
    exact ((hput.map _).trans (hperm.cons _)).trans (List.perm_append_singleton _ _).symm

end ResultDirectory

end Assay
