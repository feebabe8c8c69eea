import Assay.Proofs.Paths

/-
  Routes: paths that no query refuses.

  A route is a path as it is usually written: the root, at most one index behind it, and then hops
  (`Json.Route`).  A hop is a name with at most one index behind it, and an index is written in
  decimal, possibly with zeros in front.  The text of a route is cut into the segments that it was
  written from, and each of these leads where its name leads and then its index.  So a query of a
  route is the lookup of its steps, in every document (`query_route`), and it is never refused.

  A star may stand behind a route that has no index at its end.  It belongs to the last segment, and
  gives what the route without it leads to, if that is an array (`query_starred`).

  1. Lookup by rules.  `Leads` and `Breaks` say what steps lead to, or which of them leads nowhere,
     without any function; stepwise lookup agrees with them (`follow_eq_some_iff`,
     `follow_eq_none_iff`).

  2. The text of a segment.  A segment that is `Plain` has no dot and no bracket in its name, and is
     read as it was written (`ofChars_chars`).

  3. The text of segments in a row.  `spelled` is what follows the root.  It is cut between the
     segments (`splitSegments_spelled`, by induction on the row), the index behind the root making a
     piece without a name, which leads nowhere else (`querySegments_ofPieces`).  `query_spelled` is
     the result, for any segments.

  4. Routes.  Their segments are plain, and `steps` are the steps that they stand for.

  5. Following a route.  A segment leads where its steps lead (`querySegments_steps`), hops do
     whatever follows them (`querySegments_hops`, by induction), and so does a route
     (`querySegments_route`).  The induction has what follows as a parameter, so that it serves for
     a route alone and for one with a star behind it.
-/

namespace Assay

/-! ## Lookup by rules -/

namespace Json

/-- The steps lead from one value to another. -/
inductive Leads : Json → List Step → Json → Prop where
  /-- Without steps one stays where one is. -/
  | here (v : Json) : Leads v [] v
  /-- A name leads to the member that has it. -/
  | member {members : List (String × Json)} {key : String} {v w : Json} {rest : List Step} :
      lookup key members = some v → Leads v rest w → Leads (object members) (.member key :: rest) w
  /-- An index leads to the item at it. -/
  | item {items : List Json} {index : Nat} {v w : Json} {rest : List Step} :
      items[index]? = some v → Leads v rest w → Leads (array items) (.item index :: rest) w

/-- The steps lead to a value from which the next one of them leads nowhere. -/
def Breaks (v : Json) (steps : List Step) : Prop :=
  ∃ front s rest w, steps = front ++ s :: rest ∧ v.Leads front w ∧ ∀ u, ¬ w.Leads [s] u

/-- The first step finds its value, and the others lead on from there. -/
theorem leads_cons_iff {v w : Json} {s : Step} {rest : List Step} :
    v.Leads (s :: rest) w ↔ ∃ u, v.step? s = some u ∧ u.Leads rest w := by
  constructor
  · intro h
    cases h with
    | member hfound hrest => exact ⟨_, hfound, hrest⟩
    | item hfound hrest => exact ⟨_, hfound, hrest⟩
  · rintro ⟨u, hstep, hrest⟩
    cases s with
    | member key =>
      cases v with
      | object members => exact .member hstep hrest
      | _ => cases hstep
    | item index =>
      cases v with
      | array items => exact .item hstep hrest
      | _ => cases hstep

theorem leads_nil_iff {v w : Json} : v.Leads [] w ↔ v = w :=
  ⟨fun h => by cases h; rfl, fun h => h ▸ .here v⟩

/-- Lookup finds what the steps lead to. -/
theorem follow_eq_some_iff {steps : List Step} {v w : Json} :
    v.follow steps = some w ↔ v.Leads steps w := by
  induction steps generalizing v with
  | nil => rw [follow, leads_nil_iff, Option.some_inj]
  | cons s rest ih => simp only [follow, leads_cons_iff, Option.bind_eq_some_iff, ih]

theorem follow_append {front rest : List Step} (v : Json) :
    v.follow (front ++ rest) = (v.follow front).bind fun w => w.follow rest := by
  induction front generalizing v with
  | nil => rfl
  | cons s front ih =>
    rw [List.cons_append, follow, follow, Option.bind_assoc]
    exact congrArg _ (funext ih)

/-- A step leads nowhere if there is nothing at it. -/
theorem step?_eq_none_iff {v : Json} {s : Step} : v.step? s = none ↔ ∀ u, ¬ v.Leads [s] u := by
  simp only [Option.eq_none_iff_forall_ne_some, ← follow_singleton, ne_eq, follow_eq_some_iff]

/-- Lookup finds nothing exactly if one of the steps does not exist. -/
theorem follow_eq_none_iff {steps : List Step} {v : Json} :
    v.follow steps = none ↔ v.Breaks steps := by
  constructor
  · intro h
    induction steps generalizing v with
    | nil => cases h
    | cons s rest ih =>
      cases hstep : v.step? s with
      | none => exact ⟨[], s, rest, v, rfl, .here v, step?_eq_none_iff.mp hstep⟩
      | some u =>
        rw [follow, hstep, Option.bind_some] at h
        obtain ⟨front, t, back, w, rfl, hleads, hend⟩ := ih h
        exact ⟨s :: front, t, back, w, rfl, leads_cons_iff.mpr ⟨u, hstep, hleads⟩, hend⟩
  · rintro ⟨front, s, rest, w, rfl, hleads, hend⟩
    rw [follow_append, follow_eq_some_iff.mpr hleads, Option.bind_some, follow,
      step?_eq_none_iff.mpr hend]
    rfl

end Json

/-! ## The text of a segment -/

namespace Json

/-- A character is neither a dot nor a bracket, nor blank. -/
def PlainChar (c : Char) : Prop := c ≠ '.' ∧ c ≠ '[' ∧ c ≠ ']' ∧ Text.isBlank c = false

theorem PlainChar.no_cut {c : Char} (h : PlainChar c) : c ≠ '.' ∧ c ≠ '[' ∧ c ≠ ']' :=
  ⟨h.1, h.2.1, h.2.2.1⟩

theorem PlainChar.not_blank {c : Char} (h : PlainChar c) : Text.isBlank c = false := h.2.2.2

/-- A segment as it is written. -/
def Segment.chars (seg : Segment) : List Char :=
  seg.name ++ match seg.index with
    | none => []
    | some inner => '[' :: (inner ++ [']'])

/-- Nothing in a segment ends it early. -/
structure Segment.Plain (seg : Segment) : Prop where
  name : ∀ c ∈ seg.name, PlainChar c
  index : ∀ inner ∈ seg.index, ∀ c ∈ inner, PlainChar c

variable {seg : Segment}

theorem Segment.Plain.no_bracket (h : seg.Plain) : '[' ∉ seg.name :=
  fun hmem => (h.name _ hmem).2.1 rfl

/-- A segment is read as it was written. -/
theorem ofChars_chars (h : seg.Plain) : Segment.ofChars seg.chars = seg := by
  obtain ⟨name, index⟩ := seg
  cases index with
  | none =>
    rw [Segment.chars, List.append_nil]
    exact ofChars_name h.no_bracket
  | some inner => exact ofChars_index h.no_bracket inner

/-- The text of a segment stays together. -/
theorem splitSegments_chars (h : seg.Plain) (s : List Char) :
    splitSegments false (seg.chars ++ s) = glue seg.chars (splitSegments false s) := by
  obtain ⟨name, index⟩ := seg
  have hname : ∀ c ∈ name, c ≠ '.' ∧ c ≠ '[' ∧ c ≠ ']' := fun c hc => (h.name c hc).no_cut
  cases index with
  | none => rw [Segment.chars, List.append_nil, splitSegments_append hname]
  | some inner =>
    have hinner : ∀ c ∈ inner, c ≠ '.' ∧ c ≠ '[' ∧ c ≠ ']' :=
      fun c hc => (h.index inner rfl c hc).no_cut
    rw [Segment.chars, List.append_assoc, splitSegments_append hname, List.cons_append,
      List.append_assoc, List.singleton_append, splitSegments_bracketed hinner, glue_glue]

theorem Segment.Plain.not_blank (h : seg.Plain) {c : Char} (hc : c ∈ seg.chars) :
    Text.isBlank c = false := by
  obtain ⟨name, index⟩ := seg
  rcases List.mem_append.mp hc with hc | hc
  · exact (h.name c hc).not_blank
  · cases index with
    | none => cases hc
    | some inner =>
      rcases List.mem_cons.mp hc with rfl | hc
      · decide
      rcases List.mem_append.mp hc with hc | hc
      · exact (h.index inner rfl c hc).not_blank
      · rw [List.mem_singleton.mp hc]
        decide

/-! ## The text of segments in a row -/

/-- What follows the root: the index behind it, if there is one, and the other segments behind
dots. -/
def spelled (root : Segment) (segs : List Segment) : List Char :=
  root.chars ++ segs.flatMap fun seg => '.' :: seg.chars

variable {root : Segment} {segs : List Segment}

theorem spelled_append (root : Segment) (segs more : List Segment) :
    spelled root (segs ++ more) =
      spelled root segs ++ more.flatMap fun seg => '.' :: seg.chars := by
  rw [spelled, spelled, List.flatMap_append, List.append_assoc]

/-- The text of segments in a row is cut between them.  Induction on the row. -/
theorem splitSegments_spelled (hroot : root.Plain) (h : ∀ seg ∈ segs, seg.Plain) :
    splitSegments false (spelled root segs) = root.chars :: segs.map Segment.chars := by
  induction segs generalizing root with
  | nil =>
    rw [spelled, splitSegments_chars hroot]
    exact congrArg (· :: []) (List.append_nil _)
  | cons seg segs ih =>
    obtain ⟨hseg, hsegs⟩ := List.forall_mem_cons.mp h
    rw [spelled, splitSegments_chars hroot, List.flatMap_cons, List.cons_append, splitSegments_dot]
    -- Behind the dot the next segment is in the place of the root.
    change glue _ ([] :: splitSegments false (spelled seg segs)) = _
    rw [ih hseg hsegs, glue, List.append_nil]
    rfl

theorem spelled_not_blank (hroot : root.Plain) (h : ∀ seg ∈ segs, seg.Plain) :
    ∀ c ∈ spelled root segs, Text.isBlank c = false := by
  intro c hc
  rcases List.mem_append.mp hc with hc | hc
  · exact hroot.not_blank hc
  · obtain ⟨seg, hseg, hc⟩ := List.mem_flatMap.mp hc
    rcases List.mem_cons.mp hc with rfl | hc
    · decide
    · exact (h seg hseg).not_blank hc

/-- Pieces that are not empty are read as the segments that they were written from. -/
theorem ofPieces_chars (h : ∀ seg ∈ segs, seg.Plain ∧ seg.name ≠ []) :
    ofPieces (segs.map Segment.chars) = segs := by
  induction segs with
  | nil => rfl
  | cons seg segs ih =>
    obtain ⟨⟨hseg, hname⟩, hsegs⟩ := List.forall_mem_cons.mp h
    have hchars : seg.chars ≠ [] := List.append_ne_nil_of_left_ne_nil hname _
    rw [List.map_cons, ofPieces_cons hchars, ofChars_chars hseg, ih hsegs]

/-- The first piece may be empty, and then its segment leads nowhere else. -/
theorem querySegments_ofPieces {path : String} {v : Json} (hroot : root.Plain)
    (more : List (List Char)) :
    querySegments path v (ofPieces (root.chars :: more)) =
      querySegments path v (root :: ofPieces more) := by
  by_cases hempty : root.chars = []
  · obtain ⟨name, index⟩ := root
    obtain ⟨rfl, hbracket⟩ := List.append_eq_nil_iff.mp hempty
    cases index with
    | none => exact (querySegments_name (named_nil v)).symm
    | some inner => cases hbracket
  · rw [ofPieces_cons hempty, ofChars_chars hroot]

/-- A query follows the segments that its path was written from. -/
theorem query_spelled {path : String} (hpath : path.toList = '$' :: spelled root segs)
    (hroot : root.Plain) (h : ∀ seg ∈ segs, seg.Plain ∧ seg.name ≠ []) (v : Json) :
    v.query path = querySegments path v (root :: segs) := by
  have hplain : ∀ seg ∈ segs, seg.Plain := fun seg hseg => (h seg hseg).1
  rw [query_of_no_blank hpath (spelled_not_blank hroot hplain)]
  change querySegments path v (ofPieces _) = _
  rw [splitSegments_spelled hroot hplain, querySegments_ofPieces hroot, ofPieces_chars h]

end Json

/-! ## Routes -/

/-- A position as it is written: decimal digits, possibly with zeros in front, of a number that
memory can have a place for. -/
structure Numeral where
  digits : List Char
  nonempty : digits ≠ []
  decimal : ∀ c ∈ digits, c.isDigit = true
  fits : Nat.ofDigitChars 10 digits 0 < Json.indexLimit

/-- A name that can be part of a path, with at most one index behind it. -/
structure Hop where
  key : String
  plain : Step.PlainName key
  index : Option Numeral

/-- The root with at most one index behind it, and any number of hops behind that. -/
structure Route where
  first : Option Numeral
  hops : List Hop

namespace Numeral

/-- The position that is written. -/
def value (n : Numeral) : Nat := Nat.ofDigitChars 10 n.digits 0

/-- The step at an index, if there is one. -/
def steps (index : Option Numeral) : List Step := index.toList.map fun n => .item n.value

theorem readIndex_digits (n : Numeral) : Json.readIndex n.digits = some n.value :=
  Json.readIndex_of_digits n.nonempty n.decimal n.fits

theorem plainChar (n : Numeral) : ∀ c ∈ n.digits, Json.PlainChar c := by
  intro c hc
  have hdigit := n.decimal c hc
  obtain ⟨hdot, hopen, hclose⟩ := Json.isDigit_no_cut hdigit
  exact ⟨hdot, hopen, hclose, Text.isBlank_of_isDigit hdigit⟩

end Numeral

theorem Json.Segment.plain_of_index {name : List Char} (hname : ∀ c ∈ name, Json.PlainChar c)
    (index : Option Numeral) : (⟨name, index.map Numeral.digits⟩ : Json.Segment).Plain := by
  refine ⟨hname, fun inner hinner => ?_⟩
  obtain ⟨n, -, rfl⟩ := Option.map_eq_some_iff.mp hinner
  exact n.plainChar

theorem Json.Segment.plain_of_star {name : List Char} (hname : ∀ c ∈ name, Json.PlainChar c) :
    (⟨name, some ['*']⟩ : Json.Segment).Plain := by
  refine ⟨hname, fun inner hinner c hc => ?_⟩
  obtain rfl := Option.some.inj hinner
  rw [List.mem_singleton.mp hc, Json.PlainChar]
  decide

namespace Hop

/-- The segment of a name and its index. -/
def segment (hop : Hop) : Json.Segment := ⟨hop.key.toList, hop.index.map Numeral.digits⟩

/-- The steps of a name and its index. -/
def steps (hop : Hop) : List Step := .member hop.key :: Numeral.steps hop.index

theorem segment_plain (hop : Hop) : hop.segment.Plain :=
  Json.Segment.plain_of_index hop.plain.2 hop.index

end Hop

namespace Route

/-- The segment of the root. -/
def root (r : Route) : Json.Segment := ⟨[], r.first.map Numeral.digits⟩

/-- The route as a path. -/
def text (r : Route) : String := String.ofList ('$' :: Json.spelled r.root (r.hops.map Hop.segment))

/-- The steps of a route. -/
def steps (r : Route) : List Step := Numeral.steps r.first ++ r.hops.flatMap Hop.steps

/-- The index at the end of a route, if there is one. -/
def lastIndex (r : Route) : Option Numeral :=
  match r.hops.getLast? with
  | none => r.first
  | some hop => hop.index

variable {r : Route}

theorem root_plain : r.root.Plain :=
  Json.Segment.plain_of_index (List.forall_mem_nil _) r.first

theorem toList_text : r.text.toList = '$' :: Json.spelled r.root (r.hops.map Hop.segment) :=
  String.toList_ofList

/-- A route without an index at its end is the root alone, or ends in a name. -/
theorem open_cases (h : r.lastIndex = none) :
    r = ⟨none, []⟩ ∨ ∃ first front key plain, r = ⟨first, front ++ [⟨key, plain, none⟩]⟩ := by
  obtain ⟨first, hops⟩ := r
  rcases List.eq_nil_or_concat' hops with rfl | ⟨front, ⟨key, plain, index⟩, rfl⟩
  · have hfirst : first = none := h
    exact .inl (by rw [hfirst])
  · rw [lastIndex, List.getLast?_concat] at h
    have hindex : index = none := h
    exact .inr ⟨first, front, key, plain, by rw [hindex]⟩

variable {first : Option Numeral} {front : List Hop} {key : String} {plain : Step.PlainName key}

/-- A name at the end of a route is its last step. -/
theorem steps_concat :
    (⟨first, front ++ [⟨key, plain, none⟩]⟩ : Route).steps =
      (⟨first, front⟩ : Route).steps ++ [.member key] := by
  rw [steps, steps, List.flatMap_append, ← List.append_assoc]
  rfl

/-- With a star behind it, its segment has that for an index. -/
theorem toList_starred :
    ((⟨first, front ++ [⟨key, plain, none⟩]⟩ : Route).text ++ "[*]").toList =
      '$' :: Json.spelled (⟨first, front⟩ : Route).root
        (front.map Hop.segment ++ [⟨key.toList, some ['*']⟩]) := by
  rw [String.toList_append, toList_text, List.map_append, Json.spelled_append, Json.spelled_append,
    List.cons_append, List.append_assoc]
  simp [Hop.segment, Json.Segment.chars, root]

end Route

/-! ## Following a route -/

namespace Json

section Following

variable {path : String} {v : Json}

theorem named_key {key : String} (h : Step.PlainName key) (v : Json) :
    v.named key.toList = v.follow [.member key] := by
  rw [named_toList h.1, follow_singleton]
  rfl

/-- A segment leads where its name leads and then its index. -/
theorem querySegments_steps {name : List Char} {front : List Step}
    (h : v.named name = v.follow front) (index : Option Numeral) (rest : List Segment) :
    querySegments path v (⟨name, index.map Numeral.digits⟩ :: rest) =
      (v.follow (front ++ Numeral.steps index)).elim (.ok none)
        fun w => querySegments path w rest := by
  rw [follow_append]
  cases hfront : v.follow front with
  | none => exact querySegments_of_unnamed _ (h.trans hfront)
  | some w =>
    have hnamed := h.trans hfront
    cases index with
    | none => exact querySegments_name hnamed
    | some n =>
      have hread := n.readIndex_digits
      have hsteps : w.follow (Numeral.steps (some n)) = w.item? n.value :=
        follow_singleton w (.item n.value)
      rw [Option.map_some, querySegments_index hnamed (ne_star_of_readIndex hread), hread,
        Option.bind_some, hsteps]
      dsimp only
      cases w.item? n.value <;> rfl

theorem querySegments_root (r : Route) (rest : List Segment) :
    querySegments path v (r.root :: rest) =
      (v.follow (Numeral.steps r.first)).elim (.ok none) fun w => querySegments path w rest :=
  have hname : v.named [] = v.follow [] := named_nil v
  querySegments_steps hname r.first rest

theorem querySegments_hop (hop : Hop) (rest : List Segment) :
    querySegments path v (hop.segment :: rest) =
      (v.follow hop.steps).elim (.ok none) fun w => querySegments path w rest :=
  querySegments_steps (named_key hop.plain v) hop.index rest

/-- Hops lead where their steps lead, whatever follows them.  Induction on the hops. -/
theorem querySegments_hops (hops : List Hop) (rest : List Segment) :
    querySegments path v (hops.map Hop.segment ++ rest) =
      (v.follow (hops.flatMap Hop.steps)).elim (.ok none) fun w => querySegments path w rest := by
  induction hops generalizing v with
  | nil => rfl
  | cons hop hops ih =>
    rw [List.map_cons, List.cons_append, querySegments_hop, List.flatMap_cons, follow_append]
    cases v.follow hop.steps with
    | none => rfl
    | some w => exact ih

/-- A route leads where its steps lead, whatever follows it. -/
theorem querySegments_route (r : Route) (rest : List Segment) :
    querySegments path v (r.root :: (r.hops.map Hop.segment ++ rest)) =
      (v.follow r.steps).elim (.ok none) fun w => querySegments path w rest := by
  rw [querySegments_root, Route.steps, follow_append]
  cases v.follow (Numeral.steps r.first) with
  | none => rfl
  | some w => exact querySegments_hops r.hops rest

theorem querySegments_starred (name : List Char) (rest : List Segment) :
    querySegments path v (⟨name, some ['*']⟩ :: rest) = .ok (v.named name) := by
  cases hnamed : v.named name with
  | none => exact querySegments_of_unnamed _ hnamed
  | some w => exact querySegments_star hnamed

end Following

variable {v : Json} {r : Route}

theorem hops_plain {hops : List Hop} : ∀ seg ∈ hops.map Hop.segment, seg.Plain ∧ seg.name ≠ [] := by
  intro seg hseg
  obtain ⟨hop, -, rfl⟩ := List.mem_map.mp hseg
  exact ⟨hop.segment_plain, hop.plain.1⟩

/-- A query of a route is the lookup of its steps. -/
theorem query_route : v.query r.text = .ok (v.follow r.steps) := by
  rw [query_spelled Route.toList_text Route.root_plain hops_plain,
    ← List.append_nil (r.hops.map Hop.segment), querySegments_route]
  cases v.follow r.steps <;> rfl

/-- A star behind a route that has no index at its end gives what the route leads to.  The star
belongs to the last segment, so the route is split in front of that. -/
theorem query_starred (h : r.lastIndex = none) :
    v.query (r.text ++ "[*]") = .ok (v.follow r.steps) := by
  rcases Route.open_cases h with rfl | ⟨first, front, key, plain, rfl⟩
  · have hpath : (Route.text ⟨none, []⟩ ++ "[*]").toList = '$' :: spelled ⟨[], some ['*']⟩ [] := rfl
    have hstar : (⟨[], some ['*']⟩ : Segment).Plain := Segment.plain_of_star (List.forall_mem_nil _)
    rw [query_spelled hpath hstar (List.forall_mem_nil _), querySegments_starred]
    rfl
  · have hstar : (⟨key.toList, some ['*']⟩ : Segment).Plain := Segment.plain_of_star plain.2
    have hsegs : ∀ seg ∈ front.map Hop.segment ++ [⟨key.toList, some ['*']⟩],
        seg.Plain ∧ seg.name ≠ [] :=
      List.forall_mem_append.mpr ⟨hops_plain, List.forall_mem_singleton.mpr ⟨hstar, plain.1⟩⟩
    rw [query_spelled Route.toList_starred Route.root_plain hsegs, querySegments_route,
      Route.steps_concat, follow_append]
    cases v.follow (⟨first, front⟩ : Route).steps with
    | none => rfl
    | some w => rw [Option.elim_some, querySegments_starred, named_key plain, Option.bind_some]

/-- A route is never refused, in any document.  A query gives the value that its steps lead to, and
nothing exactly if one of them does not exist; a star in place of the last index gives the value
before it. -/
theorem routes_are_followed (v : Json) (r : Route) :
    v.query r.text = .ok (v.follow r.steps) ∧
    (∀ w, v.query r.text = .ok (some w) ↔ v.Leads r.steps w) ∧
    (v.query r.text = .ok none ↔ v.Breaks r.steps) ∧
    (r.lastIndex = none → v.query (r.text ++ "[*]") = v.query r.text) := by
  refine ⟨query_route, fun w => ?_, ?_, fun h => (query_starred h).trans query_route.symm⟩
  · rw [query_route, Except.ok.injEq, follow_eq_some_iff]
  · rw [query_route, Except.ok.injEq, follow_eq_none_iff]

/-- The users of the second item of a list. -/
def secondUsers : Route where
  first := some ⟨['0', '1'], by simp, by simp, by decide⟩
  hops := [⟨"users", by simp [Step.PlainName, Text.isBlank], none⟩]

theorem second_users_are_followed :
    secondUsers.text = "$[01].users" ∧ secondUsers.lastIndex = none ∧
    query (.array [.null, .object [("users", .string "Ada")]]) ("$[01].users" ++ "[*]") =
      .ok (some (.string "Ada")) := by
  refine ⟨rfl, rfl, ?_⟩
  obtain ⟨hquery, -, -, hstarred⟩ :=
    routes_are_followed (.array [.null, .object [("users", .string "Ada")]]) secondUsers
  exact (hstarred rfl).trans hquery

end Json

end Assay
