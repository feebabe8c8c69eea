import Assay.Proofs.Addresses
import Assay.Run.Executor
import Mathlib.Data.List.DropRight

/-
  The address that a path stands for behind a host.

  A request names a path, and the settings of a run name a host, which is itself an address and may
  have a path, a query and a fragment of its own.  The path is put behind the text of the host from
  which the slashes at its end are dropped, and what comes out is read as an address
  (`Executor.buildUrl`).

  So the segments of the path go on with whatever the text of the host ends with.  With a host that
  has neither query nor fragment this is the path of the host, as it should be.  With one that has a
  query it is the query, and with one that has a fragment the fragment; the path of the address then
  is that of the host alone.  The theorem of this module says so for every host of the web and every
  path of plain segments (`Plain`: letters and digits), with an equivalence for the case in which
  the segments become part of the path.

  Structure of the proof:

  1. Slashes at the end.  `dropSlashes` is seen through by one lemma for the last character
     (`dropSlashes_concat`, `dropSlashes_of_last`), and it stops at any other character
     (`dropSlashes_append`), in particular at the mark of a query or fragment.  The segments of a
     host are shortened to a front of them (`exists_dropSlashes_below`).

  2. The text that is read (`urlText_pathOf`): the text of the host without slashes at its end, and
     the segments with a slash in front of each (`below`), whether or not the path itself starts
     with one.

  3. The address that is read.  In each of the three cases there is an address in normal form whose
     text this is, namely the host with one part changed.  `buildUrl_pathOf` says that this is
     enough, since the text of an address in normal form is read as that address
     (`Url.Normal.parseChars_chars`).

  4. The request (`segments_go_on_with_the_last_part`), in which no placeholder is left to fill in,
     as plain segments have none.
-/

namespace Assay.Executor

open Url (partText pathText authorityText)

/-! ## Segments of letters and digits -/

/-- A text of letters and digits. -/
def Plain (s : List Char) : Prop := s ≠ [] ∧ ∀ c ∈ s, c.isAlphanum

/-- Segments, each behind a slash. -/
def below (segs : List (List Char)) : List Char := segs.flatMap fun seg => '/' :: seg

/-- A path of segments between single slashes, with a slash in front or without. -/
def pathOf (lead : Bool) (segs : List (List Char)) : String :=
  String.ofList ((if lead then ['/'] else []) ++ ['/'].intercalate segs)

variable {segs : List (List Char)} {s : List Char}

/-- Segments that are put behind something are made of slashes, letters and digits. -/
theorem of_mem_below (h : ∀ seg ∈ segs, Plain seg) {c : Char} (hc : c ∈ below segs) :
    c = '/' ∨ c.isAlphanum := by
  obtain ⟨seg, hseg, hc⟩ := List.mem_flatMap.mp hc
  rcases List.mem_cons.mp hc with hslash | hc
  · exact .inl hslash
  · exact .inr ((h seg hseg).2 c hc)

/-- Segments behind something are written as a path is. -/
theorem below_eq (hne : segs ≠ []) : below segs = '/' :: ['/'].intercalate segs :=
  Url.pathText_segments hne

/-- The first segment starts with a letter or digit. -/
theorem exists_intercalate_cons (hne : segs ≠ []) (h : ∀ seg ∈ segs, Plain seg) :
    ∃ c rest, ['/'].intercalate segs = c :: rest ∧ c.isAlphanum := by
  obtain ⟨first, more, rfl⟩ := List.exists_cons_of_ne_nil hne
  obtain ⟨hfirst, hplain⟩ := h first List.mem_cons_self
  obtain ⟨c, seg, rfl⟩ := List.exists_cons_of_ne_nil hfirst
  have hc : c.isAlphanum := hplain c List.mem_cons_self
  cases more with
  | nil => exact ⟨c, seg, List.intercalate_singleton, hc⟩
  | cons next more =>
    refine ⟨c, seg ++ ['/'] ++ ['/'].intercalate (next :: more), ?_, hc⟩
    rw [List.intercalate_cons_cons]
    rfl

/-- The last segment ends with a letter or digit. -/
theorem exists_below_concat (hne : segs ≠ []) (h : ∀ seg ∈ segs, Plain seg) :
    ∃ front c, below segs = front ++ [c] ∧ c ≠ '/' := by
  obtain ⟨before, last, rfl⟩ : ∃ before last, segs = before ++ [last] :=
    ⟨_, _, (List.dropLast_concat_getLast hne).symm⟩
  obtain ⟨hlast, hplain⟩ := h last (List.mem_append_right _ List.mem_cons_self)
  obtain ⟨front, c, rfl⟩ : ∃ front c, last = front ++ [c] :=
    ⟨_, _, (List.dropLast_concat_getLast hlast).symm⟩
  refine ⟨below before ++ '/' :: front, c, ?_, ?_⟩
  · simp [below]
  · rintro rfl
    exact absurd (hplain '/' (List.mem_append_right _ List.mem_cons_self)) (by decide)

/-- Letters and digits stand for themselves, and are no dots. -/
theorem segment_of_plain (h : Plain s) : Url.Segment s := by
  have hkeep {c : Char} (hc : c.isAlphanum) : Percent.keepPath c = true ∧
    (Text.asciiLower c).isAlphanum = true := by
    refine Text.of_latin
      (p := fun c => c.isAlphanum → Percent.keepPath c = true ∧
        (Text.asciiLower c).isAlphanum = true) ?_
      (Text.lt_of_isAlphanum hc) hc
    decide +kernel
  have hlower : (s.map Text.asciiLower).all Char.isAlphanum = true := by
    refine List.all_eq_true.mpr fun c hc => ?_
    obtain ⟨d, hd, rfl⟩ := List.mem_map.mp hc
    exact (hkeep (h.2 d hd)).2
  have hother {text : List Char} (htext : text.all Char.isAlphanum = false) :
      (s.map Text.asciiLower == text) = false := by
    refine beq_eq_false_iff_ne.mpr fun heq => ?_
    rw [← heq, hlower] at htext
    cases htext
  have hmark {c : Char} (hc : c.isAlphanum = false) : c ∉ s := fun hmem => by
    rw [h.2 c hmem] at hc
    cases hc
  refine ⟨fun c hc => ⟨Text.lt_of_isAlphanum (h.2 c hc), (hkeep (h.2 c hc)).1⟩, hmark rfl,
    hmark rfl, ?_, ?_⟩
  · rw [Url.isDot, hother rfl, hother rfl]
    rfl
  · rw [Url.isDoubleDot, hother rfl, hother rfl, hother rfl, hother rfl]
    rfl

/-! ## Slashes at the end -/

theorem dropSlashes_eq_rdropWhile (s : List Char) : dropSlashes s = s.rdropWhile (· = '/') := rfl

/-- Dropping slashes adds no character. -/
theorem mem_of_mem_dropSlashes {c : Char} (h : c ∈ dropSlashes s) : c ∈ s := by
  rw [dropSlashes_eq_rdropWhile] at h
  exact (List.rdropWhile_prefix _ s).mem h

/-- A slash at the end is dropped. -/
theorem dropSlashes_concat (s : List Char) : dropSlashes (s ++ ['/']) = dropSlashes s := by
  rw [dropSlashes_eq_rdropWhile, dropSlashes_eq_rdropWhile, List.rdropWhile_concat_pos _ _ _ rfl]

/-- Any other character at the end stops the dropping. -/
theorem dropSlashes_of_last (s : List Char) {c : Char} (hc : c ≠ '/') :
    dropSlashes (s ++ [c]) = s ++ [c] := by
  rw [dropSlashes_eq_rdropWhile, List.rdropWhile_concat_neg _ _ _ (by simpa using hc)]

/-- What stands in front of another character is left as it is. -/
theorem dropSlashes_append (s : List Char) {c : Char} (hc : c ≠ '/') (t : List Char) :
    dropSlashes (s ++ c :: t) = s ++ c :: dropSlashes t := by
  induction t using List.reverseRecOn with
  | nil => exact dropSlashes_of_last s hc
  | append_singleton t d ih =>
    have hconcat : s ++ c :: (t ++ [d]) = s ++ c :: t ++ [d] := by simp
    by_cases hd : d = '/'
    · rw [hconcat, hd, dropSlashes_concat, dropSlashes_concat, ih]
    · rw [dropSlashes_of_last t hd, hconcat, dropSlashes_of_last _ hd]

/-- Without slashes at the end, a path is made of the first of its segments. -/
theorem exists_dropSlashes_below {ss : List (List Char)} (h : ∀ s ∈ ss, Url.Segment s) :
    ∃ front, front <+: ss ∧ dropSlashes (below ss) = below front := by
  induction ss using List.reverseRecOn with
  | nil => exact ⟨[], List.prefix_rfl, rfl⟩
  | append_singleton ss last ih =>
    obtain ⟨hss, hlast⟩ := List.forall_mem_append.mp h
    have hbelow : below (ss ++ [last]) = below ss ++ '/' :: last := by simp [below]
    rcases List.eq_nil_or_concat' last with rfl | ⟨init, c, rfl⟩
    · obtain ⟨front, hfront, hdrop⟩ := ih hss
      exact ⟨front, hfront.trans (List.prefix_append _ _),
        by rw [hbelow, dropSlashes_concat, hdrop]⟩
    · have hc : c ≠ '/' := by
        rintro rfl
        exact (hlast _ List.mem_cons_self).noSlash (List.mem_append_right _ List.mem_cons_self)
      refine ⟨ss ++ [init ++ [c]], List.prefix_rfl, ?_⟩
      rw [hbelow, ← List.cons_append, ← List.append_assoc, dropSlashes_of_last _ hc]

/-- What ends with another character than a slash is not what has lost its slashes. -/
theorem ne_dropSlashes_append (s : List Char) (hne : segs ≠ []) (h : ∀ seg ∈ segs, Plain seg) :
    s ≠ dropSlashes s ++ below segs := by
  intro heq
  obtain ⟨front, c, hbelow, hc⟩ := exists_below_concat hne h
  have hdrop : dropSlashes (dropSlashes s ++ below segs) = dropSlashes s ++ below segs := by
    rw [hbelow, ← List.append_assoc, dropSlashes_of_last _ hc]
  rw [← heq] at hdrop
  have hlength := congrArg List.length heq
  rw [hdrop, List.length_append, hbelow, List.length_append, List.length_singleton] at hlength
  omega

/-! ## The text that is read -/

/-- The segments are put behind the text of the host. -/
theorem urlText_pathOf (host : Url) (lead : Bool) (hne : segs ≠ []) (h : ∀ seg ∈ segs, Plain seg) :
    urlText host (pathOf lead segs) = String.ofList (dropSlashes host.chars ++ below segs) := by
  have hchars : ∀ c ∈ (pathOf lead segs).toList, c = '/' ∨ c.isAlphanum := by
    intro c hc
    refine of_mem_below h ?_
    rw [pathOf, String.toList_ofList] at hc
    rw [below_eq hne]
    cases lead with
    | true => exact hc
    | false => exact List.mem_cons_of_mem _ hc
  -- Without a colon the path is not an address of its own.
  have hrelative {scheme : String} (hcolon : ':' ∈ scheme.toList) :
      Text.startsWith (pathOf lead segs) scheme = false := by
    refine Option.isSome_eq_false_iff.mpr (Option.isNone_iff_eq_none.mpr ?_)
    refine Option.eq_none_iff_forall_ne_some.mpr fun rest hrest => ?_
    have hmem : ':' ∈ (pathOf lead segs).toList := by
      rw [Text.stripFront_eq_some.mp hrest]
      exact List.mem_append_left _ hcolon
    rcases hchars ':' hmem with hslash | halnum
    · exact absurd hslash (by decide)
    · exact absurd halnum (by decide)
  rw [urlText, hrelative (by decide), hrelative (by decide), if_neg (by decide)]
  refine congrArg String.ofList ?_
  rw [pathOf, String.toList_ofList, below_eq hne]
  cases lead with
  | true => rfl
  | false =>
    obtain ⟨c, rest, hfirst, hc⟩ := exists_intercalate_cons hne h
    have hmark : c ≠ '/' ∧ c ≠ '?' := by constructor <;> rintro rfl <;> exact absurd hc (by decide)
    rw [if_neg Bool.false_ne_true, List.nil_append, hfirst]
    exact if_neg (by simp [hmark])

/-! ## The address that is read -/

/-- The path of a host without the slashes at its end, and the segments of a request behind it. -/
def pathBelow (host : Url) (segs : List (List Char)) : List Char :=
  dropSlashes (pathText true host.path) ++ below segs

variable {host : Url}

/-- The text of an address in front of its path. -/
def frontText (u : Url) : List Char :=
  u.scheme ++ [':'] ++
    match u.authority with
    | some a => '/' :: '/' :: authorityText a
    | none => []

/-- An address is written as what stands in front of its path, the path, the query and the fragment.
-/
theorem chars_eq (u : Url) : u.chars =
    frontText u ++ pathText u.authority.isSome u.path ++ partText '?' u.query ++
      partText '#' u.fragment := rfl

/-- An authority does not end with a slash. -/
theorem exists_frontText_concat (hhost : host.Normal) :
    ∃ front c, frontText host = front ++ [c] ∧ c ≠ '/' := by
  obtain ⟨a, ha, hnormal⟩ := hhost.authority
  obtain ⟨init, c, hc⟩ : ∃ init c, authorityText a = init ++ [c] :=
    ⟨_, _, (List.dropLast_concat_getLast (Url.authorityText_ne_nil hnormal)).symm⟩
  refine ⟨host.scheme ++ ':' :: '/' :: '/' :: init, c, ?_, ?_⟩
  · rw [frontText, ha]
    simp [hc]
  · rintro rfl
    have hends :=
      (Url.of_mem_authorityText hnormal (hc ▸ List.mem_append_right _ List.mem_cons_self)).2
    exact absurd hends (by decide)

/-- If the text that is read is that of an address in normal form, then this is the address. -/
theorem buildUrl_pathOf (joined : Url) (hjoined : joined.Normal)
    (hchars : joined.chars = dropSlashes host.chars ++ below segs) (lead : Bool) (hne : segs ≠ [])
    (h : ∀ seg ∈ segs, Plain seg) : buildUrl host (pathOf lead segs) = .ok joined := by
  rw [buildUrl, urlText_pathOf host lead hne h, ← hchars, Url.parse, String.toList_ofList,
    hjoined.parseChars_chars]
  rfl

/-- What goes on with segments is encoded as it was. -/
theorem encoded_below {keep : Char → Bool} (hslash : keep '/' = true)
    (hplain : ∀ n < 128, (Char.ofNat n).isAlphanum → keep (Char.ofNat n) = true)
    (h : ∀ seg ∈ segs, Plain seg) (hs : Percent.Encoded keep s) :
    Percent.Encoded keep (dropSlashes s ++ below segs) := by
  intro c hc
  rcases List.mem_append.mp hc with hc | hc
  · exact hs c (mem_of_mem_dropSlashes hc)
  · rcases of_mem_below h hc with rfl | hc
    · exact ⟨by decide, hslash⟩
    · have hlow : c.toNat < 128 := Text.lt_of_isAlphanum hc
      exact ⟨hlow, Text.of_latin (p := fun c => c.isAlphanum → keep c = true) hplain hlow hc⟩

/-- The segments go on with a fragment. -/
theorem buildUrl_fragment (hhost : host.Normal) {f : List Char} (hf : host.fragment = some f)
    (lead : Bool) (hne : segs ≠ []) (h : ∀ seg ∈ segs, Plain seg) :
    buildUrl host (pathOf lead segs) =
      .ok { host with fragment := some (dropSlashes f ++ below segs) } := by
  refine buildUrl_pathOf { host with fragment := some (dropSlashes f ++ below segs) }
    ⟨hhost.scheme, hhost.authority, hhost.path, hhost.query, ?_⟩ ?_ lead hne h
  · rintro _ ⟨⟩
    exact encoded_below (by decide) (by decide +kernel) h (hhost.fragment f hf)
  · rw [chars_eq host, hf]
    show _ = dropSlashes (_ ++ '#' :: f) ++ _
    rw [dropSlashes_append _ (by decide), List.append_assoc _ ('#' :: dropSlashes f)]
    rfl

/-- The segments go on with a query behind which there is no fragment. -/
theorem buildUrl_query (hhost : host.Normal) {q : List Char} (hq : host.query = some q)
    (hf : host.fragment = none) (lead : Bool) (hne : segs ≠ []) (h : ∀ seg ∈ segs, Plain seg) :
    buildUrl host (pathOf lead segs) =
      .ok { host with query := some (dropSlashes q ++ below segs) } := by
  refine buildUrl_pathOf { host with query := some (dropSlashes q ++ below segs) }
    ⟨hhost.scheme, hhost.authority, hhost.path, ?_, hhost.fragment⟩ ?_ lead hne h
  · rintro _ ⟨⟩
    exact encoded_below (by decide) (by decide +kernel) h (hhost.query q hq)
  · have hchars : host.chars =
        frontText host ++ pathText host.authority.isSome host.path ++ '?' :: q := by
      rw [chars_eq, hq, hf]
      exact List.append_nil _
    rw [hchars, dropSlashes_append _ (by decide), chars_eq]
    show frontText host ++ pathText host.authority.isSome host.path ++
      '?' :: (dropSlashes q ++ below segs) ++
      partText '#' host.fragment = _
    rw [hf, List.append_assoc _ ('?' :: dropSlashes q)]
    exact List.append_nil _

/-- The segments go on with a path behind which there is nothing. -/
theorem buildUrl_path (hhost : host.Normal) (hq : host.query = none) (hf : host.fragment = none)
    (lead : Bool) (hne : segs ≠ []) (h : ∀ seg ∈ segs, Plain seg) :
    ∃ path, pathText true path = pathBelow host segs ∧
      buildUrl host (pathOf lead segs) = .ok { host with path := path } := by
  obtain ⟨ss, hss, -, hsegments⟩ := hhost.path
  obtain ⟨front, hfront, hdrop⟩ := exists_dropSlashes_below hsegments
  have hpath : pathText true (.segments (front ++ segs)) = pathBelow host segs := by
    rw [pathBelow, hss]
    show below (front ++ segs) = dropSlashes (below ss) ++ below segs
    rw [hdrop]
    exact List.flatMap_append
  refine ⟨.segments (front ++ segs), hpath, ?_⟩
  refine buildUrl_pathOf { host with path := .segments (front ++ segs) }
    ⟨hhost.scheme, hhost.authority, ?_, hhost.query, hhost.fragment⟩ ?_ lead hne h
  · refine ⟨front ++ segs, rfl, List.append_ne_nil_of_right_ne_nil _ hne, fun s hs => ?_⟩
    rcases List.mem_append.mp hs with hs | hs
    · exact hsegments s (hfront.mem hs)
    · exact segment_of_plain (h s hs)
  · obtain ⟨a, ha, -⟩ := hhost.authority
    obtain ⟨before, c, hbefore, hc⟩ := exists_frontText_concat hhost
    have hchars : host.chars = frontText host ++ pathText true host.path := by
      rw [chars_eq, hq, hf, ha]
      simp [partText]
    have hdropped : dropSlashes (frontText host ++ pathText true host.path) =
        frontText host ++ dropSlashes (pathText true host.path) := by
      rw [hbefore, List.append_assoc, List.singleton_append, dropSlashes_append _ hc,
        List.append_assoc]
      rfl
    rw [hchars, hdropped, List.append_assoc, chars_eq]
    show frontText host ++ pathText host.authority.isSome (.segments (front ++ segs)) ++
      partText '?' host.query ++
      partText '#' host.fragment = frontText host ++ pathBelow host segs
    rw [hq, hf, ha, ← hpath]
    simp [partText]

/-! ## The request -/

/-- The segments of a request are put behind the last part of the host.  Scheme, user, host and port
stay.  The path is the one of the host and the segments exactly if the host has neither query nor
fragment. -/
theorem segments_go_on_with_the_last_part {cfg : Settings} {t : TestCase} {text : String}
    {lead : Bool} (hread : Url.parse text = .ok cfg.host) (hweb : Url.Web cfg.host.scheme)
    (hne : segs ≠ []) (hsegs : ∀ seg ∈ segs, seg ≠ [] ∧ ∀ c ∈ seg, c.isAlphanum)
    (hpath : t.request.path = pathOf lead segs) (hquery : t.request.query.isEmpty) :
    ∃ request, prepareRequest cfg t = .ok request ∧
      request.url.scheme = cfg.host.scheme ∧ request.url.authority = cfg.host.authority ∧
      (pathText true request.url.path = pathBelow cfg.host segs ↔ cfg.host.query = none ∧
        cfg.host.fragment = none) ∧
      (cfg.host.query = none → cfg.host.fragment = none →
        request.url.query = none ∧ request.url.fragment = none) ∧
      (∀ q, cfg.host.query = some q → cfg.host.fragment = none → request.url.path = cfg.host.path ∧
        request.url.query = some (dropSlashes q ++ below segs) ∧ request.url.fragment = none) ∧
      (∀ f, cfg.host.fragment = some f → request.url.path = cfg.host.path ∧
        request.url.query = cfg.host.query ∧
        request.url.fragment = some (dropSlashes f ++ below segs)) := by
  have hhost : cfg.host.Normal := Url.normal_of_parseChars hread hweb
  have hentries : t.request.query.entries = [] := List.isEmpty_iff.mp hquery
  have hprepare {url : Url} (hurl : buildUrl cfg.host (pathOf lead segs) = .ok url) :
      prepareRequest cfg t = .ok ⟨t.request.method, url, headersOf t.request, t.request.body⟩ := by
    rw [prepareRequest, hpath, hurl, hentries]
    rfl
  -- The fragment is written last, then the query: the last part that is there takes the segments.
  have hother : pathText true cfg.host.path ≠ pathBelow cfg.host segs :=
    ne_dropSlashes_append _ hne hsegs
  cases hfragment : cfg.host.fragment with
  | some f =>
    refine ⟨_, hprepare (buildUrl_fragment hhost hfragment lead hne hsegs), rfl, rfl, ?_,
      ?_, ?_, ?_⟩
    · exact iff_of_false hother nofun
    · exact nofun
    · exact nofun
    · rintro _ ⟨⟩
      exact ⟨rfl, rfl, rfl⟩
  | none =>
    cases hq : cfg.host.query with
    | some q =>
      refine ⟨_, hprepare (buildUrl_query hhost hq hfragment lead hne hsegs), rfl, rfl, ?_, nofun,
        ?_, nofun⟩
      · exact iff_of_false hother nofun
      · rintro _ ⟨⟩ -
        exact ⟨rfl, rfl, hfragment⟩
    | none =>
      obtain ⟨path, hbelow, hurl⟩ := buildUrl_path hhost hq hfragment lead hne hsegs
      refine ⟨_, hprepare hurl, rfl, rfl, ?_, fun _ _ => ⟨hq, hfragment⟩, nofun, nofun⟩
      exact iff_of_true hbelow ⟨rfl, rfl⟩

/-- A host with a path that ends with a slash. -/
def versionedHost : Url :=
  ⟨"http".toList, some ⟨[], .domain "api.local".toList, some 8080⟩, .segments ["v1".toList, []],
    none, none⟩

/-- A host that wants a key in the query. -/
def keyedHost : Url :=
  ⟨"http".toList, some ⟨[], .domain "sut.local".toList, none⟩, .segments ["v1".toList],
    some "key=1".toList, none⟩

/-- The settings of a run against a host. -/
def against (host : Url) : Settings := ⟨host, .empty, false, fun _ _ => ""⟩

/-- A test that gets a path. -/
def getting (path : String) : TestCase := { (default : TestCase) with request := .get path }

/-- Two segments without a slash in front get behind a path that ends with one. -/
theorem segments_behind_a_versioned_host :
    Url.parse "http://API.local:8080/v0/../v1/" = .ok versionedHost ∧
      ∃ request, prepareRequest (against versionedHost) (getting "users/7") = .ok request ∧
        request.url.scheme = versionedHost.scheme ∧
        request.url.authority = versionedHost.authority ∧
        pathText true request.url.path = "/v1/users/7".toList := by
  have hread : Url.parse "http://API.local:8080/v0/../v1/" = .ok (against versionedHost).host := by
    decide +kernel
  have hsegs : ∀ seg ∈ ["users".toList, "7".toList], seg ≠ [] ∧ ∀ c ∈ seg, c.isAlphanum := by simp
  have hpath : (getting "users/7").request.path = pathOf false ["users".toList, "7".toList] := by
    decide +kernel
  have hquery : (getting "users/7").request.query.isEmpty := rfl
  obtain ⟨request, hrequest, hscheme, hauthority, hbelow, -⟩ :=
    segments_go_on_with_the_last_part hread (.inl rfl) (List.cons_ne_nil _ _) hsegs hpath hquery
  exact ⟨hread, request, hrequest, hscheme, hauthority, hbelow.mpr ⟨rfl, rfl⟩⟩

/-- Behind a host with a query, the segments get into the query, and the path stays the one of the
host. -/
theorem segment_gets_into_the_query :
    Url.parse "http://sut.local/v1?key=1" = .ok keyedHost ∧
    pathOf true ["users".toList] = "/users" ∧
      ∃ request, prepareRequest (against keyedHost) (getting "/users") = .ok request ∧
        request.url.text = "http://sut.local/v1?key=1/users" ∧ request.url.path = keyedHost.path ∧
        pathBelow keyedHost ["users".toList] = "/v1/users".toList ∧
        pathText true request.url.path ≠ pathBelow keyedHost ["users".toList] := by
  have hjoined : Url.parse "http://sut.local/v1?key=1/users" =
      .ok { keyedHost with query := some "key=1/users".toList } := by decide +kernel
  have htext : urlText keyedHost "/users" = "http://sut.local/v1?key=1/users" := by decide +kernel
  have hrequest : prepareRequest (against keyedHost) (getting "/users") =
      .ok ⟨.get, { keyedHost with query := some "key=1/users".toList }, [], none⟩ := by
    rw [prepareRequest, buildUrl,
      show urlText (against keyedHost).host (getting "/users").request.path = _ from htext, hjoined]
    rfl
  exact ⟨by decide +kernel, by decide +kernel, _, hrequest, by decide +kernel⟩

end Assay.Executor
