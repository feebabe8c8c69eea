import Assay.Proofs.Listing
import Assay.Proofs.Refusals
import Assay.Proofs.Runner

/-
  Loading is all or nothing.

  A file is accepted if it can be read as a text that is blank or is parsed to tests all of which
  are valid (`Load.Accepted`).  The tests of a location can be loaded exactly if every file that is
  listed is accepted.  Then they are the tests of the files, one file after the other, each with the
  path of its file (`Load.Parsed`, `Load.located`).  If some file is not accepted, the error is that
  of the first one (`Load.Offends`), and a run with it executes nothing.

  What the text of a file is read as is the matter of a reader (`DefinitionReader`), and it is never
  looked into: everything here holds for any reader.  What is decoded from the document of the
  reader and what is checked of it is the matter of this library.

  1. Identifiers.  Tests without an identifier of their own are numbered from file to file, so what
     a file is parsed to depends on how many tests stand before it.  Whether it is accepted does
     not: with other numbers the tests are the same but for their identifiers
     (`Load.parse_renumbered`).  This goes down to the decoder of a test case, in which the
     identifier is the only field that can come from a new number (`TestCase.decode_renumbered`).

  2. One file.  A file is loaded by reading its text, parsing it and checking its tests, and it is
     loaded exactly if it is accepted (`accepted_iff`).  A file that is not loaded offends
     (`offends_of_loadFile`): the first of the three steps that fails gives the error, and the error
     names the file (`Offends.names_file`).

  3. One file after the other.  `exists_loadFiles_iff`, `loadFiles_spec` and `loadFiles_error` are
     inductions on the files; the last one splits them at the first offender, as `before ++ path ::
     after`.

  4. The run.  An error of loading is returned before any test is handled, and all that is done is
     to finalize the sinks (`Runner.close_spec`).
-/

namespace Assay

/-! ## Identifiers -/

/-- Two test cases are the same but for their identifiers. -/
def TestCase.Renumbered (t t' : TestCase) : Prop := ∃ id, t' = { t with id := id }

/-- A test is valid whatever its identifier is. -/
theorem TestCase.Renumbered.validate_eq {t t' : TestCase} (h : t.Renumbered t') :
    t'.validate = t.validate := by
  obtain ⟨id, rfl⟩ := h
  rfl

/-- The name of a test that has been validated is not blank. -/
theorem TestCase.not_blank_of_validate {t : TestCase} (h : t.validate = .ok ()) :
    Text.blank t.name = false := by
  rw [validate] at h
  split at h
  · cases h
  · next hblank => exact Bool.eq_false_iff.mpr hblank

namespace Json

variable {α β : Type}

/-- A record is read whenever its fields are. -/
theorem finish_of_finish {fs : Fields} {shape : RecordShape} {tooLong : Nat → DecodeError}
    {r : Ranked α} {r' : Ranked β} {a : α} {b : β} (h : finish fs shape tooLong r = .ok a)
    (hb : r'.run = .ok b) :
    finish fs shape tooLong r' = .ok b := by
  rw [finish, of_finish h] at h
  rw [finish, hb]
  cases fs with
  | members ms => rfl
  | items vs =>
    dsimp only at h ⊢
    split at h
    · cases h
    · next hlength => rw [if_neg hlength]

/-- A field with a default is read whatever the default is. -/
theorem exists_withDefault {fs : Fields} {shape : RecordShape} {index : Nat} {name : String}
    {decode : Decoder α} {dflt a : α}
    (h : (fs.withDefault shape index name decode dflt).run = .ok a) (dflt' : α) :
    ∃ a', (fs.withDefault shape index name decode dflt').run = .ok a' := by
  unfold Fields.withDefault Fields.read at h ⊢
  cases fs with
  | members ms =>
    dsimp only at h ⊢
    cases hfound : findMember name ms 0 with
    | none => exact ⟨dflt', rfl⟩
    | some found =>
      rw [hfound] at h
      exact ⟨a, h⟩
  | items vs =>
    dsimp only at h ⊢
    cases hfound : vs[index]? with
    | none => exact ⟨dflt', rfl⟩
    | some found =>
      rw [hfound] at h
      exact ⟨a, h⟩

end Json

open Json (Ranked) in
/-- A definition that is understood with one new identifier is understood with any other one. -/
theorem TestCase.decode_renumbered {fresh : Uuid} {v : Json} {t : TestCase}
    (h : decode fresh v = .ok t) (fresh' : Uuid) :
    ∃ t', decode fresh' v = .ok t' ∧ t.Renumbered t' := by
  obtain ⟨fs, hfields, hfinish⟩ := Instant.bind_eq_ok h
  obtain ⟨_, dbChecks, beforeDbChecks, hdbChecks, rfl⟩ := Ranked.of_run_seq (Json.of_finish hfinish)
  obtain ⟨_, capture, beforeCapture, hcapture, rfl⟩ := Ranked.of_run_seq beforeDbChecks
  obtain ⟨_, bindings, beforeBindings, hbindings, rfl⟩ := Ranked.of_run_seq beforeCapture
  obtain ⟨_, mocks, beforeMocks, hmocks, rfl⟩ := Ranked.of_run_seq beforeBindings
  obtain ⟨_, fixtures, beforeFixtures, hfixtures, rfl⟩ := Ranked.of_run_seq beforeMocks
  obtain ⟨_, expect, beforeExpect, hexpect, rfl⟩ := Ranked.of_run_seq beforeFixtures
  obtain ⟨_, request, beforeRequest, hrequest, rfl⟩ := Ranked.of_run_seq beforeExpect
  obtain ⟨_, status, beforeStatus, hstatus, rfl⟩ := Ranked.of_run_seq beforeRequest
  obtain ⟨_, file, beforeFile, hfile, rfl⟩ := Ranked.of_run_seq beforeStatus
  obtain ⟨_, description, beforeDescription, hdescription, rfl⟩ := Ranked.of_run_seq beforeFile
  obtain ⟨_, name, beforeName, hname, rfl⟩ := Ranked.of_run_seq beforeDescription
  -- Only the first field can come from its default; the others are read as before.
  obtain ⟨id, hid, rfl⟩ := Ranked.of_run_map beforeName
  obtain ⟨id', hid'⟩ := Json.exists_withDefault hid fresh'
  refine ⟨_, ?_, id', rfl⟩
  rw [decode, Json.asRecord, hfields]
  refine Json.finish_of_finish hfinish ?_
  exact Ranked.run_seq
    (Ranked.run_seq (Ranked.run_seq (Ranked.run_seq (Ranked.run_seq (Ranked.run_seq
    (Ranked.run_seq (Ranked.run_seq (Ranked.run_seq (Ranked.run_seq (Ranked.run_seq
    (Ranked.run_map hid') hname) hdescription) hfile) hstatus) hrequest) hexpect) hfixtures)
    hmocks) hbindings) hcapture) hdbChecks

namespace Load

variable {fresh : Nat → Uuid} {tree : Files.Tree}

/-- Definitions that are understood with some numbers are understood with any other ones, and to the
same tests but for their identifiers. -/
theorem decodeFrom_renumbered {vs : List Json} {n : Nat} {tests : List TestCase}
    (h : decodeFrom fresh n vs = .ok tests) (m : Nat) :
    ∃ tests', decodeFrom fresh m vs = .ok tests' ∧
    List.Forall₂ TestCase.Renumbered tests tests' := by
  induction vs generalizing n m tests with
  | nil =>
    cases h
    exact ⟨[], rfl, .nil⟩
  | cons v vs ih =>
    obtain ⟨t, ht, h⟩ := Instant.bind_eq_ok h
    obtain ⟨ts, hts, h⟩ := Instant.bind_eq_ok h
    cases h
    obtain ⟨t', ht', hrenumbered⟩ := TestCase.decode_renumbered ht (fresh m)
    obtain ⟨ts', hts', hall⟩ := ih hts (m + 1)
    refine ⟨t' :: ts', ?_, .cons hrenumbered hall⟩
    rw [decodeFrom, ht', hts']
    rfl

/-- Tests are valid whatever their identifiers are. -/
theorem valid_of_renumbered {tests tests' : List TestCase}
    (h : List.Forall₂ TestCase.Renumbered tests tests')
    (hvalid : ∀ t ∈ tests, t.validate = .ok ()) :
    ∀ t ∈ tests', t.validate = .ok () := by
  induction h with
  | nil => exact List.forall_mem_nil _
  | cons hfirst _ ih =>
    obtain ⟨ht, htests⟩ := List.forall_mem_cons.mp hvalid
    exact List.forall_mem_cons.mpr ⟨hfirst.validate_eq.trans ht, ih htests⟩

/-! ## Actions that fail -/

section

variable {ε ε' α β : Type}

/-- Wording an error otherwise does not change a success. -/
theorem mapError_eq_ok_iff {x : Except ε α} {f : ε → ε'} {a : α} :
    x.mapError f = .ok a ↔ x = .ok a := by
  cases x with
  | error e => exact ⟨fun h => (by cases h), fun h => (by cases h)⟩
  | ok b => exact ⟨fun h => (by cases h; rfl), fun h => (by cases h; rfl)⟩

/-- Actions one after the other fail with the first of them that does. -/
theorem mapM_eq_error {f : α → Except ε β} {as : List α} {e : ε} (h : as.mapM f = .error e) :
    ∃ before a after, as = before ++ a :: after ∧ (∀ b ∈ before, ∃ c, f b = .ok c) ∧
    f a = .error e := by
  induction as with
  | nil => cases h
  | cons a as ih =>
    rw [List.mapM_cons] at h
    cases ha : f a with
    | error e' =>
      rw [ha] at h
      cases h
      exact ⟨[], a, as, rfl, List.forall_mem_nil _, ha⟩
    | ok b =>
      cases has : as.mapM f with
      | ok bs =>
        rw [ha, has] at h
        cases h
      | error e' =>
        rw [ha, has] at h
        cases h
        obtain ⟨before, x, after, rfl, hbefore, hx⟩ := ih has
        exact ⟨a :: before, x, after, rfl, List.forall_mem_cons.mpr ⟨⟨b, ha⟩, hbefore⟩, hx⟩

end

/-! ## The tests of a file -/

/-- The test with the path of its file. -/
def inFile (path : String) (t : TestCase) : TestCase := { t with file := some path }

/-- The tests of some files, each with the path of its file. -/
def located (paths : List String) (parsed : List (List TestCase)) : List TestCase :=
  (List.zipWith (fun path tests => tests.map (inFile path)) paths parsed).flatten

variable {path : String} {n : Nat}

/-- A test of a file is checked, and gets the path of the file. -/
def checked (path : String) (t : TestCase) : Except LoadError TestCase := do
  t.validate.mapError (.invalid path)
  return inFile path t

/-- A test passes the check exactly if it is valid. -/
theorem checked_eq_ok_iff {t u : TestCase} :
    checked path t = .ok u ↔ t.validate = .ok () ∧ u = inFile path t := by
  rw [checked]
  cases t.validate with
  | error e => exact ⟨fun h => (by cases h), fun h => (by cases h.1)⟩
  | ok _ => exact ⟨fun h => (by cases h; exact ⟨rfl, rfl⟩), fun h => (by rw [h.2]; rfl)⟩

/-- What is wrong with a test is reported with the path of its file. -/
theorem checked_eq_error {t : TestCase} {e : LoadError} (h : checked path t = .error e) :
    ∃ c, t.validate = .error c ∧ e = .invalid path c := by
  rw [checked] at h
  cases hvalidate : t.validate with
  | error c =>
    rw [hvalidate] at h
    cases h
    exact ⟨c, rfl, rfl⟩
  | ok _ =>
    rw [hvalidate] at h
    cases h

/-- All tests of a file pass if each of them is valid. -/
theorem mapM_checked_eq_ok_iff {tests loaded : List TestCase} :
    tests.mapM (checked path) = .ok loaded ↔
    (∀ t ∈ tests, t.validate = .ok ()) ∧ loaded = tests.map (inFile path) := by
  simp only [mapM_eq_ok_iff, checked_eq_ok_iff]
  induction tests generalizing loaded with
  | nil => simp
  | cons t tests ih =>
    simp only [List.forall₂_cons_left_iff, ih, List.forall_mem_cons, List.map_cons]
    constructor
    · rintro ⟨_, _, ⟨ht, rfl⟩, ⟨htests, rfl⟩, rfl⟩
      exact ⟨⟨ht, htests⟩, rfl⟩
    · rintro ⟨⟨ht, htests⟩, rfl⟩
      exact ⟨_, _, ⟨ht, rfl⟩, ⟨htests, rfl⟩, rfl⟩

section Reader

variable [DefinitionReader]

/-! ## Texts -/

/-- A blank text has no tests. -/
theorem parse_of_blank {text : String} (h : Text.blank text = true) : parse fresh n text = .ok [] :=
  if_pos h

/-- A text is parsed whatever the number of its first test, and to the same tests but for their
identifiers. -/
theorem parse_renumbered {text : String} {n : Nat} {tests : List TestCase}
    (h : parse fresh n text = .ok tests) (m : Nat) :
    ∃ tests', parse fresh m text = .ok tests' ∧ List.Forall₂ TestCase.Renumbered tests tests' := by
  rw [parse] at h ⊢
  split at h
  · next hblank =>
    cases h
    exact ⟨[], if_pos hblank, .nil⟩
  · next hblank =>
    rw [if_neg hblank]
    split at h
    · cases h
    · exact decodeFrom_renumbered h m
    · cases h

/-! ## Files that are accepted -/

/-- The file can be read as a text, and the text is blank or is parsed to tests all of which are
valid. -/
def Accepted (fresh : Nat → Uuid) (tree : Files.Tree) (path : String) : Prop :=
  ∃ text, tree.readText path = .ok text ∧
    (Text.blank text = true ∨
      ∃ tests, parse fresh 0 text = .ok tests ∧ ∀ t ∈ tests, t.validate = .ok ())

/-- What the texts of some files are parsed to, one file after the other.  The first test has the
given number. -/
inductive Parsed (fresh : Nat → Uuid) (tree : Files.Tree) :
    Nat → List String → List (List TestCase) → Prop
  | nil {n : Nat} : Parsed fresh tree n [] []
  | cons {n : Nat} {path text : String} {tests : List TestCase} {paths : List String}
      {rest : List (List TestCase)} :
      tree.readText path = .ok text → parse fresh n text = .ok tests →
      Parsed fresh tree (n + tests.length) paths rest →
      Parsed fresh tree n (path :: paths) (tests :: rest)

/-- The first thing wrong with a file whose first test has the given number, and the error about it:
the file cannot be read, its text is not parsed, or one of its tests is not valid while those before
it are. -/
inductive Offends (fresh : Nat → Uuid) (tree : Files.Tree) (n : Nat) (path : String) :
    LoadError → Prop
  | unreadable {e : IoError} : tree.readText path = .error e →
      Offends fresh tree n path (.unreadable path e)
  | unparsed {text : String} {e : DecodeError} :
      tree.readText path = .ok text → Text.blank text = false → parse fresh n text = .error e →
      Offends fresh tree n path (.parse path e)
  | invalid {text : String} {before after : List TestCase} {t : TestCase} {e : CaseError} :
      tree.readText path = .ok text → parse fresh n text = .ok (before ++ t :: after) →
      (∀ u ∈ before, u.validate = .ok ()) → t.validate = .error e →
      Offends fresh tree n path (.invalid path e)

/-- An error about a file names it. -/
theorem Offends.names_file {e : LoadError} (h : Offends fresh tree n path e) :
    path.toList <:+: e.message.toList := by
  -- The wordings differ in what stands in front of the path.
  have hbetween : ∀ front back : String,
    path.toList <:+: (front ++ path ++ ": " ++ back).toList := by
    intro front back
    simp only [String.toList_append, List.append_assoc]
    exact (List.prefix_append _ _).isInfix.trans (List.suffix_append _ _).isInfix
  cases h with
  | unreadable => exact hbetween "failed to read " _
  | unparsed => exact hbetween "failed to parse " _
  | invalid => exact hbetween "invalid test case in " _

/-! ## One file -/

/-- A file with a text is loaded by parsing the text, and checking the tests. -/
theorem loadFile_of_readText {text : String} (h : tree.readText path = .ok text) :
    loadFile fresh tree n path =
    (parse fresh n text).mapError (.parse path) >>= fun tests => tests.mapM (checked path) := by
  rw [loadFile, h]
  rfl

theorem loadFile_of_parse {text : String} {tests : List TestCase}
    (htext : tree.readText path = .ok text) (htests : parse fresh n text = .ok tests) :
    loadFile fresh tree n path = tests.mapM (checked path) := by
  rw [loadFile_of_readText htext, htests]
  rfl

theorem loadFile_eq_ok_iff {loaded : List TestCase} : loadFile fresh tree n path = .ok loaded ↔
    ∃ text tests, tree.readText path = .ok text ∧ parse fresh n text = .ok tests ∧
      (∀ t ∈ tests, t.validate = .ok ()) ∧ loaded = tests.map (inFile path) := by
  constructor
  · intro h
    obtain ⟨text, htext, h⟩ := Instant.bind_eq_ok h
    obtain ⟨tests, htests, h⟩ := Instant.bind_eq_ok h
    exact ⟨text, tests, mapError_eq_ok_iff.mp htext, mapError_eq_ok_iff.mp htests,
      mapM_checked_eq_ok_iff.mp h⟩
  · rintro ⟨text, tests, htext, htests, hvalid⟩
    rw [loadFile_of_parse htext htests]
    exact mapM_checked_eq_ok_iff.mpr hvalid

/-- A file that is not loaded offends, and the error is about what is wrong with it first. -/
theorem offends_of_loadFile {e : LoadError} (h : loadFile fresh tree n path = .error e) :
    Offends fresh tree n path e := by
  cases htext : tree.readText path with
  | error e' =>
    rw [loadFile, htext] at h
    cases h
    exact .unreadable htext
  | ok text =>
    cases htests : parse fresh n text with
    | error e' =>
      rw [loadFile_of_readText htext, htests] at h
      cases h
      refine .unparsed htext (Bool.eq_false_iff.mpr fun hblank => ?_) htests
      rw [parse_of_blank hblank] at htests
      cases htests
    | ok tests =>
      rw [loadFile_of_parse htext htests] at h
      obtain ⟨before, t, after, rfl, hbefore, ht⟩ := mapM_eq_error h
      obtain ⟨c, hc, rfl⟩ := checked_eq_error ht
      refine .invalid htext htests (fun u hu => ?_) hc
      obtain ⟨_, hchecked⟩ := hbefore u hu
      exact (checked_eq_ok_iff.mp hchecked).1

/-- A file is loaded exactly if it is accepted, whatever the number of its first test. -/
theorem accepted_iff (n : Nat) :
    Accepted fresh tree path ↔ ∃ loaded, loadFile fresh tree n path = .ok loaded := by
  constructor
  · rintro ⟨text, htext, hblank | ⟨tests, htests, hvalid⟩⟩
    · exact ⟨_,
        loadFile_eq_ok_iff.mpr ⟨text, [], htext, parse_of_blank hblank, List.forall_mem_nil _, rfl⟩⟩
    · obtain ⟨tests', htests', hsame⟩ := parse_renumbered htests n
      exact ⟨_, loadFile_eq_ok_iff.mpr ⟨text, tests', htext, htests',
        valid_of_renumbered hsame hvalid, rfl⟩⟩
  · rintro ⟨loaded, hloaded⟩
    obtain ⟨text, tests, htext, htests, hvalid, -⟩ := loadFile_eq_ok_iff.mp hloaded
    obtain ⟨tests', htests', hsame⟩ := parse_renumbered htests 0
    exact ⟨text, htext, .inr ⟨tests', htests', valid_of_renumbered hsame hvalid⟩⟩

/-! ## One file after the other -/

/-- The files behind one that is loaded are loaded with the next numbers. -/
theorem loadFiles_of_loadFile {loaded : List TestCase} (h : loadFile fresh tree n path = .ok loaded)
    (paths : List String) : loadFiles fresh tree n (path :: paths) =
      (loadFiles fresh tree (n + loaded.length) paths).map (loaded ++ ·) := by
  rw [loadFiles, h]
  show (loadFiles fresh tree (n + loaded.length) paths >>= fun more => .ok (loaded ++ more)) = _
  cases loadFiles fresh tree (n + loaded.length) paths <;> rfl

/-- The files are loaded exactly if each of them is accepted.  Induction on the files. -/
theorem exists_loadFiles_iff {paths : List String} :
    (∃ tests, loadFiles fresh tree n paths = .ok tests) ↔ ∀ path ∈ paths,
    Accepted fresh tree path := by
  induction paths generalizing n with
  | nil => exact iff_of_true ⟨[], rfl⟩ (List.forall_mem_nil _)
  | cons path paths ih =>
    rw [List.forall_mem_cons, accepted_iff n]
    constructor
    · rintro ⟨tests, h⟩
      obtain ⟨loaded, hloaded, h⟩ := Instant.bind_eq_ok h
      obtain ⟨more, hmore, -⟩ := Instant.bind_eq_ok h
      exact ⟨⟨loaded, hloaded⟩, ih.mp ⟨more, hmore⟩⟩
    · rintro ⟨⟨loaded, hloaded⟩, hpaths⟩
      obtain ⟨more, hmore⟩ := ih.mpr hpaths
      exact ⟨loaded ++ more, by rw [loadFiles_of_loadFile hloaded, hmore]; rfl⟩

/-- The tests of the files, if they are loaded. -/
theorem loadFiles_spec {paths : List String} {tests : List TestCase}
    (h : loadFiles fresh tree n paths = .ok tests) :
    ∃ parsed, Parsed fresh tree n paths parsed ∧ tests = located paths parsed ∧
      ∀ t ∈ tests, t.validate = .ok () := by
  induction paths generalizing n tests with
  | nil =>
    cases h
    exact ⟨[], .nil, rfl, List.forall_mem_nil _⟩
  | cons path paths ih =>
    obtain ⟨loaded, hloaded, h⟩ := Instant.bind_eq_ok h
    obtain ⟨more, hmore, h⟩ := Instant.bind_eq_ok h
    cases h
    obtain ⟨text, tests, htext, htests, hvalid, rfl⟩ := loadFile_eq_ok_iff.mp hloaded
    rw [List.length_map] at hmore
    obtain ⟨parsed, hparsed, rfl, hmorevalid⟩ := ih hmore
    refine ⟨tests :: parsed, .cons htext htests hparsed, rfl, ?_⟩
    rw [List.forall_mem_append, List.forall_mem_map]
    exact ⟨hvalid, hmorevalid⟩

/-- If the files are not loaded, then the error is that of the first one that is not. -/
theorem loadFiles_error {paths : List String} {e : LoadError}
    (h : loadFiles fresh tree n paths = .error e) :
    ∃ before path after parsed, paths = before ++ path :: after ∧
    Parsed fresh tree n before parsed ∧
      (∀ p ∈ before, Accepted fresh tree p) ∧
      loadFile fresh tree (n + parsed.flatten.length) path = .error e := by
  induction paths generalizing n with
  | nil => cases h
  | cons path paths ih =>
    cases hloaded : loadFile fresh tree n path with
    | error e' =>
      rw [loadFiles, hloaded] at h
      cases h
      exact ⟨[], path, paths, [], rfl, .nil, List.forall_mem_nil _, hloaded⟩
    | ok loaded =>
      -- The offender is among the other files, whose tests are numbered from where this file ends.
      rw [loadFiles_of_loadFile hloaded] at h
      cases hmore : loadFiles fresh tree (n + loaded.length) paths with
      | ok more =>
        rw [hmore] at h
        cases h
      | error e' =>
        rw [hmore] at h
        cases h
        obtain ⟨text, tests, htext, htests, -, rfl⟩ := loadFile_eq_ok_iff.mp hloaded
        rw [List.length_map] at hmore
        obtain ⟨before, offender, after, parsed, rfl, hparsed, hbefore, hoffender⟩ := ih hmore
        refine ⟨path :: before, offender, after, tests :: parsed, rfl, .cons htext htests hparsed,
          ?_, ?_⟩
        · exact List.forall_mem_cons.mpr ⟨(accepted_iff n).mpr ⟨_, hloaded⟩, hbefore⟩
        · rw [List.flatten_cons, List.length_append, ← Nat.add_assoc]
          exact hoffender

/-- Let the files of a location be listed.  Loading gives their tests exactly if every file is
accepted.  The tests are then those that the files are parsed to, one file after the other, each
with the path of its file; their names are not blank, and they capture by paths from the root.
Otherwise loading gives an error, which is about the first file that is not accepted, says what is
wrong with it first, and names it.  A run with it fails with this error: it leaves the executor and
the bridge as they were, and only finalizes the sinks. -/
theorem loading_is_all_or_nothing (fresh : Nat → Uuid) {tree : Files.Tree} {location : String}
    {filter : Option String} {paths : List String}
    (hlisted : files tree location filter = .ok paths) :
    ((∃ tests, load fresh tree location filter = .ok tests) ↔ ∀ path ∈ paths,
      Accepted fresh tree path) ∧
    (∀ tests, load fresh tree location filter = .ok tests →
      (∃ parsed, Parsed fresh tree 0 paths parsed ∧ tests = located paths parsed) ∧
      ∀ t ∈ tests, Text.blank t.name = false ∧ ∀ e ∈ t.capture.entries,
      TestCase.isRooted e.2 = true) ∧
    (∀ e, load fresh tree location filter = .error e →
      (∃ before path after parsed, paths = before ++ path :: after ∧
        (∀ p ∈ before, Accepted fresh tree p) ∧ ¬Accepted fresh tree path ∧
        Parsed fresh tree 0 before parsed ∧ Offends fresh tree parsed.flatten.length path e ∧
        path.toList <:+: e.message.toList) ∧
      ∀ {σ β ω : Type} (cfg : Settings) (sv : Services σ) (bridge : Bridge β) (timing : Timing)
        (executor : ExecutorState σ) (host : β) (sinks : List (Sink ω)) (world : ω),
        let f := Runner.run cfg sv bridge timing (load fresh tree location filter) executor host
          (Outputs.ofSinks sinks world)
        f.result = .error (.load e) ∧ f.executor = executor ∧ f.bridge = host ∧
        f.outputs.calls = Outputs.finalizes sinks.length ∧
        f.timeline = (Outputs.finalizes sinks.length).map .sink) := by
  have hload : load fresh tree location filter = loadFiles fresh tree 0 paths := by
    rw [load, hlisted]
    rfl
  rw [hload]
  refine ⟨exists_loadFiles_iff, fun tests htests => ?_, fun e he => ⟨?_, ?_⟩⟩
  · obtain ⟨parsed, hparsed, htests, hvalid⟩ := loadFiles_spec htests
    exact ⟨⟨parsed, hparsed, htests⟩, fun t ht =>
      ⟨TestCase.not_blank_of_validate (hvalid t ht), Executor.isRooted_of_validate (hvalid t ht)⟩⟩
  · obtain ⟨before, path, after, parsed, hpaths, hparsed, hbefore, hpath⟩ := loadFiles_error he
    rw [Nat.zero_add] at hpath
    have hoffends := offends_of_loadFile hpath
    refine ⟨before, path, after, parsed, hpaths, hbefore, fun haccepted => ?_, hparsed, hoffends,
      hoffends.names_file⟩
    obtain ⟨loaded, hloaded⟩ := (accepted_iff _).mp haccepted
    rw [hpath] at hloaded
    cases hloaded
  · intro σ β ω cfg sv bridge timing executor host sinks world
    rw [he]
    obtain ⟨-, hcalls, htime⟩ := Runner.close_spec
      (show (Runner.begin executor host (Outputs.ofSinks sinks world)).outputs.finalized =
        false from rfl)
    exact ⟨rfl, rfl, rfl, hcalls, htime⟩

end Reader

/-- Three files of tests: one with a test, a blank one, and one with a test that has a blank
name. -/
def mixedTree : Files.Tree where
  root := .directory [("t", .directory [
    ("a.yaml", .file 0 "- name: first\n  request:\n    path: /\n".toUTF8.toList),
    ("b.yaml", .file 1 " \n".toUTF8.toList),
    ("c.yaml", .file 2 "- name: ' '\n  request:\n    path: /\n".toUTF8.toList)])]
  next := 3

/-- The tests of the first file are lost because of the third. -/
theorem third_file_is_refused :
    files mixedTree "t" none = .ok ["t/a.yaml", "t/b.yaml", "t/c.yaml"] ∧
    load (fun n => .ofNat n) mixedTree "t" none = .error (.invalid "t/c.yaml" .emptyName) ∧
    ∃ before path after, ["t/a.yaml", "t/b.yaml", "t/c.yaml"] = before ++ path :: after ∧
      (∀ p ∈ before, Accepted (fun n => .ofNat n) mixedTree p) ∧
      ¬Accepted (fun n => .ofNat n) mixedTree path := by
  have hlisted : files mixedTree "t" none = .ok ["t/a.yaml", "t/b.yaml", "t/c.yaml"] := by
    decide +kernel
  have hload : load (fun n => .ofNat n) mixedTree "t" none =
    .error (.invalid "t/c.yaml" .emptyName) := by
    have herror : (load (fun n => .ofNat n) mixedTree "t" none).map List.length =
        .error (.invalid "t/c.yaml" .emptyName) := by decide +kernel
    cases hload : load (fun n => .ofNat n) mixedTree "t" none with
    | error e =>
      rw [hload] at herror
      cases herror
      rfl
    | ok tests =>
      rw [hload] at herror
      cases herror
  obtain ⟨-, -, herrors⟩ := loading_is_all_or_nothing (fun n => .ofNat n) hlisted
  obtain ⟨⟨before, path, after, -, hpaths, hbefore, hpath, -⟩, -⟩ := herrors _ hload
  exact ⟨hlisted, hload, before, path, after, hpaths, hbefore, hpath⟩

end Load

end Assay
