import Assay.Proofs.Results

/-
  The histories of results.

  A result is known by the stem of its source file, two colons and the name of its test, and results
  that are known by the same text have one history.  This text is written into the file of the
  result.  It is not said anywhere that it tells all tests apart, and it does not, in two ways.

  * Of the path of a file its stem leaves out the folder and the extension.  So tests of the same
    name in two folders share a history if their files have the same name.
  * Two different pairs of a stem and a name may make the same text, if a part of the longer stem is
    a part of the name in the other pair (`Allure.Overlaps`); that takes a stem with a colon in it.

  The theorem of this module says that these are all the ways.  Two reports have the same history
  exactly if their stems and names are equal or overlap; and for files with stems, paths that lead
  to the same place are those with the same folder, stem and extension.

  1. Stems.  The name of a file is cut at its last dot, and nothing is lost by that
     (`eq_of_splitName_some`, `splitName_injective`).  `names_eq_iff` compares two paths by folder,
     stem and extension.

  2. Texts with two colons in between.  Of two equal texts one stem is the front of the other one,
     so either both parts are equal or they overlap (`append_colons_eq_iff`).

  3. What is written.  `WritesHistory` looks into the file that a directory of results writes for a
     report, and `writesHistory_fullName` says what is found there.  A report of a test that ends
     behind the calendar has no file.
-/

namespace Assay

namespace Files

/-! ## What a stem leaves out -/

variable {name name' before : String} {path path' : String}

/-- What stands behind the last dot, the dot, and the rest make up the text. -/
theorem eq_take_append_dot {s : List Char} (h : (s.reverse.takeWhile (· ≠ '.')).length < s.length) :
    s = s.take (s.length - (s.reverse.takeWhile (· ≠ '.')).length - 1) ++
      '.' :: (s.reverse.takeWhile (· ≠ '.')).reverse := by
  have hparts : s.reverse.takeWhile (· ≠ '.') ++ s.reverse.dropWhile (· ≠ '.') = s.reverse :=
    List.takeWhile_append_dropWhile
  have hstop := List.head?_dropWhile_not (· ≠ '.') s.reverse
  generalize s.reverse.takeWhile (· ≠ '.') = back at *
  cases hrest : s.reverse.dropWhile (· ≠ '.') with
  | nil =>
    rw [hrest, List.append_nil] at hparts
    rw [hparts, List.length_reverse] at h
    exact absurd h (Nat.lt_irrefl _)
  | cons c rest =>
    rw [hrest] at hparts hstop
    obtain rfl : c = '.' := by simpa using hstop
    have hs : s = rest.reverse ++ '.' :: back.reverse := by
      rw [← List.reverse_reverse s, ← hparts]
      simp
    have hlength : s.length - back.length - 1 = rest.reverse.length := by
      rw [hs]
      simp
      omega
    rw [hlength]
    conv => rhs; rw [hs, List.take_left]
    exact hs

/-- A name with an extension is what stands before the last dot, the dot and what stands behind
it. -/
theorem eq_of_splitName_some {behind : String} (h : splitName name = (before, some behind)) :
    name = before ++ "." ++ behind := by
  rw [splitName] at h
  split at h
  · next hlength =>
    simp only [Prod.mk.injEq, Option.some.injEq] at h
    obtain ⟨rfl, rfl⟩ := h
    have hdot : (name.toList.reverse.takeWhile (· ≠ '.')).length < name.toList.length := by
      rw [Bool.and_eq_true, decide_eq_true_eq] at hlength
      exact hlength.1
    refine String.toList_inj.mp ((eq_take_append_dot hdot).trans ?_)
    simp only [String.toList_append, String.toList_ofList, List.append_assoc]
    rfl
  · cases h

theorem eq_of_splitName_none (h : splitName name = (before, none)) : name = before := by
  rw [splitName] at h
  split at h
  · cases h
  · exact congrArg Prod.fst h

/-- Names that are cut into the same parts are the same. -/
theorem splitName_injective (h : splitName name = splitName name') : name = name' := by
  cases hsplit : splitName name' with
  | mk before behind =>
    rw [hsplit] at h
    cases behind with
    | none => rw [eq_of_splitName_none h, eq_of_splitName_none hsplit]
    | some behind => rw [eq_of_splitName_some h, eq_of_splitName_some hsplit]

/-- The names of the directories that a path leads through. -/
def folder (path : String) : List String := (names path).dropLast

/-- A path with a stem leads through its folder to its file. -/
theorem names_of_stem (h : (stem? path).isSome = true) :
    ∃ name, names path = folder path ++ [name] ∧
    stem? path = some (splitName name).1 ∧ extension? path = (splitName name).2 := by
  obtain ⟨stem, hstem⟩ := Option.isSome_iff_exists.mp h
  obtain ⟨name, hname, -⟩ := Option.map_eq_some_iff.mp hstem
  have hextension : extension? path = (splitName name).2 := by
    rw [extension?, hname, Option.bind_some]
  have hstem' : stem? path = some (splitName name).1 := by rw [stem?, hname, Option.map_some]
  refine ⟨name, ?_, hstem', hextension⟩
  rw [fileName?] at hname
  obtain ⟨last, hlast, hfile⟩ := Option.bind_eq_some_iff.mp hname
  split at hfile
  · cases hfile
  · cases hfile
    exact (List.dropLast_append_getLast? _ hlast).symm

/-- Paths with stems lead to the same place exactly if folder, stem and extension are the same. -/
theorem names_eq_iff (h : (stem? path).isSome = true) (h' : (stem? path').isSome = true) :
    names path = names path' ↔
      folder path = folder path' ∧ stem? path = stem? path' ∧
      extension? path = extension? path' := by
  refine ⟨fun heq => ?_, fun ⟨hfolder, hstem, hextension⟩ => ?_⟩
  · rw [folder, folder, stem?, stem?, extension?, extension?, fileName?, fileName?, heq]
    exact ⟨rfl, rfl, rfl⟩
  · obtain ⟨name, hnames, hname⟩ := names_of_stem h
    obtain ⟨name', hnames', hname'⟩ := names_of_stem h'
    rw [hname.1, hname'.1, Option.some.injEq] at hstem
    rw [hname.2, hname'.2] at hextension
    rw [hnames, hnames', hfolder, splitName_injective (Prod.ext hstem hextension)]

end Files

namespace Allure

/-! ## What a history is known by -/

/-- The second stem goes on where the first one ends, with a part of the first name. -/
def Overlaps (stem name stem' name' : List Char) : Prop :=
  (stem' = stem ++ [':'] ∧ name = ':' :: name') ∨
    ∃ part, stem' = stem ++ ':' :: ':' :: part ∧ name = part ++ ':' :: ':' :: name'

/-- Two pairs make the same text with two colons between them if they are equal or overlap. -/
theorem append_colons_eq_iff {stem name stem' name' : List Char} :
    stem ++ ':' :: ':' :: name = stem' ++ ':' :: ':' :: name' ↔
      stem = stem' ∧ name = name' ∨ Overlaps stem name stem' name' ∨
      Overlaps stem' name' stem name := by
  -- One of the stems is the front of the other one, which goes on inside the colons or behind them.
  have hlonger : ∀ {s n s' n' part : List Char}, s' = s ++ part →
    ':' :: ':' :: n = part ++ ':' :: ':' :: n' →
      s = s' ∧ n = n' ∨ Overlaps s n s' n' := by
    intro s n s' n' part hs hn
    match part with
    | [] =>
      cases hn
      exact .inl ⟨(List.append_nil s ▸ hs).symm, rfl⟩
    | [c] =>
      cases hn
      exact .inr (.inl ⟨hs, rfl⟩)
    | c :: d :: rest =>
      cases hn
      exact .inr (.inr ⟨rest, hs, rfl⟩)
  constructor
  · intro h
    rcases List.append_eq_append_iff.mp h with ⟨part, hstem, hname⟩ | ⟨part, hstem, hname⟩
    · exact (hlonger hstem hname).imp_right .inl
    · exact (hlonger hstem hname).imp (fun h => ⟨h.1.symm, h.2.symm⟩) .inr
  · rintro (⟨rfl, rfl⟩ | (⟨rfl, rfl⟩ | ⟨part, rfl, rfl⟩) | ⟨rfl, rfl⟩ | ⟨part, rfl, rfl⟩)
    · rfl
    all_goals simp

/-- A stem that overlaps a name has a colon in it. -/
theorem mem_of_overlaps {stem name stem' name' : List Char} (h : Overlaps stem name stem' name') :
    ':' ∈ stem' := by
  rcases h with ⟨rfl, -⟩ | ⟨part, rfl, -⟩
  · exact List.mem_append_right stem List.mem_cons_self
  · exact List.mem_append_right stem List.mem_cons_self

variable {suite : String} {r r' : TestReport}

/-- The text is the stem, two colons and the name. -/
theorem toList_fullName (suite : String) (r : TestReport) :
    (fullName suite r).toList = (suiteOf suite r).toList ++ ':' :: ':' :: r.name.toList := by
  rw [fullName, String.toList_append, String.toList_append, List.append_assoc]
  rfl

/-- Two results are known by the same text exactly if stem and name are equal or overlap. -/
theorem fullName_eq_iff : fullName suite r = fullName suite r' ↔
    suiteOf suite r = suiteOf suite r' ∧ r.name = r'.name ∨
      Overlaps (suiteOf suite r).toList r.name.toList (suiteOf suite r').toList r'.name.toList ∨
      Overlaps (suiteOf suite r').toList r'.name.toList (suiteOf suite r).toList r.name.toList := by
  rw [← String.toList_inj, toList_fullName, toList_fullName, append_colons_eq_iff,
    String.toList_inj, String.toList_inj]

/-- For a report the directory writes a file, in which it says by what the history of the result is
known.  It does so unless the test ends behind the calendar, when it writes nothing. -/
def WritesHistory (suite : String) (id : Uuid) (r : TestReport) (history : String) : Prop :=
  ∃ text v, Json.parse text = .ok v ∧ v.member? "historyId" = some (.string history) ∧
    ∀ {ω : Type} (write : FileWriter ω) (fresh : Nat → Uuid) (a : Allure), a.suite = suite →
      fresh a.drawn = id → receive write fresh a r =
        if r.finishedAt.isCovered then
          write (resultFile id) text >>= fun answer => pure (.ok (), a.received id r answer)
        else pure (.error overflow, { a with drawn := a.drawn + 1 })

theorem writesHistory_fullName (suite : String) (id : Uuid) (r : TestReport) :
    WritesHistory suite id r (fullName suite r) := by
  obtain ⟨v, hparsed, hmember⟩ := members_of_resultOf suite id r
  refine ⟨_, v, hparsed, ?_, ?_⟩
  · rw [hmember, resultOf, Json.member?]
    rfl
  · rintro ω write fresh a rfl rfl
    split
    · next hcovered => exact receive_of_covered write fresh a hcovered
    · next hcovered => exact receive_of_overflow write fresh a hcovered

/-- The suite of a report from a file is the stem of this file. -/
theorem suiteOf_of_stem {file : String} (hfile : r.file = some (.text file))
    (h : (Files.stem? file).isSome = true) : some (suiteOf suite r) = Files.stem? file := by
  obtain ⟨stem, hstem⟩ := Option.isSome_iff_exists.mp h
  rw [suiteOf, hfile, Option.bind_some, Files.SourcePath.shown, hstem]
  rfl

/-- Histories of two results.  What is written for a report says by what its history is known, and
it is the same for two reports exactly if they have the same stem and name, or the stem of one goes
on with a part of the name of the other.  If there is no colon in the stems, the stems and the names
are the same.  Files with the same stem lie at the same place exactly if their folders and
extensions are the same. -/
theorem histories_leave_out_folder_and_extension (suite : String) (id id' : Uuid)
    (r r' : TestReport) :
    ∃ history history', WritesHistory suite id r history ∧ WritesHistory suite id' r' history' ∧
      (history = history' ↔ suiteOf suite r = suiteOf suite r' ∧ r.name = r'.name ∨
        Overlaps (suiteOf suite r).toList r.name.toList (suiteOf suite r').toList r'.name.toList ∨
        Overlaps (suiteOf suite r').toList r'.name.toList (suiteOf suite r).toList r.name.toList) ∧
      (':' ∉ (suiteOf suite r).toList → ':' ∉ (suiteOf suite r').toList →
        (history = history' ↔ suiteOf suite r = suiteOf suite r' ∧ r.name = r'.name)) ∧
      ∀ file file', r.file = some (.text file) → r'.file = some (.text file') →
        (Files.stem? file).isSome = true → (Files.stem? file').isSome = true →
        (Files.names file = Files.names file' ↔ Files.folder file = Files.folder file' ∧
          suiteOf suite r = suiteOf suite r' ∧ Files.extension? file = Files.extension? file') := by
  refine ⟨_, _, writesHistory_fullName suite id r, writesHistory_fullName suite id' r',
    fullName_eq_iff,
    fun hcolon hcolon' => ?_, ?_⟩
  · refine fullName_eq_iff.trans (or_iff_left ?_)
    rintro (h | h)
    · exact hcolon' (mem_of_overlaps h)
    · exact hcolon (mem_of_overlaps h)
  · intro file file' hfile hfile' hstem hstem'
    rw [Files.names_eq_iff hstem hstem', ← suiteOf_of_stem hfile hstem,
      ← suiteOf_of_stem hfile' hstem', Option.some.injEq]

/-- A report of a test that is read from a file. -/
def reportFrom (file name : String) : TestReport where
  name := name
  file := some (.text file)
  outcome := .passed
  startedAt := ⟨1700000000, 0⟩
  duration := ⟨1000000⟩
  request := none
  response := none

/-- Two files with the same name in different folders, and in each a test with the same name: one
history. -/
theorem tests_in_two_folders_share_a_history :
    Files.names "t/a/users.yaml" ≠ Files.names "t/b/users.yaml" ∧
    WritesHistory "gauntlet" (.ofNat 1) (reportFrom "t/a/users.yaml" "create") "users::create" ∧
    WritesHistory "gauntlet" (.ofNat 2) (reportFrom "t/b/users.yaml" "create") "users::create" := by
  have hfirst : fullName "gauntlet" (reportFrom "t/a/users.yaml" "create") = "users::create" := by
    decide +kernel
  have hsecond : fullName "gauntlet" (reportFrom "t/b/users.yaml" "create") = "users::create" := by
    decide +kernel
  refine ⟨by decide +kernel, ?_, ?_⟩
  · rw [← hfirst]
    exact writesHistory_fullName _ _ _
  · rw [← hsecond]
    exact writesHistory_fullName _ _ _

/-- In one folder it takes a stem with colons in it. -/
example : fullName "gauntlet" (reportFrom "t/users.yaml" "admin::create") =
    fullName "gauntlet" (reportFrom "t/users::admin.yaml" "create") := by decide +kernel

end Allure

end Assay
