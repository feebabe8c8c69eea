import Assay.Proofs.Wordings
import Mathlib.Data.List.Perm.Basic

/-
  Names of headers in other letters.

  The expected headers of a test and the headers of a response are gone through in the order of
  their names, as they are spelled.  In other letters the order is another one: an expectation is
  checked earlier or later, and a pattern that cannot be compiled ends the check at another place,
  before other headers have been looked at.

  None of this shows.  What is found for one expected header is a function of its name in small
  letters and its value (`Headers.finding`), and so is everything that a check reports, up to the
  spelling of names.  Two dictionaries that differ in the case of names have the same names in small
  letters, in some order (`Dict.Respelled`, a permutation).  So the proof turns a check into what is
  found for the single headers, where order is only order.

  1. Names in small letters.  A header of a response is looked up by its name in small letters
     (`Response.header?_eq`).  If no two names differ only in case (`Dict.Apart`), then the order of
     the entries does not matter for that (`lookup_of_perm`).

  2. What is found for one header.  A check without an error reports the findings one after the
     other (`checkAll_ok`), which is a `flatMap` over the expected headers and so respects a
     permutation of them.  A check that ends with an error has met a header whose pattern is one
     (`checkAll_error`), and `Unreadable` says so without the order: it is a header of the response,
     its expected value is a marker, and the pattern cannot be compiled.

  3. Two spellings.  An error in one spelling is the same error, at the same header, in the other
     one (`Unreadable.respelled`), so the two checks end with an error together, if perhaps at
     different headers; and if they do not, then they report the same (`exists_ok_of_respelled`).

  Nothing is used of the engine for patterns but that it answers equally to equal questions.
-/

namespace Assay

/-! ## Names in small letters -/

/-- A text with its basic Latin letters made small. -/
def Text.folded (s : String) : List Char := s.toList.map Text.asciiLower

theorem Text.alike_iff {a b : String} : Text.alike a b = true ↔ Text.folded a = Text.folded b :=
  beq_iff_eq

namespace Dict

variable {α : Type}

/-- An entry with its name in small letters. -/
def foldName (e : String × α) : List Char × α := (Text.folded e.1, e.2)

/-- The entries of a dictionary with their names in small letters. -/
def foldNames (d : Dict α) : List (List Char × α) := d.entries.map foldName

/-- A dictionary with the names of another one, which may be written in other letters, and with the
same values. -/
def Respelled (d d' : Dict α) : Prop := d.foldNames.Perm d'.foldNames

/-- The names of a dictionary differ in more than the case of their letters. -/
def Apart (d : Dict α) : Prop := (d.foldNames.map Prod.fst).Nodup

instance [DecidableEq α] (d d' : Dict α) : Decidable (Respelled d d') :=
  inferInstanceAs (Decidable (d.foldNames.Perm d'.foldNames))

instance (d : Dict α) : Decidable (Apart d) :=
  inferInstanceAs (Decidable (d.foldNames.map Prod.fst).Nodup)

theorem Respelled.symm {d d' : Dict α} (h : d.Respelled d') : d'.Respelled d := List.Perm.symm h

theorem Respelled.apart {d d' : Dict α} (h : d.Respelled d') (hapart : d.Apart) : d'.Apart :=
  (h.map Prod.fst).nodup_iff.mp hapart

/-- Every entry stands in a respelled dictionary, too. -/
theorem Respelled.exists_entry {d d' : Dict α} (h : d.Respelled d') {key : String} {value : α}
    (hmem : (key, value) ∈ d.entries) :
    ∃ key', (key', value) ∈ d'.entries ∧ Text.alike key key' = true := by
  have hfold : foldName (key, value) ∈ d'.foldNames := h.mem_iff.mp (List.mem_map_of_mem hmem)
  obtain ⟨⟨key', value'⟩, hmem', heq⟩ := List.mem_map.mp hfold
  obtain ⟨hkey, rfl⟩ := Prod.mk.inj heq
  exact ⟨key', hmem', Text.alike_iff.mpr hkey.symm⟩

end Dict

/-- What is listed under a name that occurs once. -/
theorem lookup_iff_mem {α β : Type} [BEq α] [LawfulBEq α] {es : List (α × β)} {a : α} {b : β}
    (h : (es.map Prod.fst).Nodup) : es.lookup a = some b ↔ (a, b) ∈ es := by
  rw [List.lookup_eq_some_iff]
  constructor
  · rintro ⟨front, back, rfl, -⟩
    exact List.mem_append_right _ List.mem_cons_self
  · intro hmem
    obtain ⟨front, back, rfl⟩ := List.append_of_mem hmem
    refine ⟨front, back, rfl, fun e he => ?_⟩
    rw [List.map_append, List.map_cons, List.nodup_append] at h
    have hne : e.1 ≠ a := h.2.2 e.1 (List.mem_map_of_mem he) a List.mem_cons_self
    simpa using hne.symm

/-- The order of entries with different names does not matter for looking up. -/
theorem lookup_of_perm {α β : Type} [BEq α] [LawfulBEq α] {es fs : List (α × β)} (h : es.Perm fs)
    (hnodup : (es.map Prod.fst).Nodup) (a : α) : es.lookup a = fs.lookup a := by
  have hnodup' : (fs.map Prod.fst).Nodup := (h.map Prod.fst).nodup_iff.mp hnodup
  refine Option.ext fun b => ?_
  rw [lookup_iff_mem hnodup, lookup_iff_mem hnodup', h.mem_iff]

/-- A header is found by its name in small letters. -/
theorem Response.header?_eq (r : Response) (name : String) :
    r.header? name = r.headers.foldNames.lookup (Text.folded name) := by
  rw [header?, Dict.foldNames]
  induction r.headers.entries with
  | nil => rfl
  | cons e rest ih =>
    have hsame : Text.alike e.1 name = (Text.folded name == Text.folded e.1) := Bool.beq_comm
    rw [List.find?_cons, List.map_cons, Dict.foldName, List.lookup_cons, ← hsame]
    cases Text.alike e.1 name with
    | true => rfl
    | false => exact ih

/-- A diagnostic up to the spelling of its place. -/
def Diagnostic.folded (d : Diagnostic) : String × Option (List Char) × String :=
  (d.checker, d.path.map Text.folded, d.message)

namespace Check.Headers

/-- As many diagnostics give the same answer. -/
theorem answer_of_length_eq {ds ds' : List Diagnostic} (h : ds.length = ds'.length) :
    Answer.ofReport (.ok ds) = Answer.ofReport (.ok ds') := by
  cases ds with
  | nil => rw [List.length_eq_zero_iff.mp h.symm]
  | cons d rest =>
    cases ds' with
    | nil => cases h
    | cons d' rest' => rfl

section Engine

-- What is found is compared as it comes from the engine, whichever this is.
variable [PatternEngine]

/-! ## What is found for one header -/

/-- What is found for an expected header with its name in small letters: a message if it is missing
or has another value, or why its pattern cannot be compiled. -/
def finding (sent : List (List Char × String)) (e : List Char × String) :
    Except Regex.Error (Option String) :=
  match sent.lookup e.1 with
  | none => .ok (some "header is missing")
  | some actual => (testText e.2 actual).map fun matched =>
      if matched then none
      else some ("expected " ++ Text.quote e.2 ++ ", got " ++ Text.quote actual)

/-- The same found for a header under the name that the test gives it. -/
def report (sent : List (List Char × String)) (e : String × String) :
    Except CheckError (List Diagnostic) :=
  match finding sent (Dict.foldName e) with
  | .ok message => .ok (message.toList.map (Diagnostic.anchored name e.1))
  | .error error => .error ⟨name, .headerPattern e.1 error⟩

theorem checkHeader_eq_report (r : Response) (header expected : String) :
    checkHeader r header expected = report r.headers.foldNames (header, expected) := by
  rw [checkHeader, report, finding, Response.header?_eq, Dict.foldName]
  cases r.headers.foldNames.lookup (Text.folded header) with
  | none => rfl
  | some actual =>
    dsimp only
    cases testText expected actual with
    | error e => rfl
    | ok matched => cases matched <;> rfl

/-- What is found for several headers, if no pattern among them is an error. -/
def messages (sent : List (List Char × String)) (e : List Char × String) :
    List (String × Option (List Char) × String) :=
  match finding sent e with
  | .ok (some message) => [(name, some e.1, message)]
  | _ => []

/-- An expected header of a response is written as a marker, and its pattern cannot be compiled. -/
def Unreadable (r : Response) (es : List (String × String)) (header : String)
    (error : Regex.Error) : Prop :=
  ∃ p actual, (header, marker p) ∈ es ∧ r.header? header = some actual ∧
  PatternEngine.compile p = .error error

variable {r : Response}

/-- A test of a text ends with an error exactly if the text is the marker of a pattern that is
one. -/
theorem testText_error_iff {expected actual : String} {error : Regex.Error} :
    testText expected actual = .error error ↔ ∃ p, expected = marker p ∧
    PatternEngine.compile p = .error error := by
  rw [testText]
  cases hp : patternOf? expected with
  | none =>
    constructor
    · intro h
      cases h
    · rintro ⟨p, rfl, -⟩
      cases hp.symm.trans (patternOf?_eq_some_iff.mpr rfl)
  | some p =>
    obtain rfl := patternOf?_eq_some_iff.mp hp
    have hsame : ∀ q, marker p = marker q → p = q := by
      intro q hq
      exact Option.some.inj (hp.symm.trans (patternOf?_eq_some_iff.mpr hq))
    show testPattern p actual = .error error ↔ _
    rw [testPattern]
    constructor
    · intro h
      refine ⟨p, rfl, ?_⟩
      cases hcompile : PatternEngine.compile p with
      | ok re => rw [hcompile] at h; cases h
      | error e => rw [hcompile] at h; cases h; rfl
    · rintro ⟨q, hq, hcompile⟩
      rw [hsame q hq, hcompile]
      rfl

/-- An error is found exactly for the headers with a pattern that is one. -/
theorem unreadable_iff {es : List (String × String)} {header : String} {error : Regex.Error} :
    Unreadable r es header error ↔
      ∃ value, (header, value) ∈ es ∧
        finding r.headers.foldNames (Text.folded header, value) = .error error := by
  have hfinding : ∀ value, finding r.headers.foldNames (Text.folded header, value) = .error error ↔
      ∃ actual, r.header? header = some actual ∧ testText value actual = .error error := by
    intro value
    rw [finding, ← Response.header?_eq]
    cases r.header? header with
    | none => simp
    | some actual => cases htest : testText value actual <;> simp [Except.map, htest]
  simp only [hfinding, testText_error_iff]
  constructor
  · rintro ⟨p, actual, hmem, hactual, hcompile⟩
    exact ⟨marker p, hmem, actual, hactual, p, rfl, hcompile⟩
  · rintro ⟨value, hmem, actual, hactual, p, rfl, hcompile⟩
    exact ⟨p, actual, hmem, hactual, hcompile⟩

/-- A check without an error: no pattern is one, and what is reported, up to the spelling of names,
is what is found for the single headers. -/
theorem checkAll_ok {es : List (String × String)} {ds : List Diagnostic}
    (h : checkAll r es = .ok ds) :
    (∀ header error, ¬Unreadable r es header error) ∧
      ds.map Diagnostic.folded = (es.map Dict.foldName).flatMap (messages r.headers.foldNames) := by
  induction es generalizing ds with
  | nil =>
    cases h
    exact ⟨fun _ _ ⟨_, _, hmem, _⟩ => absurd hmem List.not_mem_nil, rfl⟩
  | cons e rest ih =>
    rw [checkAll, checkHeader_eq_report, report] at h
    cases hfinding : finding r.headers.foldNames (Dict.foldName e) with
    | error error => rw [hfinding] at h; cases h
    | ok message =>
      rw [hfinding] at h
      cases hrest : checkAll r rest with
      | error error => rw [hrest] at h; cases h
      | ok others =>
        rw [hrest] at h
        cases h
        obtain ⟨hreadable, hothers⟩ := ih hrest
        refine ⟨?_, ?_⟩
        · intro header error hunreadable
          obtain ⟨value, hmem, herror⟩ := unreadable_iff.mp hunreadable
          rcases List.mem_cons.mp hmem with rfl | hmem
          · cases hfinding.symm.trans herror
          · exact hreadable header error (unreadable_iff.mpr ⟨value, hmem, herror⟩)
        · rw [List.map_append, hothers, List.map_cons, List.flatMap_cons, messages, hfinding]
          cases message <;> rfl

/-- A check that ends with an error: it is the pattern of one of the headers. -/
theorem checkAll_error {es : List (String × String)} {e : CheckError}
    (h : checkAll r es = .error e) :
    ∃ header error, e = ⟨name, .headerPattern header error⟩ ∧ Unreadable r es header error := by
  induction es with
  | nil => cases h
  | cons first rest ih =>
    rw [checkAll, checkHeader_eq_report, report] at h
    cases hfinding : finding r.headers.foldNames (Dict.foldName first) with
    | error error =>
      rw [hfinding] at h
      cases h
      exact ⟨first.1, error, rfl, unreadable_iff.mpr ⟨first.2, List.mem_cons_self, hfinding⟩⟩
    | ok message =>
      rw [hfinding] at h
      cases hrest : checkAll r rest with
      | ok others => rw [hrest] at h; cases h
      | error error =>
        rw [hrest] at h
        cases h
        obtain ⟨header, error', rfl, p, actual, hmem, hpattern⟩ := ih hrest
        exact ⟨header, error', rfl, p, actual, List.mem_cons_of_mem _ hmem, hpattern⟩

/-! ## Two spellings -/

/-- What is found does not depend on the order in which the headers of the response are listed. -/
theorem finding_congr {sent sent' : List (List Char × String)} (h : sent.Perm sent')
    (hnodup : (sent.map Prod.fst).Nodup) (e : List Char × String) :
    finding sent e = finding sent' e := by
  rw [finding, finding, lookup_of_perm h hnodup]

section Respelled

variable {t t' : TestCase} {r r' : Response}
    (hexpected : t.expect.headers.Respelled t'.expect.headers)
    (hsent : r.headers.Respelled r'.headers) (hapart : r.headers.Apart)
include hexpected hsent hapart

/-- A pattern that is an error in one spelling is the same error in the other one. -/
theorem Unreadable.respelled {header : String} {error : Regex.Error}
    (h : Unreadable r t.expect.headers.entries header error) :
    ∃ header', Text.alike header header' = true ∧
    Unreadable r' t'.expect.headers.entries header' error := by
  obtain ⟨p, actual, hmem, hactual, hcompile⟩ := h
  obtain ⟨header', hmem', halike⟩ := hexpected.exists_entry hmem
  have hsame : r.header? header = r'.header? header' := by
    rw [Response.header?_eq, Response.header?_eq, lookup_of_perm hsent hapart,
      Text.alike_iff.mp halike]
  exact ⟨header', halike, p, actual, hmem', hsame ▸ hactual, hcompile⟩

/-- A check without an error is one in the other spelling, too, and it reports the same. -/
theorem exists_ok_of_respelled {ds : List Diagnostic} (h : check t r = .ok ds) :
    ∃ ds', check t' r' = .ok ds' ∧ (ds.map Diagnostic.folded).Perm (ds'.map Diagnostic.folded) := by
  obtain ⟨hreadable, hds⟩ := checkAll_ok h
  cases hcheck : check t' r' with
  | error e =>
    -- An error here would be one there, whichever header it is met at.
    obtain ⟨_, error, -, hunreadable⟩ := checkAll_error hcheck
    obtain ⟨header, -, hunreadable⟩ :=
      Unreadable.respelled hexpected.symm hsent.symm (hsent.apart hapart) hunreadable
    exact absurd hunreadable (hreadable header error)
  | ok ds' =>
    have hsame : messages r.headers.foldNames = messages r'.headers.foldNames := by
      funext e
      rw [messages, messages, finding_congr hsent hapart]
    have hperm : (t.expect.headers.entries.map Dict.foldName).Perm
        (t'.expect.headers.entries.map Dict.foldName) := hexpected
    refine ⟨ds', rfl, ?_⟩
    rw [hds, (checkAll_ok hcheck).2, hsame]
    exact hperm.flatMap_right _

end Respelled

/-- Expected headers are checked whatever the case of their names.  Take the expected headers of a
test and the headers of a response, in which no two names differ only in case, and write any of the
names in other letters: the check comes to the same answer; if it is no error, then the same
messages are reported at the same names up to their spelling, in some order; and if it is one, it is
met at a header whose pattern is the same error in the other spelling, where the check ends with an
error as well. -/
theorem header_checks_ignore_spelling {t t' : TestCase} {r r' : Response}
    (hexpected : t.expect.headers.Respelled t'.expect.headers)
    (hsent : r.headers.Respelled r'.headers) (hapart : r.headers.Apart) :
    Answer.ofReport (check t r) = Answer.ofReport (check t' r') ∧
    (∀ ds, check t r = .ok ds → ∃ ds', check t' r' = .ok ds' ∧
      (ds.map Diagnostic.folded).Perm (ds'.map Diagnostic.folded)) ∧
    (∀ e, check t r = .error e → (∃ e', check t' r' = .error e') ∧
      ∃ header header' error, e = ⟨name, .headerPattern header error⟩ ∧
      Text.alike header header' = true ∧
        Unreadable r t.expect.headers.entries header error ∧
        Unreadable r' t'.expect.headers.entries header' error) := by
  have hforth (ds : List Diagnostic) (h : check t r = .ok ds) :=
    exists_ok_of_respelled hexpected hsent hapart h
  have hback (ds : List Diagnostic) (h : check t' r' = .ok ds) :=
    exists_ok_of_respelled hexpected.symm hsent.symm (hsent.apart hapart) h
  refine ⟨?_, hforth, fun e he => ⟨?_, ?_⟩⟩
  · cases hcheck : check t r with
    | ok ds =>
      obtain ⟨ds', hcheck', hperm⟩ := hforth ds hcheck
      rw [hcheck']
      exact answer_of_length_eq (by simpa using hperm.length_eq)
    | error e =>
      cases hcheck' : check t' r' with
      | error e' => rfl
      | ok ds' =>
        obtain ⟨ds, hds, -⟩ := hback ds' hcheck'
        cases hcheck.symm.trans hds
  · cases hcheck' : check t' r' with
    | error e' => exact ⟨e', rfl⟩
    | ok ds' =>
      obtain ⟨ds, hds, -⟩ := hback ds' hcheck'
      cases he.symm.trans hds
  · obtain ⟨header, error, rfl, hunreadable⟩ := checkAll_error he
    obtain ⟨header', halike, hunreadable'⟩ := hunreadable.respelled hexpected hsent hapart
    exact ⟨header, header', error, rfl, halike, hunreadable, hunreadable'⟩

end Engine

/-- A test that expects some headers. -/
def headerTest (headers : List (String × String)) : TestCase :=
  { TestCase.ofRequest default "headers" (.get "/") with
    expect := { Expectations.anything with headers := Dict.ofList headers } }

/-- A response with some headers. -/
def headerResponse (headers : List (String × String)) : Response :=
  ⟨200, "OK", Dict.ofList headers, "", ⟨0⟩⟩

/-- Two headers that are not as expected change places when the first one is written in small
letters. -/
theorem small_letters_change_the_order :
    Answer.ofReport
      (check (headerTest [("B", "2"), ("a", "1")]) (headerResponse [("A", "0"), ("c", "")])) =
      Answer.ofReport
        (check (headerTest [("b", "2"), ("a", "1")]) (headerResponse [("a", "0"), ("C", "")])) ∧
    check (headerTest [("B", "2"), ("a", "1")]) (headerResponse [("A", "0"), ("c", "")]) =
      .ok [.anchored name "B" "header is missing", .anchored name "a" "expected \"1\", got \"0\""] ∧
    check (headerTest [("b", "2"), ("a", "1")]) (headerResponse [("a", "0"), ("C", "")]) =
      .ok [.anchored name "a" "expected \"1\", got \"0\"",
        .anchored name "b" "header is missing"] := by
  refine ⟨(header_checks_ignore_spelling ?_ ?_ ?_).1, ?_, ?_⟩
  · decide +kernel
  · decide +kernel
  · decide +kernel
  · rfl
  · rfl

end Check.Headers

end Assay
