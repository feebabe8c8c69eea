import Assay.Proofs.Attempts
import Assay.Proofs.Directories
import Assay.Proofs.Indenting

/-
  Directories of results, in step with the reports.

  Over an empty directory every report becomes one file, and the end adds one container file.  The
  names of the files are made from identifiers; as long as these differ, no file is written over
  another one, and so no write fails.  What a directory of results has written is then known at
  every moment (`resultFiles`, `containerOfAll`), and so is what it remembers of it
  (`Allure.after`).

  The theorem says this for any number of reports and of closings, and that each file is read back
  as the document of its result or of the container, with times that are those of the report.  Its
  conditions are on the identifiers, which come from outside, and on the ends of tests, which have
  to lie within the calendar, since no file is written for a report of a test that ends behind it.

  1. Names of files.  The text of an identifier makes a name of an entry with anything behind it
     that has no slash (`isName_append`), and a result never has the file of a container
     (`resultFile_ne_containerFile`).

  2. Times.  The milliseconds of an instant of the calendar are an integer that a document can hold
     (`Valid.epochMillis_bounds`), as the calendar has less than a hundred million days on either
     side.

  3. Documents.  `IsResult` and `IsContainer` say what is in a document, field by field, without the
     text it is read from.  The members of an object with different names are read back
     (`parse_object`, which comes from the lemma about indented texts), and these two documents are
     built from such members (`parse_resultOf`, `parse_containerOf`).

  4. What a directory knows and holds.  One report is written to a new file (`receive_after`), some
     reports are, by induction (`receiveAll_after`), the container is (`finalize_after`), and then
     nothing more happens (`finalizeTimes_of_closed`).  The directory itself is known by
     `ResultDirectory.Holds`, which new files keep.
-/

namespace Assay

/-! ## Names of files -/

namespace Uuid

/-- The characters of an identifier are digits and hyphens. -/
theorem of_mem_text {u : Uuid} {c : Char} (h : c ∈ u.text.toList) :
    c = '-' ∨ (hexDigit? c).isSome = true := by
  rw [text, String.toList_ofList] at h
  simp only [List.mem_append, List.mem_cons] at h
  have hdigit : c ∈ hexText 32 u.value → (hexDigit? c).isSome = true := isDigit_hexText
  rcases h with ((((h | h | h) | h | h) | h | h) | h | h)
  · exact .inr (hdigit (List.mem_of_mem_take h))
  · exact .inl h
  · exact .inr (hdigit (List.mem_of_mem_drop (List.mem_of_mem_take h)))
  · exact .inl h
  · exact .inr (hdigit (List.mem_of_mem_drop (List.mem_of_mem_take h)))
  · exact .inl h
  · exact .inr (hdigit (List.mem_of_mem_drop (List.mem_of_mem_take h)))
  · exact .inl h
  · exact .inr (hdigit (List.mem_of_mem_drop h))

theorem length_text (u : Uuid) : u.text.toList.length = 36 := by
  rw [text, String.toList_ofList]
  simp [length_hexText]

theorem text_injective {u v : Uuid} (h : u.text = v.text) : u = v := by
  have hparsed := parse_text u
  rw [h, parse_text v] at hparsed
  exact (Except.ok.inj hparsed).symm

/-- A text behind an identifier makes the name of a file. -/
theorem isName_append (u : Uuid) {back : String} (h : '/' ∉ back.toList) :
    Files.IsName (u.text ++ back) := by
  have hlength : 36 ≤ (u.text ++ back).toList.length := by
    rw [String.toList_append, List.length_append, length_text]
    exact Nat.le_add_right _ _
  refine ⟨?_, ?_, ?_, ?_⟩
  · rw [String.toList_append, List.mem_append, not_or]
    refine ⟨fun hmem => ?_, h⟩
    rcases of_mem_text hmem with hslash | hslash
    · exact absurd hslash (by decide)
    · exact absurd hslash (by decide)
  all_goals
    intro hshort
    rw [hshort] at hlength
    exact absurd hlength (by decide)

end Uuid

namespace Allure

theorem isName_resultFile (id : Uuid) : Files.IsName (resultFile id) := id.isName_append (by decide)

theorem isName_containerFile (id : Uuid) : Files.IsName (containerFile id) :=
  id.isName_append (by decide)

theorem resultFile_injective {id id' : Uuid} (h : resultFile id = resultFile id') : id = id' :=
  Uuid.text_injective ((String.append_left_inj _).mp h)

/-- No result has the file of a container. -/
theorem resultFile_ne_containerFile (id id' : Uuid) : resultFile id ≠ containerFile id' := by
  intro h
  have hlength := congrArg (fun s => s.toList.length) h
  simp [resultFile, containerFile, Uuid.length_text] at hlength

end Allure

/-! ## Times -/

namespace Instant

/-- The calendar has less than a hundred million days on either side. -/
theorem number_bounds {d : Day} (hyear : yearInRange d.year = true)
    (hmonth : 1 ≤ d.month ∧ d.month ≤ 12) (hday : 1 ≤ d.day ∧ d.day ≤ 31) :
    -100000000 ≤ d.number ∧ d.number ≤ 100000000 := by
  rw [yearInRange, Bool.and_eq_true, decide_eq_true_eq, decide_eq_true_eq] at hyear
  unfold Day.number
  dsimp only
  omega

/-- The milliseconds of an instant of the calendar are an integer of documents. -/
theorem Valid.epochMillis_bounds {t : Instant} (h : t.Valid) :
    -0x8000000000000000 ≤ t.epochMillis ∧ t.epochMillis < 0x10000000000000000 := by
  have hday := day_ofNumber (t.seconds / 86400)
  have hdays :=
    number_bounds h.covered (month_ofNumber _) ⟨hday.1, Nat.le_trans hday.2 (daysInMonth_le _ _)⟩
  rw [number_ofNumber] at hdays
  have hnanos : t.nanos < 2000000000 := by
    rcases h.fraction with h | h
    · omega
    · exact h.1
  unfold epochMillis
  omega

end Instant

namespace Allure

/-! ## Documents -/

/-- A number of a document that stands for an instant, in milliseconds since the start of 1970. -/
def IsTime (t : Instant) (v : Json) : Prop := ∃ h, v = .number (.integer t.epochMillis h)

theorem isTime_millis {t : Instant} (h : t.Valid) : IsTime t (millis t) := by
  refine ⟨h.epochMillis_bounds, ?_⟩
  rw [millis, Json.Number.ofInt?, dif_pos h.epochMillis_bounds]
  rfl

/-- A document of a result: identifier, name, outcome and times of its report. -/
structure IsResult (id : Uuid) (r : TestReport) (v : Json) : Prop where
  uuid : v.member? "uuid" = some (.string id.text)
  name : v.member? "name" = some (.string r.name)
  status : v.member? "status" = some (.string r.kind.name)
  message : v.member? "statusDetails" =
    r.outcome.message?.map fun m => .object [("message", .string m)]
  start : ∃ t, v.member? "start" = some t ∧ IsTime r.startedAt t
  stop : ∃ t, v.member? "stop" = some t ∧ IsTime r.finishedAt t

/-- A document of a container: its identifier, the results, and the times of all of them. -/
structure IsContainer (id : Uuid) (children : List Uuid) (start stop : Instant) (v : Json) :
    Prop where
  uuid : v.member? "uuid" = some (.string id.text)
  children : v.member? "children" = some (.array (children.map fun c => .string c.text))
  start : ∃ t, v.member? "start" = some t ∧ IsTime start t
  stop : ∃ t, v.member? "stop" = some t ∧ IsTime stop t

theorem readable_millis (t : Instant) (depth : Nat) : (millis t).Readable depth := by
  rw [millis, Json.Number.ofInt?]
  split <;> trivial

theorem arranged_millis (t : Instant) : (millis t).arranged = millis t := by
  rw [millis, Json.Number.ofInt?]
  split <;> rfl

/-- An object whose members have different names is read back from its text. -/
theorem parse_object {v : Json} {members : List (String × Json)} (hv : v = .object members)
    (hnodup : (members.map Prod.fst).Nodup) (h : v.Readable Json.depthLimit) : ∃ w,
      Json.parse v.indented = .ok w ∧ ∀ key, w.member? key = (v.member? key).map Json.arranged := by
  subst hv
  obtain ⟨moved, hmoved, hlookup⟩ := Json.rearranges_arranged.members hnodup
  exact ⟨.object moved, (Json.parse_indented h).trans (congrArg Except.ok hmoved), hlookup⟩

/-- The members of a result are read back from its text. -/
theorem members_of_resultOf (suite : String) (id : Uuid) (r : TestReport) :
    ∃ v, Json.parse (resultOf suite id r).indented = .ok v ∧
      ∀ key, v.member? key = ((resultOf suite id r).member? key).map Json.arranged := by
  have hreadable : (resultOf suite id r).Readable Json.depthLimit := by
    rw [resultOf, Json.depthLimit]
    cases r.outcome.message? <;>
      simp [Json.Readable, Json.ReadableMembers, Json.ReadableItems, readable_millis, label]
  exact parse_object rfl (by cases r.outcome.message? <;> simp) hreadable

/-- The document of a result is read back from its text. -/
theorem parse_resultOf (suite : String) (id : Uuid) {r : TestReport} (hstarted : r.startedAt.Valid)
    (hfinished : r.finishedAt.Valid) :
    ∃ v, Json.parse (resultOf suite id r).indented = .ok v ∧ IsResult id r v := by
  obtain ⟨v, hparsed, hmember⟩ := members_of_resultOf suite id r
  refine ⟨v, hparsed, ?_, ?_, ?_, ?_, ?_, ?_⟩
  all_goals rw [hmember, resultOf, Json.member?]
  case refine_1 => rfl
  case refine_2 => rfl
  case refine_3 => rfl
  all_goals cases r.outcome.message?
  all_goals simp [Json.lookup, arranged_millis, isTime_millis hstarted, isTime_millis hfinished]
  rfl

/-- The document of a container is read back from its text. -/
theorem parse_containerOf (suite : String) (id : Uuid) (children : List Uuid) {start stop : Instant}
    (hstart : start.Valid) (hstop : stop.Valid) : ∃ v,
      Json.parse (containerOf suite id children start stop).indented = .ok v ∧
      IsContainer id children start stop v := by
  have hreadable : (containerOf suite id children start stop).Readable Json.depthLimit := by
    rw [containerOf, Json.depthLimit]
    simp [Json.Readable, Json.ReadableMembers, Json.readableItems_iff, readable_millis]
  obtain ⟨v, hparsed, hmember⟩ := parse_object rfl (by simp) hreadable
  refine ⟨v, hparsed, ?_, ?_, ?_, ?_⟩
  all_goals rw [hmember, Json.member?]
  case refine_1 => rfl
  case refine_2 =>
    show some (Json.arranged (.array (children.map fun c => .string c.text))) = _
    rw [Json.arranged, Json.arrangedItems_eq_map, List.map_map]
    rfl
  all_goals simp [Json.lookup, arranged_millis, isTime_millis hstart, isTime_millis hstop]

/-! ## What a directory knows and holds -/

/-- The state of a directory of results that has received some reports and could write all of
them. -/
def after (suite : String) (fresh : Nat → Uuid) (reports : List TestReport) : Allure :=
  ⟨suite, (List.range reports.length).map fresh, reports.head?.map TestReport.startedAt,
    reports.getLast?.map TestReport.finishedAt, none, false, reports.length⟩

/-- The files of the results, by name and text. -/
def resultFiles (suite : String) (fresh : Nat → Uuid) (reports : List TestReport) :
    List (String × String) :=
  reports.zipIdx.map fun p => resultCall suite (fresh p.2) p.1

/-- The file of the container, by name and text. -/
def containerOfAll (suite : String) (fresh : Nat → Uuid) (now : Instant)
    (reports : List TestReport) :
    String × String :=
  containerCall suite (fresh reports.length) ((List.range reports.length).map fresh)
    ((reports.head?.map TestReport.startedAt).getD now)
      ((reports.getLast?.map TestReport.finishedAt).getD now)

/-- The first identifiers are all different. -/
def Distinct (fresh : Nat → Uuid) (count : Nat) : Prop :=
  ∀ i < count, ∀ j < count, fresh i = fresh j → i = j

theorem resultFiles_append (suite : String) (fresh : Nat → Uuid) (reports : List TestReport)
    (r : TestReport) :
    resultFiles suite fresh (reports ++ [r]) =
      resultFiles suite fresh reports ++ [resultCall suite (fresh reports.length) r] := by
  rw [resultFiles, List.zipIdx_append, List.map_append, List.zipIdx_singleton, Nat.zero_add]
  rfl

/-- A report whose file could be written is one more. -/
theorem received_after (suite : String) (fresh : Nat → Uuid) (reports : List TestReport)
    (r : TestReport) :
    (after suite fresh reports).received (fresh reports.length) r (.ok ()) =
      after suite fresh (reports ++ [r]) := by
  have hlength : (reports ++ [r]).length = reports.length + 1 := List.length_append
  have hstarted : (reports ++ [r]).head?.map TestReport.startedAt =
      (reports.head?.map TestReport.startedAt).orElse fun _ => some r.startedAt := by
    cases reports <;> rfl
  rw [after, after, hlength, hstarted, List.range_succ, List.map_append, List.getLast?_concat]
  rfl

/-- The files of the results have different names. -/
theorem nodup_resultFiles (suite : String) {fresh : Nat → Uuid} {reports : List TestReport}
    (h : Distinct fresh reports.length) :
    ((resultFiles suite fresh reports).map Prod.fst).Nodup := by
  have hnames : (resultFiles suite fresh reports).map Prod.fst =
      (reports.zipIdx.map Prod.snd).map fun i => resultFile (fresh i) := by
    rw [resultFiles, List.map_map, List.map_map]
    rfl
  have hlt : ∀ i ∈ reports.zipIdx.map Prod.snd, i < reports.length := by
    intro i hi
    obtain ⟨p, hp, rfl⟩ := List.mem_map.mp hi
    exact List.snd_lt_of_mem_zipIdx hp
  rw [hnames]
  refine List.Nodup.map_on (fun i hi j hj hij => ?_) (List.nodup_zipIdx_map_snd reports)
  exact h i (hlt i hi) j (hlt j hj) (resultFile_injective hij)

/-- The file of the next result is new. -/
theorem resultFile_not_mem (suite : String) {fresh : Nat → Uuid} {reports : List TestReport}
    (h : Distinct fresh (reports.length + 1)) (r : TestReport) :
    resultFile (fresh reports.length) ∉ (resultFiles suite fresh reports).map Prod.fst := by
  have hlength : (reports ++ [r]).length = reports.length + 1 := List.length_append
  have hnodup := nodup_resultFiles suite (hlength ▸ h : Distinct fresh (reports ++ [r]).length)
  rw [resultFiles_append, List.map_append, List.nodup_append] at hnodup
  exact fun hmem => hnodup.2.2 _ hmem _ (List.mem_singleton_self _) rfl

/-- The file of the container is new. -/
theorem containerFile_not_mem (suite : String) (fresh : Nat → Uuid) (reports : List TestReport)
    (id : Uuid) :
    containerFile id ∉ (resultFiles suite fresh reports).map Prod.fst := by
  intro hmem
  rw [resultFiles, List.map_map] at hmem
  obtain ⟨p, -, hp⟩ := List.mem_map.mp hmem
  exact resultFile_ne_containerFile _ _ hp

theorem Distinct.mono {fresh : Nat → Uuid} {m n : Nat} (h : Distinct fresh n) (hle : m ≤ n) :
    Distinct fresh m :=
  fun i hi j hj => h i (Nat.lt_of_lt_of_le hi hle) j (Nat.lt_of_lt_of_le hj hle)

end Allure

namespace ResultDirectory

open Allure (after resultFiles containerOfAll Distinct)

/-- A directory that has received some reports. -/
def receiveAll (fresh : Nat → Uuid) (reports : List TestReport) (d : ResultDirectory)
    (tree : Files.Tree) : ResultDirectory × Files.Tree :=
  reports.foldl (fun s r => (s.1.receive fresh r s.2).2) (d, tree)

/-- A directory that is closed some times, and what is returned each time. -/
def finalizeTimes (fresh : Nat → Uuid) (now : Instant) : Nat → ResultDirectory → Files.Tree →
    List (Except SinkError Unit) × ResultDirectory × Files.Tree
  | 0, d, tree => ([], d, tree)
  | n + 1, d, tree =>
    let (result, d, tree) := d.finalize fresh now tree
    let (results, d, tree) := finalizeTimes fresh now n d tree
    (result :: results, d, tree)

/-- A report is written to a new file. -/
theorem receive_after {path suite : String} {fresh : Nat → Uuid} {done : List TestReport}
    {tree : Files.Tree} (h : Holds path tree (resultFiles suite fresh done)) {r : TestReport}
    (hcovered : r.finishedAt.isCovered = true) (hdistinct : Distinct fresh (done.length + 1)) :
    ∃ tree', receive fresh r ⟨path, after suite fresh done⟩ tree =
        (.ok (), ⟨path, after suite fresh (done ++ [r])⟩, tree') ∧
      Holds path tree' (resultFiles suite fresh (done ++ [r])) := by
  obtain ⟨tree', hwrite, hholds⟩ := h.write (Allure.isName_resultFile (fresh done.length))
    (Allure.resultFile_not_mem suite hdistinct r)
      (Allure.resultOf suite (fresh done.length) r).indented
  refine ⟨tree', ?_, ?_⟩
  · have hwrite' : write path (Allure.resultFile (fresh (after suite fresh done).drawn))
        (Allure.resultOf (after suite fresh done).suite (fresh (after suite fresh done).drawn)
          r).indented tree =
        (.ok (), tree') := hwrite
    rw [receive, Allure.receive_of_covered _ _ _ hcovered, bind_apply, hwrite',
      ← Allure.received_after]
    rfl
  · rw [Allure.resultFiles_append]
    exact hholds

/-- Reports are written to new files, one for each.  Induction on the reports. -/
theorem receiveAll_after {path suite : String} {fresh : Nat → Uuid} : ∀ {reports : List TestReport}
    {done : List TestReport} {tree : Files.Tree}, (∀ r ∈ reports, r.finishedAt.isCovered = true) →
    Holds path tree (resultFiles suite fresh done) → Distinct fresh (done ++ reports).length →
    ∃ tree',
      receiveAll fresh reports ⟨path, after suite fresh done⟩ tree =
        (⟨path, after suite fresh (done ++ reports)⟩, tree') ∧
      Holds path tree' (resultFiles suite fresh (done ++ reports)) := by
  intro reports
  induction reports with
  | nil =>
    intro done tree _ h _
    rw [List.append_nil]
    exact ⟨tree, rfl, h⟩
  | cons r rest ih =>
    intro done tree hcovered h hdistinct
    obtain ⟨hfirst, hothers⟩ := List.forall_mem_cons.mp hcovered
    have hassoc : done ++ [r] ++ rest = done ++ r :: rest := List.append_assoc done [r] rest
    have hnext : done.length + 1 ≤ (done ++ r :: rest).length := by
      rw [List.length_append, List.length_cons]
      omega
    obtain ⟨tree', hreceive, h'⟩ := receive_after h hfirst (hdistinct.mono hnext)
    rw [← hassoc] at hdistinct ⊢
    obtain ⟨tree'', hrest, h''⟩ := ih hothers h' hdistinct
    refine ⟨tree'', ?_, h''⟩
    rw [receiveAll, List.foldl_cons, hreceive]
    exact hrest

/-- At the end the container is written to a new file. -/
theorem finalize_after {path suite : String} {fresh : Nat → Uuid} {reports : List TestReport}
    {tree : Files.Tree} (h : Holds path tree (resultFiles suite fresh reports)) (now : Instant) :
    ∃ d tree',
      finalize fresh now ⟨path, after suite fresh reports⟩ tree = (.ok (), d, tree') ∧
      d.allure.closed = true ∧
      Holds path tree'
        (resultFiles suite fresh reports ++ [containerOfAll suite fresh now reports]) := by
  obtain ⟨tree', hwrite, hholds⟩ := h.write (Allure.isName_containerFile (fresh reports.length))
    (Allure.containerFile_not_mem suite fresh reports _) (containerOfAll suite fresh now reports).2
  refine ⟨⟨path,
    { after suite fresh reports with closed := true, drawn := reports.length + 1, children := [] }⟩,
    tree', ?_, rfl, hholds⟩
  have hwrite' : write path (Allure.containerFile (fresh (after suite fresh reports).drawn))
      (Allure.containerOf (after suite fresh reports).suite
        (fresh (after suite fresh reports).drawn)
        (after suite fresh reports).children ((after suite fresh reports).started.getD now)
        ((after suite fresh reports).stopped.getD now)).indented tree = (.ok (), tree') := hwrite
  rw [finalize, Allure.finalize_eq _ _ _ rfl, bind_apply, hwrite']
  rfl

/-- A directory that is closed stays as it is.  Induction on the number of times. -/
theorem finalizeTimes_of_closed (fresh : Nat → Uuid) (now : Instant) {d : ResultDirectory}
    (h : d.allure.closed = true) (tree : Files.Tree) : ∀ n,
      finalizeTimes fresh now n d tree = (List.replicate n (.ok ()), d, tree) := by
  intro n
  induction n with
  | zero => rfl
  | succ n ih =>
    have hclosed : d.finalize fresh now tree = (.ok (), d, tree) := by
      rw [finalize, Allure.finalize, if_pos h]
      rfl
    rw [finalizeTimes, hclosed]
    dsimp only
    rw [ih]
    rfl

/-- A directory of results is in step with its reports.  Over an empty directory and with
identifiers that differ, there is one file for each report before the directory is closed, and no
container; closing it any number of times adds one container and reports no failure.  Read back, the
document of a result has the identifier in the name of its file and the name, outcome and times of
its report; that of the container lists the identifiers of the results in the order of the reports,
from the start of the first to the end of the last one. -/
theorem results_are_in_step {path : String} (suite : String) {fresh : Nat → Uuid} {now : Instant}
    {reports : List TestReport} {tree : Files.Tree} (again : Nat)
    (hempty : tree.find (Files.join path ".") = .ok (.directory []))
    (hdistinct : Distinct fresh (reports.length + 1))
    (hvalid : ∀ r ∈ reports, r.startedAt.Valid ∧ r.finishedAt.Valid) (hnow : now.Valid) :
    let received := receiveAll fresh reports ⟨path, .start suite⟩ tree
    let closed := finalizeTimes fresh now (again + 1) received.1 received.2
    ∃ (results : List (String × String)) (container : String),
      List.Forall₂ (fun p f => f.1 = Allure.resultFile (fresh p.2) ∧
        ∃ v, Json.parse f.2 = .ok v ∧ Allure.IsResult (fresh p.2) p.1 v) reports.zipIdx results ∧
      (∃ v, Json.parse container = .ok v ∧
        Allure.IsContainer (fresh reports.length) ((List.range reports.length).map fresh)
          ((reports.head?.map TestReport.startedAt).getD now)
          ((reports.getLast?.map TestReport.finishedAt).getD now) v) ∧
      (results.map Prod.fst ++ [Allure.containerFile (fresh reports.length)]).Nodup ∧
      received.2.Lists path results ∧
      closed.1 = List.replicate (again + 1) (.ok ()) ∧
      closed.2.2.Lists path
        (results ++ [(Allure.containerFile (fresh reports.length), container)]) := by
  have hnew : Holds path tree (resultFiles suite fresh []) := holds_empty hempty
  have hdifferent : Distinct fresh ([] ++ reports).length := hdistinct.mono (Nat.le_succ _)
  have hcovered : ∀ r ∈ reports, r.finishedAt.isCovered = true :=
    fun r hr => (hvalid r hr).2.covered
  obtain ⟨tree', hreceived, hholds⟩ := receiveAll_after hcovered hnew hdifferent
  rw [List.nil_append] at hreceived hholds
  obtain ⟨d, tree'', hfinalize, hclosed, hholds'⟩ := finalize_after hholds now
  have hstart : ((reports.head?.map TestReport.startedAt).getD now).Valid := by
    cases reports with
    | nil => exact hnow
    | cons r rest => exact (hvalid r List.mem_cons_self).1
  have hstop : ((reports.getLast?.map TestReport.finishedAt).getD now).Valid := by
    cases hlast : reports.getLast? with
    | none => exact hnow
    | some r => exact (hvalid r (List.mem_of_getLast? hlast)).2
  have hstarted : receiveAll fresh reports ⟨path, .start suite⟩ tree =
      (⟨path, after suite fresh reports⟩, tree') := hreceived
  intro received closed
  have hreceived' : received = (⟨path, after suite fresh reports⟩, tree') := hstarted
  have hclosed' : closed = (List.replicate (again + 1) (.ok ()), d, tree'') := by
    show finalizeTimes fresh now (again + 1) received.1 received.2 = _
    rw [hreceived', finalizeTimes, hfinalize]
    dsimp only
    rw [finalizeTimes_of_closed fresh now hclosed]
    rfl
  refine ⟨resultFiles suite fresh reports, (containerOfAll suite fresh now reports).2, ?_,
    Allure.parse_containerOf suite _ _ hstart hstop, ?_, ?_, ?_, ?_⟩
  · rw [resultFiles, List.forall₂_map_right_iff, List.forall₂_same]
    intro p hp
    obtain ⟨hstartedAt, hfinishedAt⟩ := hvalid p.1 (List.fst_mem_of_mem_zipIdx hp)
    exact ⟨rfl, Allure.parse_resultOf suite _ hstartedAt hfinishedAt⟩
  · rw [List.nodup_append]
    refine ⟨Allure.nodup_resultFiles suite (hdistinct.mono (Nat.le_succ _)),
      List.nodup_singleton _, ?_⟩
    intro name hname name' hname' heq
    rw [List.mem_singleton.mp hname'] at heq
    exact Allure.containerFile_not_mem suite fresh reports _ (heq ▸ hname)
  · rw [hreceived']
    exact hholds.lists
  · rw [hclosed']
  · rw [hclosed']
    exact hholds'.lists

/-- A tree with an empty directory. -/
def reportTree : Files.Tree := ⟨.directory [("report", .directory [])], 0⟩

/-- A report that comes after the one with the line breaks. -/
def skippedReport : TestReport where
  name := "third"
  file := none
  outcome := .skipped "not focused"
  startedAt := ⟨1700000041, 20000000⟩
  duration := ⟨3000000⟩
  request := none
  response := none

/-- Two reports and two closings leave three files. -/
theorem two_results_and_a_container :
    reportTree.find (Files.join "report" ".") = .ok (.directory []) ∧ Distinct Uuid.ofNat 3 ∧
    (∀ r ∈ [brokenLinesReport, skippedReport], r.startedAt.Valid ∧ r.finishedAt.Valid) ∧
    Instant.Valid ⟨1700000100, 0⟩ ∧
    let received :=
    receiveAll Uuid.ofNat [brokenLinesReport, skippedReport] ⟨"report", .start "suite"⟩ reportTree
    let closed := finalizeTimes Uuid.ofNat ⟨1700000100, 0⟩ (1 + 1) received.1 received.2
    ∃ es, closed.2.2.find (Files.join "report" ".") = .ok (.directory es) ∧ es.length = 3 := by
  have hempty : reportTree.find (Files.join "report" ".") = .ok (.directory []) :=
    Files.Tree.find_iff_leads.mpr ⟨["report"], by decide, by rfl, rfl⟩
  have hdistinct : Distinct Uuid.ofNat 3 := by
    rw [Distinct]
    decide
  have hvalid : ∀ r ∈ [brokenLinesReport, skippedReport], r.startedAt.Valid ∧
    r.finishedAt.Valid := by
    refine List.forall_mem_cons.mpr ⟨⟨?_, ?_⟩, List.forall_mem_singleton.mpr ⟨?_, ?_⟩⟩
    · exact ⟨by decide +kernel, .inr (by decide)⟩
    · exact ⟨by decide +kernel, .inr (by decide)⟩
    · exact ⟨by decide +kernel, .inl (by decide)⟩
    · exact ⟨by decide +kernel, .inl (by decide)⟩
  have hnow : Instant.Valid ⟨1700000100, 0⟩ := ⟨by decide +kernel, .inl (by decide)⟩
  refine ⟨hempty, hdistinct, hvalid, hnow, ?_⟩
  have hresult := results_are_in_step "suite" 1 hempty hdistinct hvalid hnow
  obtain ⟨results, container, hresults, -, -, -, -, es, hfind, hperm⟩ := hresult
  refine ⟨es, hfind, ?_⟩
  have hlength := hperm.length_eq
  rw [List.length_map, List.length_map, List.length_append, ← hresults.length_eq] at hlength
  exact hlength

end ResultDirectory

end Assay
