import Assay.Proofs.Definitions
import Assay.Proofs.Instants
import Assay.Report.Basic

/-
  Reports are read back from their documents.

  A report is written as a document and read again, with its spans in whole milliseconds of a 64-bit
  word (`TestReport.stored`); everything else is kept.  As for test cases, each part is read back by
  itself (`decode_encode` in the namespace of each part), for every change that leaves documents as
  they are but for the order of members (`Json.Rearranges`), so that it does not matter whether the
  document is taken as it is or read from its text.

  A report says where its test comes from by a path, and a path is text only if its bytes are.
  There is a document of a report exactly if its path, should it have one, is a text
  (`TestReport.flaw?_eq_none`); this is the condition under which the report is read back, and the
  other results about reports have it as well.

  Parts that may be absent are members that may be left out, and `Json.written_option` says that
  they are read back all the same, as long as the part is not written as null.  An outcome carries a
  tag for its kind (`Outcome.decode_tag`); its fields depend on the kind, and each kind is one
  application of the lemma about records with a tag.
-/

namespace Assay

open Json (Rearranges Ranked Moved Written)

/-! ## What is kept of a report -/

/-- A span as reports store it: whole milliseconds, of which 64 bits are kept. -/
def Span.stored (s : Span) : Span := .ofMillis (s.millis % 0x10000000000000000)

/-- A response as reports store it. -/
def Response.stored (r : Response) : Response := { r with duration := r.duration.stored }

/-- A report as it is stored: only the spans lose something. -/
def TestReport.stored (r : TestReport) : TestReport :=
  { r with duration := r.duration.stored, response := r.response.map Response.stored }

/-! ## Where a report comes from -/

/-- There is a document of a report whose path, if it has one, is a text. -/
theorem TestReport.flaw?_eq_none {r : TestReport} :
    r.flaw? = none ↔ ∀ path ∈ r.file, path.text?.isSome := by
  rw [flaw?]
  rcases r.file with _ | path | ⟨path, malformed⟩
  · exact ⟨nofun, fun _ => rfl⟩
  · exact ⟨fun _ p hp => Option.mem_some.mp hp ▸ rfl, fun _ => rfl⟩
  · exact ⟨nofun, fun h => absurd (h _ rfl) Bool.false_ne_true⟩

/-! ## Parts of a report -/

/-- A member that may be absent. -/
@[simp] theorem Json.lookup_member (name key : String) (o : Option Json) :
    lookup name (TestReport.member key o) = if key = name then o else none := by
  cases o with
  | none => exact (ite_self _).symm
  | some v => rfl

/-- A member that may be absent has no other name. -/
theorem Json.names_member (key : String) (o : Option Json) :
    ((TestReport.member key o).map Prod.fst).Sublist [key] := by
  cases o with
  | none => exact List.nil_sublist _
  | some v => exact .refl _

/-- A part that may be absent is read back if it is read from no null. -/
theorem Json.written_option {f : Json → Json} {α β : Type} {decode : Decoder β} (write : α → Json)
    (g : α → β) (o : Option α) (hnull : ∀ b, decode .null ≠ .ok b)
    (h : ∀ a, decode (f (write a)) = .ok (g a)) :
    Written f (asOption decode) (some none) (o.map g) (o.map write) := by
  cases o with
  | none => rfl
  | some a =>
    refine asOption_of_ne_null ?_ (h a)
    intro heq
    exact hnull (g a) (heq ▸ h a)

theorem Diagnostic.encode_eq (d : Diagnostic) : d.encode =
    .object ([("checker", .string d.checker)] ++ Request.textMember "path" d.path ++
      [("message", .string d.message)]) := by
  obtain ⟨checker, path, message⟩ := d
  cases path <;> rfl

section Parts

variable {f : Json → Json} (hf : Rearranges f)

theorem OutcomeKind.lookup_name (k : OutcomeKind) : names.lookup k.name = some k := by
  cases k <;> decide

include hf

/-- A span is read back in milliseconds. -/
theorem Span.decodeMillis_word (s : Span) :
    Response.decodeMillis (f (Json.word s.millisWord)) = .ok s.stored := by
  rw [Response.decodeMillis, Json.word, hf.number, ← Json.word, Json.asWord64_word]
  rfl

/-- A diagnostic is read back. -/
theorem Diagnostic.decode_encode (d : Diagnostic) : decode (f d.encode) = .ok d := by
  have hnames : (([("checker", Json.string d.checker)] ++ Request.textMember "path" d.path ++
      [("message", Json.string d.message)]).map Prod.fst).Sublist
        (["checker"] ++ ["path"] ++ ["message"]) := by
    simp only [List.map_append]
    exact ((List.Sublist.refl _).append (Json.names_textMember _ _)).append (.refl _)
  rw [encode_eq]
  refine Json.asRecord_object hf (hnames.nodup (by decide)) fun moved h => ?_
  refine Ranked.run_seq (Ranked.run_seq (Ranked.run_map (h.read ?_)) (h.read ?_)) (h.read ?_)
  · simpa [Json.lookup_append] using Json.asText_string hf d.checker
  · simpa [Json.lookup_append] using Json.written_text hf d.path
  · simpa [Json.lookup_append] using Json.asText_string hf d.message

/-- A kind is read back, and what is beside it can be. -/
theorem Outcome.decode_tag (kind : OutcomeKind) {o : Outcome} {members : List (String × Json)}
    (hnames : ("kind" :: members.map Prod.fst).Nodup)
    (h : ∀ moved, Moved f members moved → decodeFields (.members moved) kind = .ok o) :
    decode (f (.object (("kind", .string kind.name) :: members))) = .ok o := by
  obtain ⟨moved, hsplit, hmoved⟩ := Json.splitTag_object hf "Outcome" kind.lookup_name hnames
  rw [decode, hsplit]
  exact h moved hmoved

/-- An outcome is read back, whatever its kind. -/
theorem Outcome.decode_encode (o : Outcome) : decode (f o.encode) = .ok o := by
  cases o with
  | passed => exact decode_tag hf .passed (by simp) fun _ _ => rfl
  | failed ds =>
    refine decode_tag hf .failed (by simp) fun moved hm => ?_
    dsimp only [decodeFields]
    refine Json.finishTagged_members (Ranked.run_map (hm.read ?_))
    exact Json.asList_array hf fun d _ => d.decode_encode hf
  | skipped reason =>
    refine decode_tag hf .skipped (by simp) fun moved hm => ?_
    dsimp only [decodeFields]
    refine Json.finishTagged_members (Ranked.run_map (hm.read ?_))
    exact Json.asText_string hf reason
  | broken cause =>
    refine decode_tag hf .broken (by simp) fun moved hm => ?_
    dsimp only [decodeFields]
    refine Json.finishTagged_members (Ranked.run_map (hm.read ?_))
    exact Json.asText_string hf cause

/-- What is kept of a request is read back. -/
theorem RequestSummary.decode_encode (r : RequestSummary) : decode (f r.encode) = .ok r := by
  refine Json.asRecord_object hf (by simp) fun moved h => ?_
  refine Ranked.run_seq (Ranked.run_map (h.read ?_)) (h.read ?_)
  · exact r.method.decode_encode hf
  · exact Json.asText_string hf r.url

/-- A response is read back, with its span in milliseconds. -/
theorem Response.decode_encode (r : Response) : decode (f r.encode) = .ok r.stored := by
  refine Json.asRecord_object hf (by simp) fun moved h => ?_
  refine Ranked.run_seq (Ranked.run_seq (Ranked.run_seq (Ranked.run_seq (Ranked.run_map (h.read ?_))
    (h.read ?_)) (h.read ?_)) (h.read ?_)) (h.read ?_)
  · have hstatus : Json.asWord16 (f (Json.word r.status.toUInt64)) = .ok r.status := by
      rw [Json.word, hf.number]
      exact Json.asWord16_word r.status
    exact hstatus
  · exact Json.asText_string hf r.statusText
  · exact Json.asDict_ofTexts hf r.headers
  · exact Json.asText_string hf r.body
  · exact r.duration.decodeMillis_word hf

/-- The path of a file is read back as a text. -/
theorem TestReport.written_file {r : TestReport} (h : ∀ path ∈ r.file, path.text?.isSome) :
    Written f (Json.asOption decodeFile) (some none) r.file (r.fileText?.map .string) := by
  rw [fileText?]
  rcases hfile : r.file with _ | path | ⟨path, malformed⟩
  · rfl
  · show Json.asOption decodeFile (f (.string path)) = .ok (some (.text path))
    rw [hf.string]
    rfl
  · exact absurd (h _ hfile) Bool.false_ne_true

/-- A report whose path is a text is read back from its document. -/
theorem TestReport.decode_encode {r : TestReport} (h : r.startedAt.Valid)
    (hfile : ∀ path ∈ r.file, path.text?.isSome) :
    decode (f r.encode) = .ok r.stored := by
  have hstarted : decodeInstant (f (.string r.startedAt.zulu)) = .ok r.startedAt := by
    rw [hf.string, decodeInstant, Instant.parse_zulu h]
    rfl
  have hnames : (([("name", Json.string r.name)] ++ Request.textMember "file" r.fileText? ++
      [("outcome", r.outcome.encode), ("started_at", Json.string r.startedAt.zulu),
        ("duration", Json.word r.duration.millisWord)] ++
      member "request" (r.request.map RequestSummary.encode) ++
      member "response" (r.response.map Response.encode)).map Prod.fst).Sublist
      (["name"] ++ ["file"] ++ ["outcome", "started_at", "duration"] ++ ["request"] ++
        ["response"]) := by
    simp only [List.map_append]
    exact ((((List.Sublist.refl _).append (Json.names_textMember _ _)).append (.refl _)).append
      (Json.names_member _ _)).append (Json.names_member _ _)
  refine Json.asRecord_object hf (hnames.nodup (by decide)) fun moved hm => ?_
  refine Ranked.run_seq
    (Ranked.run_seq (Ranked.run_seq (Ranked.run_seq (Ranked.run_seq (Ranked.run_seq
    (Ranked.run_map (hm.read ?_)) (hm.read ?_)) (hm.read ?_)) (hm.read ?_)) (hm.read ?_))
    (hm.read ?_)) (hm.read ?_)
  · simpa [Json.lookup_append] using Json.asText_string hf r.name
  · simpa [Json.lookup_append] using written_file hf hfile
  · simpa [Json.lookup_append] using r.outcome.decode_encode hf
  · simpa [Json.lookup_append] using hstarted
  · simpa [Json.lookup_append] using r.duration.decodeMillis_word hf
  · have hrequest := Json.written_option RequestSummary.encode id r.request (fun _ h => by cases h)
      fun summary => summary.decode_encode hf
    simpa [Json.lookup_append] using hrequest
  · have hresponse := Json.written_option Response.encode Response.stored r.response
      (fun _ h => by cases h)
      fun response => response.decode_encode hf
    simpa [Json.lookup_append] using hresponse

end Parts

end Assay
