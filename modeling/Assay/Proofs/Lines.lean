import Assay.Output.Desk
import Assay.Proofs.Asking
import Assay.Proofs.Reading
import Assay.Proofs.Reports

/-
  Files of JSON lines.

  A file of JSON lines receives some reports and is closed.  If everything can be written to it, it
  holds one line for each report then, in order, and from each line the report can be read back.

  Several things come together here.  The pieces that a line is written in make up the compact text
  of a document (`join_piecesOf`); there is no line break in this text
  (`newline_not_mem_compactChars`), so a line is a line; a report is readable, as its document is
  not nested too deep (`TestReport.readable_encode`); and what is held back in a buffer on the way
  is written out when the file is closed.

  1. The text of a line.  By induction on the document its pieces make up its text
     (`flatten_pieces`).  Characters are escaped, so a line break in a string is written with other
     characters (`newline_not_mem_escaped`), and numbers have none.

  2. Held back and written.  A buffer writes when it is full, and what it carries is a text: what
     has been written, and behind it what is held back (`Carries`).  Every operation of the buffer
     adds to this text and leaves the order (`flush_spec`, `place_spec`, `put_spec`, `putAll_spec`).
     `LineWriter.Appends` says of what the buffer writes to that writing adds to its end and does
     not fail.

  3. Files of reports.  A report adds its line (`receive_spec`), some reports add theirs
     (`foldlM_receive`), and closing writes what is held back (`receiveAll_spec`).  A report whose
     source file is no text has no line, which is why the theorem asks for paths that are.

  4. Bytes.  The file holds bytes, and a line break in the bytes of a text comes from one in the
     text (`newline_mem_utf8EncodeChar`), so reading line by line finds the lines.

  5. Files of a tree.  A file that has been opened is known by its number, and writing to it adds to
     what the file under its path holds (`appends_write`).  So the assumption about writing is true
     of the files of a run, and the report at the end is read back from one.
-/

namespace Assay

/-! ## The text of a line -/

namespace Json

/-- The pieces of a string are the characters that are written for it. -/
theorem flatten_stringPieces (s : List Char) : ∀ run : List Char,
    (stringPieces run s).flatten = run.reverse ++ s.flatMap escaped := by
  have hrun : ∀ run : List Char,
    (if run.isEmpty then [] else [run.reverse] : List (List Char)).flatten =
      run.reverse := by
    intro run
    cases run with
    | nil => rfl
    | cons c rest => simp
  induction s with
  | nil =>
    intro run
    rw [stringPieces, hrun, List.flatMap_nil, List.append_nil]
  | cons c s ih =>
    intro run
    rw [stringPieces, List.flatMap_cons]
    split
    · next hplain =>
      have hself : escaped c = [c] := eq_of_beq hplain
      rw [ih, List.reverse_cons, List.append_assoc, hself]
    · rw [List.flatten_append, hrun, List.flatten_cons, ih]
      rfl

theorem flatten_quotedPieces (s : List Char) : (quotedPieces s).flatten = quoted s := by
  simp [quotedPieces, quoted, flatten_stringPieces]

/-- The pieces of items make up their row. -/
theorem flatten_piecesOfItems (items : List Json)
    (h : ∀ v ∈ items, v.pieces.flatten = v.compactChars) :
    ∀ first, (piecesOfItems first items).flatten = listed compactChars first items := by
  induction items with
  | nil => exact fun _ => rfl
  | cons v rest ih =>
    intro first
    have hrest := ih (fun v hv => h v (List.mem_cons_of_mem _ hv)) false
    rw [piecesOfItems, listed, List.flatten_append, List.flatten_append, h v List.mem_cons_self,
      hrest]
    cases first <;> rfl

/-- So do the pieces of members. -/
theorem flatten_piecesOfMembers (members : List (String × Json))
    (h : ∀ m ∈ members, m.2.pieces.flatten = m.2.compactChars) :
    ∀ first, (piecesOfMembers first members).flatten =
      listed (memberChars compactChars) first members := by
  induction members with
  | nil => exact fun _ => rfl
  | cons m rest ih =>
    intro first
    have hrest := ih (fun m hm => h m (List.mem_cons_of_mem _ hm)) false
    have hvalue := h m List.mem_cons_self
    cases first <;> simp [piecesOfMembers, listed, memberChars, flatten_quotedPieces, hrest, hvalue]

/-- The pieces of a document make up its text. -/
theorem flatten_pieces (v : Json) : v.pieces.flatten = v.compactChars := by
  induction v with
  | null => rfl
  | bool b => cases b <;> rfl
  | number n => exact List.append_nil _
  | string s => exact flatten_quotedPieces s.toList
  | array items ih =>
    simp [pieces, compactChars, flatten_piecesOfItems items ih, compactItems_eq_listed]
  | object members ih =>
    simp [pieces, compactChars, flatten_piecesOfMembers members ih, compactMembers_eq_listed]

/-! ### No line breaks -/

/-- No character is written with a line break. -/
theorem newline_not_mem_escaped (c : Char) : '\n' ∉ escaped c := by
  have hhex : ∀ d < 16, '\n' ≠ hexDigit d := by decide
  unfold escaped
  split_ifs with hquote hslash hnewline htab hreturn hback hfeed hcontrol
  any_goals decide
  · have hhigh := hhex (c.toNat / 16) (by omega)
    have hlow := hhex (c.toNat % 16) (by omega)
    simp [hhigh, hlow]
  · simp [Ne.symm hnewline]

theorem newline_not_mem_natDigits (n : Nat) : '\n' ∉ Number.natDigits n :=
  fun h => Bool.false_ne_true (isDigit_natDigits h)

/-- A quoted text has no line break. -/
theorem newline_not_mem_quoted (s : List Char) : '\n' ∉ quoted s := by
  simp [quoted, newline_not_mem_escaped]

theorem newline_not_mem_decimalText (format : Number.DoubleFormat) {digits : List Char}
    (exponent : Int) (h : '\n' ∉ digits) : '\n' ∉ Number.decimalText format digits exponent := by
  have htake : ∀ n, '\n' ∉ digits.take n := fun n hmem => h (List.mem_of_mem_take hmem)
  have hdrop : ∀ n, '\n' ∉ digits.drop n := fun n hmem => h (List.mem_of_mem_drop hmem)
  unfold Number.decimalText
  dsimp only
  split_ifs
  · simp [h]
  · simp [htake, hdrop]
  · simp [h]
  -- With an exponent the point stands behind the first of several digits.
  all_goals rcases digits with _ | ⟨d, _ | ⟨e, ds⟩⟩
  all_goals simp [newline_not_mem_natDigits]
  all_goals simpa using h

/-- A number has no line break. -/
theorem newline_not_mem_number (n : Number) : '\n' ∉ n.text := by
  cases n with
  | integer i hi =>
    rw [Number.text, Number.intDigits]
    split_ifs <;> simp [newline_not_mem_natDigits]
  | double d =>
    have hbody := newline_not_mem_decimalText Number.doubleFormat d.shortest.exponent
      (newline_not_mem_natDigits d.shortest.digits)
    rw [Number.text, Number.doubleText]
    split_ifs <;> simp [hbody]

/-- A row has no line break if its parts have none. -/
theorem newline_not_mem_listed {α : Type} {text : α → List Char} {as : List α}
    (h : ∀ a ∈ as, '\n' ∉ text a) : ∀ first, '\n' ∉ listed text first as := by
  induction as with
  | nil => exact fun _ => List.not_mem_nil
  | cons a rest ih =>
    intro first
    have hrest := ih (fun a ha => h a (List.mem_cons_of_mem _ ha)) false
    have hfirst := h a List.mem_cons_self
    cases first <;> simp [listed, hrest, hfirst]

/-- The compact text of a document is a single line. -/
theorem newline_not_mem_compactChars (v : Json) : '\n' ∉ v.compactChars := by
  induction v with
  | null => decide
  | bool b => cases b <;> decide
  | number n => exact newline_not_mem_number n
  | string s => exact newline_not_mem_quoted s.toList
  | array items ih => simp [compactChars, compactItems_eq_listed, newline_not_mem_listed ih]
  | object members ih =>
    have hmembers : ∀ m ∈ members, '\n' ∉ memberChars compactChars m := by
      intro m hm
      simp [memberChars, newline_not_mem_quoted, ih m hm]
    simp [compactChars, compactMembers_eq_listed, newline_not_mem_listed hmembers]

/-! ### Reports are readable -/

theorem readable_object {members : List (String × Json)} {depth : Nat}
    (h : ∀ m ∈ members, m.2.Readable depth) :
    (Json.object members).Readable (depth + 1) := readableMembers_iff.mpr h

theorem readable_array {items : List Json} {depth : Nat} (h : ∀ v ∈ items, v.Readable depth) :
    (Json.array items).Readable (depth + 1) := readableItems_iff.mpr h

/-- A text that may be missing is readable. -/
theorem readable_textMember {name : String} {o : Option String} {depth : Nat} :
    ∀ m ∈ Request.textMember name o, m.2.Readable depth := by
  intro m hm
  cases o with
  | none => cases hm
  | some s =>
    cases List.mem_singleton.mp hm
    trivial

theorem readable_member {name : String} {o : Option Json} {depth : Nat}
    (h : ∀ v ∈ o, v.Readable depth) :
    ∀ m ∈ TestReport.member name o, m.2.Readable depth := by
  intro m hm
  cases o with
  | none => cases hm
  | some v =>
    cases List.mem_singleton.mp hm
    exact h v rfl

theorem readable_ofTexts (entries : List (String × String)) (depth : Nat) :
    (ofTexts entries).Readable (depth + 1) := by
  refine readable_object fun m hm => ?_
  obtain ⟨e, -, rfl⟩ := List.mem_map.mp hm
  trivial

end Json

theorem Diagnostic.readable_encode (d : Diagnostic) (depth : Nat) :
    d.encode.Readable (depth + 1) := by
  rw [encode_eq]
  refine Json.readable_object (List.forall_mem_append.mpr ⟨List.forall_mem_append.mpr ⟨?_, ?_⟩, ?_⟩)
  · exact List.forall_mem_singleton.mpr trivial
  · exact Json.readable_textMember
  · exact List.forall_mem_singleton.mpr trivial

/-- An outcome is nested three deep at most. -/
theorem Outcome.readable_encode (o : Outcome) (depth : Nat) : o.encode.Readable (depth + 3) := by
  refine Json.readable_object (List.forall_mem_cons.mpr ⟨trivial, ?_⟩)
  cases o with
  | passed => exact nofun
  | failed ds =>
    refine List.forall_mem_singleton.mpr (Json.readable_array fun v hv => ?_)
    obtain ⟨d, -, rfl⟩ := List.mem_map.mp hv
    exact d.readable_encode depth
  | skipped reason => exact List.forall_mem_singleton.mpr trivial
  | broken cause => exact List.forall_mem_singleton.mpr trivial

theorem RequestSummary.readable_encode (r : RequestSummary) (depth : Nat) :
    r.encode.Readable (depth + 1) :=
  Json.readable_object (List.forall_mem_cons.mpr ⟨trivial, List.forall_mem_singleton.mpr trivial⟩)

/-- A response is nested two deep at most. -/
theorem Response.readable_encode (r : Response) (depth : Nat) : r.encode.Readable (depth + 2) := by
  refine Json.readable_object (List.forall_mem_cons.mpr ⟨trivial, List.forall_mem_cons.mpr ⟨trivial,
    List.forall_mem_cons.mpr ⟨?_, List.forall_mem_cons.mpr ⟨trivial,
      List.forall_mem_singleton.mpr trivial⟩⟩⟩⟩)
  exact Json.readable_ofTexts r.headers.entries depth

/-- A report is nested four deep at most, in the diagnostics of a failed test. -/
theorem TestReport.readable_encode (r : TestReport) (depth : Nat) :
    r.encode.Readable (depth + 4) := by
  refine Json.readable_object (List.forall_mem_append.mpr ⟨List.forall_mem_append.mpr
    ⟨List.forall_mem_append.mpr ⟨List.forall_mem_append.mpr ⟨?_, ?_⟩, ?_⟩, ?_⟩, ?_⟩)
  · exact List.forall_mem_singleton.mpr trivial
  · exact Json.readable_textMember
  · exact List.forall_mem_cons.mpr ⟨r.outcome.readable_encode depth,
      List.forall_mem_cons.mpr ⟨trivial, List.forall_mem_singleton.mpr trivial⟩⟩
  · refine Json.readable_member fun v hv => ?_
    obtain ⟨summary, -, rfl⟩ := Option.map_eq_some_iff.mp hv
    exact summary.readable_encode (depth + 2)
  · refine Json.readable_member fun v hv => ?_
    obtain ⟨response, -, rfl⟩ := Option.map_eq_some_iff.mp hv
    exact response.readable_encode (depth + 1)

/-! ## Held back and written -/

/-- Everything that is written is added to the end of what a file holds, and nothing fails. -/
structure LineWriter.Appends {ω : Type} (write : LineWriter ω) (Holds : ω → String → Prop) :
    Prop where
  succeeds : ∀ w text more, Holds w text → (write more w).1 = .ok ()
  holds : ∀ w text more, Holds w text → Holds (write more w).2 (text ++ more)

/-- What is written stands behind what is there. -/
theorem LineWriter.Appends.write {ω : Type} {write : LineWriter ω} {Holds : ω → String → Prop}
    (h : write.Appends Holds) {w : ω} {text : String} (hw : Holds w text) (more : String) :
    ∃ w', write more w = (.ok (), w') ∧ Holds w' (text ++ more) :=
  ⟨(write more w).2, Prod.ext (h.succeeds w text more hw) rfl, h.holds w text more hw⟩

namespace Buffered

variable {ω : Type} {write : LineWriter ω} {Holds : ω → String → Prop}

/-- What has been written and what is held back make up a text. -/
def Carries (Holds : ω → String → Prop) (w : ω) (b : Buffered) (text : String) : Prop :=
  ∃ written, Holds w written ∧ written ++ b.held = text

variable (hwrite : write.Appends Holds)
include hwrite

/-- What is held back is written out. -/
theorem flush_spec {w : ω} {b : Buffered} {text : String} (h : Carries Holds w b text) :
    ∃ w', flush write b w = ((.ok (), .empty), w') ∧ Holds w' text := by
  obtain ⟨written, hholds, htext⟩ := h
  obtain ⟨held⟩ := b
  rw [flush]
  split
  · next hempty =>
    have hheld : held = "" := String.isEmpty_iff.mp hempty
    subst hheld
    rw [String.append_empty] at htext
    exact ⟨w, rfl, htext ▸ hholds⟩
  · obtain ⟨w', hw', hholds'⟩ := hwrite.write hholds held
    refine ⟨w', ?_, htext ▸ hholds'⟩
    rw [bind_apply, hw']
    rfl

/-- A piece is written to an empty buffer's file or added to what is held back. -/
theorem place_spec {w : ω} {b : Buffered} {text : String} (piece : String)
    (h : Carries Holds w b text) (hroom : capacity ≤ piece.utf8ByteSize → b = .empty) :
    ∃ b' w', place write b piece w = ((.ok (), b'), w') ∧ Carries Holds w' b' (text ++ piece) := by
  obtain ⟨written, hholds, htext⟩ := h
  rw [place]
  split
  · next hlarge =>
    have hb := hroom hlarge
    subst hb
    have htext' : written = text := by rw [← htext]; exact String.append_empty.symm
    obtain ⟨w', hw', hholds'⟩ := hwrite.write hholds piece
    refine ⟨.empty, w', ?_, text ++ piece, htext' ▸ hholds', String.append_empty⟩
    rw [bind_apply, hw']
    rfl
  · exact ⟨_, w, rfl, written, hholds, by rw [← htext, String.append_assoc]⟩

omit hwrite in
/-- A piece that fills the buffer fits only if nothing is held back. -/
theorem eq_empty_of_fits {b : Buffered} {piece : String}
    (hfits : b.held.utf8ByteSize + piece.utf8ByteSize ≤ capacity)
    (hlarge : capacity ≤ piece.utf8ByteSize) :
    b = .empty := by
  have hheld : b.held.utf8ByteSize = 0 := by omega
  obtain ⟨held⟩ := b
  rw [String.utf8ByteSize_eq_zero_iff] at hheld
  exact congrArg Buffered.mk hheld

/-- A piece is added to the text. -/
theorem put_spec {w : ω} {b : Buffered} {text : String} (piece : String)
    (h : Carries Holds w b text) :
    ∃ b' w', put write b piece w = ((.ok (), b'), w') ∧ Carries Holds w' b' (text ++ piece) := by
  rw [put]
  split
  · next hfits =>
    exact place_spec hwrite piece h (eq_empty_of_fits hfits)
  · obtain ⟨w', hflush, hholds⟩ := flush_spec hwrite h
    have hempty : Carries Holds w' .empty text := ⟨text, hholds, String.append_empty⟩
    obtain ⟨b', w'', hplace, hcarries⟩ := place_spec hwrite piece hempty fun _ => rfl
    refine ⟨b', w'', ?_, hcarries⟩
    rw [bind_apply, hflush]
    exact hplace

/-- Some pieces are added to the text, in order.  Induction on the pieces. -/
theorem putAll_spec (pieces : List String) : ∀ {w : ω} {b : Buffered} {text : String},
    Carries Holds w b text →
    ∃ b' w', putAll write pieces b w = ((.ok (), b'), w') ∧
    Carries Holds w' b' (text ++ String.join pieces) := by
  induction pieces with
  | nil =>
    intro w b text h
    rw [String.join_nil, String.append_empty]
    exact ⟨b, w, rfl, h⟩
  | cons piece rest ih =>
    intro w b text h
    obtain ⟨b', w', hput, hcarries⟩ := put_spec hwrite piece h
    obtain ⟨b'', w'', hrest, hcarries'⟩ := ih hcarries
    refine ⟨b'', w'', ?_, ?_⟩
    · rw [putAll, bind_apply, hput]
      exact hrest
    · rw [String.join_cons, ← String.append_assoc]
      exact hcarries'

end Buffered

/-! ## Files of reports -/

namespace JsonLines

/-- The line of a report, without its end. -/
def line (r : TestReport) : String := r.encode.compact

/-- The pieces of the line of a report without a flaw make it up. -/
theorem join_piecesOf {r : TestReport} (h : r.flaw? = none) :
    String.join (piecesOf r) = line r := by
  rw [← String.toList_inj, String.toList_join, piecesOf, h, if_neg (by decide),
    List.flatMap_map, line, Json.compact, String.toList_ofList, ← Json.flatten_pieces]
  simp [List.flatMap_def]

variable {ω : Type} {write : LineWriter ω} {Holds : ω → String → Prop}

/-- The text of some lines, each with its end. -/
def joined (lines : List String) : String := String.join (lines.map (· ++ "\n"))

/-- A file that receives some reports and is closed. -/
def receiveAll (write : LineWriter ω) (reports : List TestReport) :
    StateM ω (Except SinkError Unit × JsonLines) := do
  let f ← reports.foldlM (receive write) start
  finalize write f

variable (hwrite : write.Appends Holds)
include hwrite

/-- A report adds its line. -/
theorem receive_spec {w : ω} {b : Buffered} {text : String} {r : TestReport}
    (hflaw : r.flaw? = none) (h : Buffered.Carries Holds w b text) :
    ∃ b' w', receive write ⟨some b, none⟩ r w = (⟨some b', none⟩, w') ∧
      Buffered.Carries Holds w' b' (text ++ (line r ++ "\n")) := by
  obtain ⟨b', w', hpieces, hcarries⟩ := Buffered.putAll_spec hwrite (piecesOf r) h
  obtain ⟨b'', w'', hend, hcarries'⟩ := Buffered.put_spec hwrite "\n" hcarries
  have hreport : writeReport write b r w = ((.ok (), b''), w'') := by
    rw [writeReport, hflaw, bind_apply, hpieces]
    dsimp only
    rw [bind_apply, hend]
    rfl
  refine ⟨b'', w'', ?_, ?_⟩
  · rw [receive]
    dsimp only
    rw [bind_apply, hreport]
    rfl
  · rw [join_piecesOf hflaw, String.append_assoc] at hcarries'
    exact hcarries'

/-- Some reports add their lines, in order.  Induction on the reports. -/
theorem foldlM_receive {reports : List TestReport} (hflaw : ∀ r ∈ reports, r.flaw? = none) :
    ∀ {w : ω} {b : Buffered} {text : String}, Buffered.Carries Holds w b text →
    ∃ b' w', reports.foldlM (receive write) ⟨some b, none⟩ w = (⟨some b', none⟩, w') ∧
      Buffered.Carries Holds w' b' (text ++ joined (reports.map line)) := by
  induction reports with
  | nil =>
    intro w b text h
    refine ⟨b, w, rfl, ?_⟩
    rw [List.map_nil, joined, List.map_nil, String.join_nil, String.append_empty]
    exact h
  | cons r rest ih =>
    intro w b text h
    obtain ⟨hfirst, hothers⟩ := List.forall_mem_cons.mp hflaw
    obtain ⟨b', w', hreceive, hcarries⟩ := receive_spec hwrite hfirst h
    obtain ⟨b'', w'', hrest, hcarries'⟩ := ih hothers hcarries
    refine ⟨b'', w'', ?_, ?_⟩
    · rw [List.foldlM_cons, bind_apply, hreceive]
      exact hrest
    · rw [List.map_cons, joined, List.map_cons, String.join_cons, ← String.append_assoc]
      exact hcarries'

/-- A file that can be written to holds the lines of its reports once it is closed. -/
theorem receiveAll_spec {reports : List TestReport} (hflaw : ∀ r ∈ reports, r.flaw? = none) {w : ω}
    (hw : Holds w "") :
    ∃ w', receiveAll write reports w = ((.ok (), ⟨none, none⟩), w') ∧
    Holds w' (joined (reports.map line)) := by
  have hstart : Buffered.Carries Holds w .empty "" := ⟨"", hw, String.append_empty⟩
  obtain ⟨b, w', hreports, hcarries⟩ := foldlM_receive hwrite hflaw hstart
  obtain ⟨w'', hflush, hholds⟩ := Buffered.flush_spec hwrite hcarries
  refine ⟨w'', ?_, ?_⟩
  · rw [receiveAll, bind_apply, start, hreports, finalize]
    dsimp only
    rw [bind_apply, hflush]
    rfl
  · rw [String.empty_append] at hholds
    exact hholds

end JsonLines

/-! ## Bytes -/

/-- The bytes of an array from a place on.  Induction on the number of bytes that are left. -/
theorem toList_loop_of_size (bytes : ByteArray) :
    ∀ (n i : Nat) (front : List UInt8), bytes.size - i = n →
    ByteArray.toList.loop bytes i front = front.reverse ++ bytes.data.toList.drop i := by
  intro n
  induction n with
  | zero =>
    intro i front h
    have hend : bytes.data.toList.length ≤ i := by
      rw [Array.length_toList]
      exact Nat.le_of_sub_eq_zero h
    rw [ByteArray.toList.loop, if_neg (by omega), List.drop_of_length_le hend, List.append_nil]
  | succ n ih =>
    intro i front h
    have hlt : i < bytes.size := by omega
    have hlt' : i < bytes.data.toList.length := by
      rw [Array.length_toList]
      exact hlt
    have hget : bytes.get! i = bytes.data.toList[i] := by
      show bytes.data[i]! = _
      rw [getElem!_pos bytes.data i hlt]
      rfl
    rw [ByteArray.toList.loop, if_pos hlt, ih (i + 1) _ (by omega), List.drop_eq_getElem_cons hlt',
      hget, List.reverse_cons, List.append_assoc]
    rfl

/-- The bytes of a text are those of its characters. -/
theorem toList_toUTF8 (s : String) : s.toUTF8.toList = s.toList.flatMap String.utf8EncodeChar := by
  have hbytes : s.toUTF8 = s.toList.utf8Encode := by
    conv => lhs; rw [← String.ofList_toList (s := s)]
    rfl
  rw [ByteArray.toList, toList_loop_of_size _ _ 0 [] rfl, hbytes]
  simp [List.utf8Encode]

/-- Only the line break is written with its byte. -/
theorem newline_mem_utf8EncodeChar {c : Char} (h : 10 ∈ String.utf8EncodeChar c) : c = '\n' := by
  have hbyte : ∀ n : Nat, (10 : UInt8) = UInt8.ofNat n → n % 256 = 10 := by
    intro n hn
    have hmod := congrArg UInt8.toNat hn
    rw [UInt8.toNat_ofNat'] at hmod
    exact hmod.symm
  unfold String.utf8EncodeChar at h
  dsimp only at h
  split at h
  · have hmod := hbyte _ (List.mem_singleton.mp h)
    have hten : c.val.toNat = 10 := by omega
    exact Char.ext (UInt32.toNat_inj.mp hten)
  -- All bytes of a longer character are at least 128.
  split at h
  · simp only [List.mem_cons, List.not_mem_nil, or_false] at h
    rcases h with h | h
    all_goals
      have hmod := hbyte _ h
      omega
  split at h
  · simp only [List.mem_cons, List.not_mem_nil, or_false] at h
    rcases h with h | h | h
    all_goals
      have hmod := hbyte _ h
      omega
  · simp only [List.mem_cons, List.not_mem_nil, or_false] at h
    rcases h with h | h | h | h
    all_goals
      have hmod := hbyte _ h
      omega

/-- There is no byte of a line break in the line of a report. -/
theorem JsonLines.newline_not_mem_line (r : TestReport) : 10 ∉ (line r).toUTF8.toList := by
  intro h
  rw [toList_toUTF8, List.mem_flatMap] at h
  obtain ⟨c, hc, hbyte⟩ := h
  rw [newline_mem_utf8EncodeChar hbyte, line, Json.compact, String.toList_ofList] at hc
  exact Json.newline_not_mem_compactChars r.encode hc

/-! ## Files of a tree -/

namespace Files.Tree

/-- An entry is found under its name when a file has been changed. -/
theorem entryIn_changeEntries (number : Nat) (f : List UInt8 → List UInt8) (name : String)
    (es : List (String × Node)) :
    Node.entryIn name (changeEntries number f es) =
      (Node.entryIn name es).map (changeNode number f) := by
  induction es with
  | nil => rfl
  | cons e rest ih =>
    obtain ⟨n, v⟩ := e
    rw [changeEntries, Node.entryIn, Node.entryIn, ih]
    split <;> rfl

/-- A file is found at its place whatever is written to files. -/
theorem get?_changeNode (number : Nat) (f : List UInt8 → List UInt8) :
    ∀ (place : List String) (v : Node),
    (changeNode number f v).get? place = (v.get? place).map (changeNode number f) := by
  intro place
  induction place with
  | nil =>
    intro v
    rw [Node.get?, Node.get?]
    rfl
  | cons n rest ih =>
    intro v
    cases v with
    | file k content =>
      rw [changeNode]
      split <;> rfl
    | link target => rfl
    | directory es =>
      rw [changeNode, Node.get?, Node.get?, entryIn_changeEntries]
      cases Node.entryIn n es with
      | none => rfl
      | some v => exact ih v

/-- Writing at the end adds to the content. -/
theorem overwrite_length (bytes content : List UInt8) :
    overwrite content.length bytes content = content ++ bytes := by
  simp [overwrite]

end Files.Tree

namespace LineFile

/-- The file of a number, at its place in the tree, holds a text, and this is all that has been
written. -/
def Holds (number : Nat) (place : List String) (w : Files.Tree × Nat) (text : String) : Prop :=
  w.1.root.get? place = some (.file number text.toUTF8.toList) ∧ w.2 = text.toUTF8.toList.length

/-- A file of a tree can be written to. -/
theorem appends_write (number : Nat) (place : List String) :
    LineWriter.Appends (write number) (Holds number place) where
  succeeds := fun _ _ _ _ => rfl
  holds := by
    rintro ⟨tree, position⟩ text more ⟨hfile, hposition⟩
    have hbytes : (text ++ more).toUTF8.toList = text.toUTF8.toList ++ more.toUTF8.toList := by
      rw [toList_toUTF8, toList_toUTF8, toList_toUTF8, String.toList_append, List.flatMap_append]
    dsimp only at hposition
    constructor
    · show (Files.Tree.changeNode number _ tree.root).get? place = _
      rw [Files.Tree.get?_changeNode, hfile, Option.map_some, Files.Tree.changeNode, if_pos rfl,
        hposition, Files.Tree.overwrite_length, hbytes]
    · show position + more.toUTF8.toList.length = _
      rw [hposition, hbytes, List.length_append]

end LineFile

/-! ## Reading a file back -/

/-- Some reports, whose paths are texts, have been written to a file, which is then closed.  If the
file was empty at first and can be written to, no failure is reported, and the file holds one line
for each report then, in order, each with its end.  In the lines there is no other byte of a line
break, and from each of them its report is read back, its spans in whole milliseconds. -/
theorem JsonLines.reports_read_back_from_lines {ω : Type} {write : LineWriter ω}
    {Holds : ω → String → Prop} (hwrite : write.Appends Holds) (reports : List TestReport)
    (hstarted : ∀ r ∈ reports, r.startedAt.Valid)
    (hfile : ∀ r ∈ reports, ∀ path ∈ r.file, path.text?.isSome) (w : ω) (hw : Holds w "") :
    ∃ lines w', receiveAll write reports w = ((.ok (), ⟨none, none⟩), w') ∧
      Holds w' (String.join (lines.map (· ++ "\n"))) ∧
      List.Forall₂ (fun line r => 10 ∉ line.toUTF8.toList ∧
        ∃ v, Json.parse line = .ok v ∧ TestReport.decode v = .ok r.stored) lines reports := by
  have hflaw : ∀ r ∈ reports, r.flaw? = none :=
    fun r hr => TestReport.flaw?_eq_none.mpr (hfile r hr)
  obtain ⟨w', hclosed, hholds⟩ := receiveAll_spec hwrite hflaw hw
  refine ⟨reports.map line, w', hclosed, hholds, ?_⟩
  rw [List.forall₂_map_left_iff, List.forall₂_same]
  intro r hr
  have hparsed : Json.parse (line r) = .ok r.encode.arranged :=
    Json.parse_compact (r.readable_encode 123)
  exact ⟨newline_not_mem_line r, r.encode.arranged, hparsed,
    TestReport.decode_encode Json.rearranges_arranged (hstarted r hr) (hfile r hr)⟩

/-- The report of a failed test, with line breaks in its texts and a span that is not in whole
milliseconds. -/
def brokenLinesReport : TestReport where
  name := "first\nsecond"
  file := some (.text "tests/\"first\".json")
  outcome := .failed [⟨"body", some "$.id", "expected 1,\n\tgot 2"⟩, .plain "status" "expected 200"]
  startedAt := ⟨1700000039, 1500000000⟩
  duration := ⟨7400000⟩
  request := some ⟨.post, "http://localhost/first"⟩
  response := some ⟨404, "Not Found", Dict.empty.insert "x-Über" "a\\b", "line\r\nline", ⟨999⟩⟩

/-- This report is kept in one line of a file of a tree, and is read back with 7 milliseconds. -/
theorem JsonLines.broken_lines_read_back :
    brokenLinesReport.stored.duration = .ofMillis 7 ∧
    ∃ line w', receiveAll (LineFile.write 0) [brokenLinesReport]
        (⟨.directory [("results.jsonl", .file 0 [])], 1⟩, 0) = ((.ok (), ⟨none, none⟩), w') ∧
      w'.1.root.get? ["results.jsonl"] = some (.file 0 (line ++ "\n").toUTF8.toList) ∧
      10 ∉ line.toUTF8.toList ∧
      ∃ v, Json.parse line = .ok v ∧ TestReport.decode v = .ok brokenLinesReport.stored := by
  have hvalid : ∀ r ∈ [brokenLinesReport], r.startedAt.Valid := by
    intro r hr
    rw [List.mem_singleton.mp hr]
    exact ⟨by decide +kernel, .inr (by decide)⟩
  have hfile : ∀ r ∈ [brokenLinesReport], ∀ path ∈ r.file, path.text?.isSome := by
    refine List.forall_mem_singleton.mpr fun path hpath => ?_
    cases hpath
    rfl
  have hnew : LineFile.Holds 0 ["results.jsonl"]
      (⟨.directory [("results.jsonl", .file 0 [])], 1⟩, 0) "" := by
    have hempty : "".toUTF8.toList = [] := toList_toUTF8 ""
    rw [LineFile.Holds, hempty]
    exact ⟨rfl, rfl⟩
  obtain ⟨lines, w', hclosed, hholds, hlines⟩ := reports_read_back_from_lines
    (LineFile.appends_write 0 ["results.jsonl"]) [brokenLinesReport] hvalid hfile _ hnew
  refine ⟨rfl, ?_⟩
  cases hlines with
  | cons hline hrest =>
    cases hrest
    refine ⟨_, w', hclosed, ?_, hline⟩
    have hfile := hholds.1
    rw [List.map_singleton, String.join_cons, String.join_nil, String.append_empty] at hfile
    exact hfile

end Assay
