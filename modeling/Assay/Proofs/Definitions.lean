import Assay.Case.Basic
import Assay.Proofs.Decoding
import Mathlib

/-
  Test cases are read back from their documents.

  A test case is written as a document and read again.  Each of its parts is read back by itself
  (`decode_encode` in the namespace of each part), for every change that leaves documents as they
  are but for the order of members (`Json.Rearranges`).  So the same lemma serves for the document
  as it is written and for the one that a text gives, whose members are in the order of their names.

  Two things have to be known about the documents that a test case holds: the change leaves them
  alone, and an expected value under a path is not null, since null says that no value is expected.
  Both hold of a test case that has been read itself (`TestCase.decode_yields`), which is why the
  theorem is about definitions that can be read and not about all test cases.

  1. Identifiers.  The digits of an identifier are read back (`foldlM_hexText`, by induction on
     their number), with hyphens between their groups (`hyphenated?_groups`), and the forms in which
     an identifier may be wrapped cannot be mistaken (`unwrap_of_digit`).  The result is
     `Uuid.parse_text`.

  2. Optional members.  A member is left out if its value is empty or missing.  The lemmas
     `written_text`, `written_texts`, `written_list` and `written_documents` say for each kind of
     member that it is read back anyway, from its member or from its default.

  3. Parts.  Methods, states, operators, options, requests and expected codes are read back from
     their names or members.  An expected code is written in one of three forms, and the first
     reading that fits is the right one (`StatusExpectation.decode_encode`).  Assertions carry a
     tag, and `Assertion.decode_tagged` is the lemma that all their kinds go through.

  4. Test cases, first written and then read (`TestCase.decode_encode`), and at last the round trip
     from a definition.  An identifier that the definition lacks is given to it when it is read, and
     it is read back with the rest; whatever identifier might be given the second time is not used.
-/

namespace Assay

open Json (Rearranges Ranked Moved Written Hereditary Yields)

/-! ## Identifiers -/

namespace Uuid

/-- As many digits are written as are asked for. -/
theorem length_hexText (count n : Nat) : (hexText count n).length = count := by
  induction count generalizing n with
  | zero => rfl
  | succ count ih => rw [hexText, List.length_append, ih, List.length_singleton]

/-- A hexadecimal digit is read as its value. -/
theorem hexDigit?_digitChar : ∀ d < 16, hexDigit? (Nat.digitChar d) = some d := by decide

/-- Reading some digits behind others.  Induction on the number of digits. -/
theorem foldlM_hexText (count n : Nat) : ∀ start : Nat,
    (hexText count n).foldlM (fun n d => (hexDigit? d).map (n * 16 + ·)) start =
      some (start * 16 ^ count + n % 16 ^ count) := by
  induction count generalizing n with
  | zero =>
    intro start
    rw [hexText, Nat.pow_zero, Nat.mod_one, Nat.mul_one]
    rfl
  | succ count ih =>
    intro start
    rw [hexText, List.foldlM_append, ih]
    show (hexDigit? (Nat.digitChar (n % 16))).map _ >>= _ = _
    rw [hexDigit?_digitChar _ (Nat.mod_lt _ (by decide))]
    refine congrArg some ?_
    have hsplit : n % 16 ^ (count + 1) = n / 16 % 16 ^ count * 16 + n % 16 := by
      rw [Nat.pow_succ, Nat.mul_comm (16 ^ count), Nat.mod_mul]
      omega
    show (start * 16 ^ count + n / 16 % 16 ^ count) * 16 + n % 16 = _
    rw [hsplit, Nat.pow_succ, Nat.add_mul, Nat.mul_assoc, Nat.add_assoc]

/-- The number of an identifier is read back from its digits. -/
theorem hexNumber?_hexText (u : Uuid) : hexNumber? (hexText 32 u.value) = some u.value := by
  rw [hexNumber?, foldlM_hexText, Nat.zero_mul, Nat.zero_add, Nat.mod_eq_of_lt]
  exact u.inRange

/-- Groups of digits with hyphens between them are the digits of the hyphenated form. -/
theorem hyphenated?_groups {a b c d e : List Char} (ha : a.length = 8) (hb : b.length = 4)
    (hc : c.length = 4) (hd : d.length = 4) (he : e.length = 12) :
    hyphenated? (a ++ '-' :: (b ++ '-' :: (c ++ '-' :: (d ++ '-' :: e)))) =
      some (a ++ b ++ c ++ d ++ e) := by
  rw [hyphenated?, if_pos]
  · simp [List.drop_append, ha, hb, hc, hd, List.drop_of_length_le]
  · simp [ha, hb, hc, hd, he]

/-- The digits of a number are digits. -/
theorem isDigit_hexText {count n : Nat} {c : Char} (h : c ∈ hexText count n) :
    (hexDigit? c).isSome = true := by
  induction count generalizing n with
  | zero => cases h
  | succ count ih =>
    rw [hexText, List.mem_append, List.mem_singleton] at h
    rcases h with h | rfl
    · exact ih h
    · rw [hexDigit?_digitChar _ (Nat.mod_lt _ (by decide))]
      rfl

/-- A text that starts with a digit is not wrapped. -/
theorem unwrap_of_digit {s : List Char} {c : Char} (h : (hexDigit? c).isSome = true) :
    unwrap (c :: s) = (c :: s, 0, true) := by
  have hbrace : ¬ c = '\x7b' := by
    rintro rfl
    exact absurd h (by decide)
  have hurn : ¬ 'u' = c := by
    rintro rfl
    exact absurd h (by decide)
  have hfirst : urnPrefix = 'u' :: urnPrefix.tail := by decide
  have hprefix : urnPrefix.isPrefixOf (c :: s) = false := by
    rw [hfirst, List.isPrefixOf, beq_false_of_ne hurn, Bool.false_and]
  rw [unwrap, hprefix]
  simp [hbrace]

/-- An identifier is read back from its text. -/
theorem parse_text (u : Uuid) : parse u.text = .ok u := by
  obtain ⟨ds, hds⟩ : ∃ ds, ds = hexText 32 u.value := ⟨_, rfl⟩
  have hlength : ds.length = 32 := hds ▸ length_hexText 32 u.value
  have hdigits : ds.take 8 ++ (ds.drop 8).take 4 ++ (ds.drop 12).take 4 ++ (ds.drop 16).take 4 ++
      ds.drop 20 = ds := by
    have hdrop : ∀ n, (ds.drop n).drop 4 = ds.drop (n + 4) := fun n => List.drop_drop
    calc _ = ds.take 8 ++ ((ds.drop 8).take 4 ++ ((ds.drop 12).take 4 ++ ((ds.drop 16).take 4 ++
          ds.drop 20))) := by simp only [List.append_assoc]
      _ = ds := by
        rw [← hdrop 16, List.take_append_drop, ← hdrop 12, List.take_append_drop, ← hdrop 8,
          List.take_append_drop, List.take_append_drop]
  obtain ⟨c, rest, hcons⟩ : ∃ c rest, ds = c :: rest := by
    cases ds with
    | nil => cases hlength
    | cons c rest => exact ⟨c, rest, rfl⟩
  have hmem : c ∈ hexText 32 u.value := by
    rw [← hds, hcons]
    exact List.mem_cons_self
  have hdigit := isDigit_hexText hmem
  have htext : u.text.toList =
    ds.take 8 ++ '-' :: ((ds.drop 8).take 4 ++ '-' :: ((ds.drop 12).take 4 ++
      '-' :: ((ds.drop 16).take 4 ++ '-' :: ds.drop 20))) := by
    rw [text, hds, String.toList_ofList]
    simp only [List.append_assoc, List.cons_append]
  have hunwrap : unwrap u.text.toList = (u.text.toList, 0, true) := by
    have hhead : ∃ rest, u.text.toList = c :: rest := by
      rw [htext, hcons]
      exact ⟨_, rfl⟩
    obtain ⟨rest, hrest⟩ := hhead
    rw [hrest, unwrap_of_digit hdigit]
  have hhyphenated : hyphenated? u.text.toList = some ds := by
    rw [htext, hyphenated?_groups, hdigits]
    all_goals simp [hlength]
  have hlong : ¬ u.text.toList.length = 32 := by
    rw [htext]
    simp [hlength]
  rw [parse, parseChars, hunwrap]
  dsimp only
  rw [Bool.true_and, decide_eq_false hlong, if_neg Bool.false_ne_true, hhyphenated,
    Option.bind_some, hds, hexNumber?_hexText]
  refine congrArg Except.ok ?_
  cases u with
  | mk value inRange => simp [ofNat, Nat.mod_eq_of_lt inRange]

end Uuid

/-! ## Optional members -/

namespace Json

variable {α : Type} {f : Json → Json} (hf : Rearranges f)

@[simp] theorem lookup_nil (name : String) : lookup name [] = none := rfl

@[simp] theorem lookup_cons (name k : String) (v : Json) (rest : List (String × Json)) :
    lookup name ((k, v) :: rest) = if k = name then some v else lookup name rest := rfl

/-- A text that is there is found under its name. -/
@[simp] theorem lookup_textMember (name key : String) (o : Option String) :
    lookup name (Request.textMember key o) = if key = name then o.map .string else none := by
  cases o with
  | none => exact (ite_self _).symm
  | some s => rfl

/-- A member that is left out under some condition. -/
@[simp] theorem lookup_unless (name key : String) (v : Json) (c : Prop) [Decidable c] :
    lookup name (if c then [] else [(key, v)]) =
      if key = name then (if c then none else some v) else none := by
  by_cases h : c
  · simp [h]
  · simp [h]

/-- The names of a member that may be left out. -/
theorem names_textMember (key : String) (o : Option String) :
    ((Request.textMember key o).map Prod.fst).Sublist [key] := by
  cases o with
  | none => exact List.nil_sublist _
  | some s => exact .refl _

/-- A member that may be left out has no other name. -/
theorem names_unless (key : String) (v : Json) (c : Prop) [Decidable c] :
    ((if c then [] else [(key, v)]).map Prod.fst).Sublist [key] := by
  by_cases h : c
  · rw [if_pos h]
    exact List.nil_sublist _
  · rw [if_neg h]
    exact .refl _

@[simp] theorem written_some {decode : Decoder α} {missing : Option α} {a : α} {v : Json} :
    Written f decode missing a (some v) ↔ decode (f v) = .ok a := Iff.rfl

include hf

/-- A text that may be left out. -/
theorem written_text (o : Option String) :
    Written f (asOption asText) (some none) o (o.map .string) := by
  cases o with
  | none => rfl
  | some s =>
    show asOption asText (f (.string s)) = .ok (some s)
    rw [hf.string]
    rfl

/-- A path that may be left out. -/
theorem written_path (o : Option String) :
    Written f (asOption asPath) (some none) o (o.map .string) := by
  cases o with
  | none => rfl
  | some s =>
    show asOption asPath (f (.string s)) = .ok (some s)
    rw [hf.string]
    rfl

/-- A text that is null if there is none. -/
theorem asOption_textOrNull (o : Option String) : asOption asText (f (textOrNull o)) = .ok o := by
  cases o with
  | none =>
    rw [textOrNull, hf.null]
    rfl
  | some s =>
    rw [textOrNull, hf.string]
    rfl

/-- A dictionary of texts that is left out if it is empty. -/
theorem written_texts (d : Dict String) : Written f (asDict asText) (some .empty) d
    (if d.isEmpty then none else some (ofTexts d.entries)) := by
  cases hempty : d.isEmpty with
  | true =>
    have hd : d = .empty := Dict.ext (List.isEmpty_iff.mp hempty)
    rw [hd]
    rfl
  | false => exact asDict_ofTexts hf d

/-- A list that is left out if it is empty. -/
theorem written_list {decode : Decoder α} (write : α → Json) {as : List α}
    (h : ∀ a ∈ as, decode (f (write a)) = .ok a) : Written f (asList decode) (some []) as
      (if (as.map write).isEmpty then none else some (.array (as.map write))) := by
  cases as with
  | nil => rfl
  | cons a rest => exact asList_array hf h

/-- A list of documents that the change leaves alone. -/
theorem asList_asJson {vs : List Json} (h : ∀ v ∈ vs, f v = v) :
    asList asJson (f (.array vs)) = .ok vs := by
  have hitems : ∀ v ∈ vs, asJson (f (id v)) = .ok v := fun v hv => congrArg Except.ok (h v hv)
  have hlist := asList_array hf hitems
  rw [List.map_id] at hlist
  exact hlist

/-- A dictionary of documents that the change leaves alone. -/
theorem asDict_asJson {d : Dict Json} (h : ∀ e ∈ d.entries, f e.2 = e.2) :
    asDict asJson (f (.object d.entries)) = .ok d := by
  have hvalues : ∀ e ∈ d.entries, asJson (f (id e.2)) = .ok e.2 :=
    fun e he => congrArg Except.ok (h e he)
  have hdict := asDict_object hf hvalues
  have hentries : (d.entries.map fun e => (e.1, id e.2)) = d.entries := List.map_id _
  rw [hentries] at hdict
  exact hdict

/-- A dictionary of documents that is left out if it is empty. -/
theorem written_documents {d : Dict Json} (h : ∀ e ∈ d.entries, f e.2 = e.2) :
    Written f (asDict asJson) (some .empty) d
      (if d.isEmpty then none else some (.object d.entries)) := by
  cases hempty : d.isEmpty with
  | true =>
    have hd : d = .empty := Dict.ext (List.isEmpty_iff.mp hempty)
    rw [hd]
    rfl
  | false => exact asDict_asJson hf h

end Json

/-! ## Parts of a test case -/

section Parts

variable {f : Json → Json} (hf : Rearranges f)

/-- A method is read back from its name. -/
theorem Method.decode_name (m : Method) : decode (.string m.name) = .ok m := by
  cases m <;> decide +kernel

theorem DeclaredStatus.lookup_name (s : DeclaredStatus) : names.lookup s.name = some s := by
  cases s <;> decide

theorem Operator.lookup_name (o : Operator) : names.lookup o.name = some o := by
  cases o <;> decide

include hf

theorem Method.decode_encode (m : Method) : decode (f m.encode) = .ok m := by
  rw [encode, hf.string, decode_name]

theorem DeclaredStatus.decode_encode (s : DeclaredStatus) : decode (f s.encode) = .ok s := by
  rw [encode, hf.string]
  exact Json.asName_string s.lookup_name

/-- An operator is read back from its name. -/
theorem Operator.decode_encode (o : Operator) : decode (f o.encode) = .ok o := by
  rw [encode, hf.string]
  exact Json.asName_string o.lookup_name

/-- The options of a comparison are read back. -/
theorem CompareOptions.decode_encode (o : CompareOptions) : decode (f o.encode) = .ok o := by
  refine Json.asRecord_object hf (by simp) fun moved h => ?_
  refine Ranked.run_seq (Ranked.run_seq (Ranked.run_map (h.read ?_)) (h.read ?_)) (h.read ?_)
  · exact congrArg Json.asBool (hf.bool o.ignoreValues)
  · exact congrArg Json.asBool (hf.bool o.ignoreArrayOrder)
  · exact congrArg Json.asBool (hf.bool o.disallowExtraFields)

/-- A request is read back. -/
theorem Request.decode_encode (r : Request) : decode (f r.encode) = .ok r := by
  have hnames :
    ((([("method", r.method.encode), ("path", .string r.path)] ++ textsMember "query" r.query ++
      textsMember "headers" r.headers ++ textMember "body" r.body).map Prod.fst)).Sublist
      (["method", "path"] ++ ["query"] ++ ["headers"] ++ ["body"]) := by
    simp only [List.map_append]
    exact (((List.Sublist.refl _).append (Json.names_unless _ _ _)).append
      (Json.names_unless _ _ _)).append (Json.names_textMember _ _)
  refine Json.asRecord_object hf (hnames.nodup (by decide)) fun moved h => ?_
  refine Ranked.run_seq (Ranked.run_seq (Ranked.run_seq (Ranked.run_seq (Ranked.run_map (h.read ?_))
    (h.read ?_)) (h.read ?_)) (h.read ?_)) (h.read ?_)
  · exact r.method.decode_encode hf
  · exact Json.asText_string hf r.path
  · simpa [Json.lookup_append, textsMember] using Json.written_texts hf r.query
  · simpa [Json.lookup_append, textsMember] using Json.written_texts hf r.headers
  · simpa [Json.lookup_append, textsMember] using Json.written_text hf r.body

/-- A code, a range and a list are written as documents of different kinds, so the first reading
that fits is the right one. -/
theorem StatusExpectation.decode_encode (e : StatusExpectation) : decode (f e.encode) = .ok e := by
  have hcode (code : UInt16) : Json.asWord16 (f (encodeCode code)) = .ok code := by
    rw [encodeCode, Json.word, hf.number]
    exact Json.asWord16_word code
  cases e with
  | exact code => rw [encode, decode, hcode]
  | range min max =>
    have hnames : ([("min", encodeCode min), ("max", encodeCode max)].map Prod.fst).Nodup := by simp
    obtain ⟨moved, hmoved, -⟩ := hf.object _ hnames
    have hrange : decodeRange (f (.object [("min", encodeCode min), ("max", encodeCode max)])) =
        .ok (.range min max) := by
      have hrecord : Json.asRecord rangeShape (fun fs => StatusExpectation.range
          <$> fs.required rangeShape 0 "min" Json.asWord16
          <*> fs.required rangeShape 1 "max" Json.asWord16)
          (f (.object [("min", encodeCode min), ("max", encodeCode max)])) = .ok (.range min max) :=
        Json.asRecord_object hf hnames fun moved h =>
          Ranked.run_seq (Ranked.run_map (h.read (hcode min))) (h.read (hcode max))
      rw [hmoved] at hrecord ⊢
      exact hrecord
    have hword : ∃ e, Json.asWord16 (.object moved) = .error e := ⟨_, rfl⟩
    obtain ⟨e, he⟩ := hword
    rw [encode, decode, hrange, hmoved, he]
  | oneOf codes =>
    have hlist : Json.asList Json.asWord16 (f (.array (codes.map encodeCode))) = .ok codes :=
      Json.asList_array hf fun code _ => hcode code
    rw [encode, decode, hlist, hf.array]
    rfl

end Parts

/-! ## Assertions -/

/-- The documents that an assertion holds have a property, and an expected value under a path is not
null. -/
def Assertion.Holds (P : Json → Prop) : Assertion → Prop
  | jsonPath _ (some v) => v ≠ .null ∧ P v
  | jsonPathMatches _ _ v => P v
  | _ => True

section Assertions

variable {f : Json → Json} (hf : Rearranges f)
include hf

/-- A tag is read back, and what is beside it can be. -/
theorem Assertion.decode_tag (kind : Assertion.Kind) {type : String} {a : Assertion}
    {members : List (String × Json)} (hkind : kinds.lookup type = some kind)
    (hnames : ("type" :: members.map Prod.fst).Nodup)
    (h : ∀ moved, Moved f members moved → decodeFields (.members moved) kind = .ok a) :
    decode (f (tagged type members)) = .ok a := by
  obtain ⟨moved, hsplit, hmoved⟩ := Json.splitTag_object hf "Assertion" hkind hnames
  rw [decode, tagged, hsplit]
  exact h moved hmoved

/-- A record with a tag is read back if its fields are. -/
theorem Assertion.decode_tagged (kind : Assertion.Kind) {type : String} {a : Assertion}
    {members : List (String × Json)} {shape : Json.RecordShape}
    {read : Json.Fields → Ranked Assertion} (hkind : kinds.lookup type = some kind)
    (hnames : ("type" :: members.map Prod.fst).Nodup)
    (hread : ∀ fs, decodeFields fs kind = Json.finishTagged fs shape (read fs))
    (h : ∀ moved, Moved f members moved → (read (.members moved)).run = .ok a) :
    decode (f (tagged type members)) = .ok a := by
  refine decode_tag hf kind hkind hnames fun moved hmoved => ?_
  rw [hread]
  exact Json.finishTagged_members (h moved hmoved)

/-- An assertion is read back, if the change leaves its documents alone. -/
theorem Assertion.decode_encode {P : Json → Prop} (hfix : ∀ v, P v → f v = v) {a : Assertion}
    (h : a.Holds P) : decode (f a.encode) = .ok a := by
  have htext := Json.asText_string hf
  have hsize (n : UInt64) : Json.asSize (f (Json.word n)) = .ok n := by
    rw [Json.word, hf.number]
    exact Json.asSize_word n
  cases a with
  | statusCode expected =>
    refine decode_tagged hf .statusCode (by decide) (by simp) (fun _ => rfl) fun moved hm => ?_
    exact Ranked.run_map (hm.read (expected.decode_encode hf))
  | responseTime ms =>
    refine decode_tagged hf .responseTime (by decide) (by simp) (fun _ => rfl) fun moved hm => ?_
    have hms : Json.asWord64 (f (Json.word ms)) = .ok ms := by
      rw [Json.word, hf.number]
      exact Json.asWord64_word ms
    exact Ranked.run_map (hm.read hms)
  | headerExists name value =>
    refine decode_tagged hf .headerExists (by decide) (by simp) (fun _ => rfl) fun moved hm => ?_
    exact Ranked.run_seq (Ranked.run_map (hm.read (htext name)))
      (hm.read (Json.asOption_textOrNull hf value))
  | headerMatches name pattern =>
    refine decode_tagged hf .headerMatches (by decide) (by simp) (fun _ => rfl) fun moved hm => ?_
    exact Ranked.run_seq (Ranked.run_map (hm.read (htext name))) (hm.read (htext pattern))
  | bodyContains fragment ignoreCase =>
    refine decode_tagged hf .bodyContains (by decide) (by simp) (fun _ => rfl) fun moved hm => ?_
    exact Ranked.run_seq (Ranked.run_map (hm.read (htext fragment)))
      (hm.read (congrArg Json.asBool (hf.bool ignoreCase)))
  | bodyMatches pattern =>
    refine decode_tagged hf .bodyMatches (by decide) (by simp) (fun _ => rfl) fun moved hm => ?_
    exact Ranked.run_map (hm.read (htext pattern))
  | jsonPath path expected =>
    refine decode_tagged hf .jsonPath (by decide) (by simp) (fun _ => rfl) fun moved hm => ?_
    have hexpected : Json.asOption Json.asJson (f (expected.getD .null)) = .ok expected := by
      cases expected with
      | none =>
        rw [Option.getD_none, hf.null]
        rfl
      | some v =>
        rw [Option.getD_some, hfix v h.2]
        exact Json.asOption_of_ne_null h.1 rfl
    exact Ranked.run_seq (Ranked.run_map (hm.read (htext path))) (hm.read hexpected)
  | jsonPathMatches path operator value =>
    refine decode_tagged hf .jsonPathMatches (by decide) (by simp) (fun _ => rfl) fun moved hm => ?_
    exact Ranked.run_seq (Ranked.run_seq (Ranked.run_map (hm.read (htext path)))
      (hm.read (operator.decode_encode hf))) (hm.read (congrArg Except.ok (hfix value h)))
  | bodyEquals expected =>
    refine decode_tagged hf .bodyEquals (by decide) (by simp) (fun _ => rfl) fun moved hm => ?_
    exact Ranked.run_map (hm.read (htext expected))
  | isJson => exact decode_tag hf .isJson (by decide) (by simp) fun _ _ => rfl
  | isXml => exact decode_tag hf .isXml (by decide) (by simp) fun _ _ => rfl
  | contentType expected =>
    refine decode_tagged hf .contentType (by decide) (by simp) (fun _ => rfl) fun moved hm => ?_
    exact Ranked.run_map (hm.read (htext expected))
  | bodyLength operator length =>
    refine decode_tagged hf .bodyLength (by decide) (by simp) (fun _ => rfl) fun moved hm => ?_
    exact Ranked.run_seq (Ranked.run_map (hm.read (operator.decode_encode hf)))
      (hm.read (hsize length))

end Assertions

/-! ## Test cases -/

/-- The documents that a test case holds have a property, and no assertion expects null under a
path. -/
structure TestCase.Holds (P : Json → Prop) (t : TestCase) : Prop where
  mocks : ∀ e ∈ t.mocks.entries, P e.2
  rows : ∀ c ∈ t.dbChecks, ∀ v ∈ c.rows, P v
  assertions : ∀ a ∈ t.expect.assertions, a.Holds P

section Cases

variable {f : Json → Json} (hf : Rearranges f) {P : Json → Prop} (hfix : ∀ v, P v → f v = v)
include hf hfix

/-- A query with its rows is read back, if the change leaves the rows alone. -/
theorem DbCheck.decode_encode {c : DbCheck} (h : ∀ v ∈ c.rows, P v) :
    decode (f c.encode) = .ok c := by
  refine Json.asRecord_object hf (by simp) fun moved hm => ?_
  refine Ranked.run_seq (Ranked.run_seq (Ranked.run_map (hm.read ?_)) (hm.read ?_)) (hm.read ?_)
  · exact Json.asText_string hf c.query
  · exact Json.asList_asJson hf fun v hv => hfix v (h v hv)
  · exact c.compare.decode_encode hf

/-- What is expected is read back, if the change leaves the documents in it alone. -/
theorem Expectations.decode_encode {e : Expectations} (h : ∀ a ∈ e.assertions, a.Holds P) :
    decode (f e.encode) = .ok e := by
  have hstatus : Json.asOption StatusExpectation.decode
      (f ((e.status.map StatusExpectation.encode).getD .null)) = .ok e.status := by
    cases e.status with
    | none =>
      rw [Option.map_none, Option.getD_none, hf.null]
      rfl
    | some status =>
      have hread := status.decode_encode hf
      rw [Option.map_some, Option.getD_some]
      refine Json.asOption_of_ne_null ?_ hread
      -- Null is no expectation.
      intro hnull
      rw [hnull] at hread
      cases hread
  refine Json.asRecord_object hf (by simp) fun moved hm => ?_
  refine Ranked.run_seq
    (Ranked.run_seq (Ranked.run_seq (Ranked.run_seq (Ranked.run_map (hm.read ?_))
    (hm.read ?_)) (hm.read ?_)) (hm.read ?_)) (hm.read ?_)
  · exact hstatus
  · exact Json.asDict_ofTexts hf e.headers
  · exact Json.asOption_textOrNull hf e.body
  · exact e.compare.decode_encode hf
  · exact Json.asList_array hf fun a ha => a.decode_encode hf hfix (h a ha)

/-- A test case is read back under its own identifier, if the change leaves its documents alone. -/
theorem TestCase.decode_encode (fresh : Uuid) {t : TestCase} (h : t.Holds P) :
    decode fresh (f t.encode) = .ok t := by
  have hid : decodeId (f (.string t.id.text)) = .ok t.id := by
    rw [hf.string, decodeId, Uuid.parse_text]
    rfl
  have hnames : ((("id", Json.string t.id.text) :: t.encodeMembers).map Prod.fst).Sublist
      ("id" :: (["name"] ++ ["description"] ++ ["file"] ++ ["status", "request", "expect"] ++
        ["fixtures"] ++ ["mocks"] ++ ["variables"] ++ ["capture"] ++ ["db_checks"])) := by
    rw [encodeMembers, List.map_cons]
    simp only [List.map_append]
    exact ((((((((((List.Sublist.refl _).append (Json.names_textMember _ _)).append
      (Json.names_textMember _ _)).append (.refl _)).append (Json.names_unless _ _ _)).append
      (Json.names_unless _ _ _)).append (Json.names_unless _ _ _)).append
      (Json.names_unless _ _ _)).append (Json.names_unless _ _ _))).cons_cons _
  refine Json.asRecord_object hf (hnames.nodup (by decide)) fun moved hm => ?_
  refine Ranked.run_seq
    (Ranked.run_seq (Ranked.run_seq (Ranked.run_seq (Ranked.run_seq (Ranked.run_seq
    (Ranked.run_seq (Ranked.run_seq (Ranked.run_seq (Ranked.run_seq (Ranked.run_seq (Ranked.run_map
    (hm.read ?_)) (hm.read ?_)) (hm.read ?_)) (hm.read ?_)) (hm.read ?_)) (hm.read ?_))
    (hm.read ?_)) (hm.read ?_)) (hm.read ?_)) (hm.read ?_)) (hm.read ?_)) (hm.read ?_)
  · exact hid
  · exact Json.asText_string hf t.name
  · simpa [encodeMembers, Json.lookup_append, Request.textsMember, listMember] using
      Json.written_text hf t.description
  · simpa [encodeMembers, Json.lookup_append, Request.textsMember, listMember] using
      Json.written_path hf t.file
  · simpa [encodeMembers, Json.lookup_append, Request.textsMember, listMember] using
      t.status.decode_encode hf
  · simpa [encodeMembers, Json.lookup_append, Request.textsMember, listMember] using
      t.request.decode_encode hf
  · simpa [encodeMembers, Json.lookup_append, Request.textsMember, listMember] using
      t.expect.decode_encode hf hfix h.assertions
  · simpa [encodeMembers, Json.lookup_append, Request.textsMember, listMember] using
      Json.written_list hf .string fun s (_ : s ∈ t.fixtures) => Json.asText_string hf s
  · simpa [encodeMembers, Json.lookup_append, Request.textsMember, listMember] using
      Json.written_documents hf fun e he => hfix e.2 (h.mocks e he)
  · simpa [encodeMembers, Json.lookup_append, Request.textsMember, listMember] using
      Json.written_texts hf t.bindings
  · simpa [encodeMembers, Json.lookup_append, Request.textsMember, listMember] using
      Json.written_texts hf t.capture
  · simpa [encodeMembers, Json.lookup_append, Request.textsMember, listMember] using
      Json.written_list hf DbCheck.encode fun c hc => DbCheck.decode_encode hf hfix (h.rows c hc)

end Cases

/-! ## What has been read -/

section Reading

variable {P : Json → Prop}

/-- An optional document that has been read is not null. -/
theorem Json.yields_asOption_asJson :
    Yields P (asOption asJson) fun o => ∀ v ∈ o, v ≠ .null ∧ P v := by
  intro v o hv hok
  cases v <;> cases hok
  case null => exact nofun
  all_goals
    intro w hw
    cases hw
    exact ⟨nofun, hv⟩

variable (hP : Hereditary P)
include hP

/-- The documents of an assertion that is read have the property of its definition. -/
theorem Assertion.decode_yields : Yields P decode (Holds P) := by
  intro v a hv hok
  cases hsplit : Json.splitTag "Assertion" "type" kinds v with
  | error e =>
    rw [decode, hsplit] at hok
    cases hok
  | ok split =>
    obtain ⟨kind, fs⟩ := split
    have hfs : fs.All P := Json.of_splitTag hP hv hsplit
    have hfields : decodeFields fs kind = .ok a := by
      rw [decode, hsplit] at hok
      exact hok
    cases kind with
    | jsonPath =>
      dsimp only [decodeFields] at hfields
      obtain ⟨_, expected, hpath, hexpected, rfl⟩ :=
        Ranked.of_run_seq (Json.of_finishTagged hfields)
      obtain ⟨path, -, rfl⟩ := Ranked.of_run_map hpath
      have hholds : ∀ v ∈ expected, v ≠ .null ∧ P v :=
        hfs.read Json.yields_asOption_asJson (by simp) (by simp) hexpected
      cases expected with
      | none => trivial
      | some v => exact hholds v rfl
    | jsonPathMatches =>
      dsimp only [decodeFields] at hfields
      obtain ⟨_, value, hrest, hvalue, rfl⟩ := Ranked.of_run_seq (Json.of_finishTagged hfields)
      obtain ⟨_, operator, hpath, -, rfl⟩ := Ranked.of_run_seq hrest
      obtain ⟨path, -, rfl⟩ := Ranked.of_run_map hpath
      have hholds : P value := hfs.read Json.yields_asJson (by simp) (by simp) hvalue
      exact hholds
    | statusCode | responseTime | bodyMatches | bodyEquals | contentType =>
      dsimp only [decodeFields] at hfields
      obtain ⟨_, -, rfl⟩ := Ranked.of_run_map (Json.of_finishTagged hfields)
      trivial
    | headerExists | headerMatches | bodyContains | bodyLength =>
      dsimp only [decodeFields] at hfields
      obtain ⟨_, _, hfirst, -, rfl⟩ := Ranked.of_run_seq (Json.of_finishTagged hfields)
      obtain ⟨_, -, rfl⟩ := Ranked.of_run_map hfirst
      trivial
    | isJson | isXml =>
      cases hfields
      trivial

theorem DbCheck.decode_yields : Yields P decode fun c => ∀ v ∈ c.rows, P v := by
  intro v c hv hok
  obtain ⟨fs, hfs, hread⟩ := Json.of_asRecord hP hv hok
  obtain ⟨_, compare, beforeCompare, -, rfl⟩ := Ranked.of_run_seq hread
  obtain ⟨_, rows, beforeRows, hrows, rfl⟩ := Ranked.of_run_seq beforeCompare
  obtain ⟨query, -, rfl⟩ := Ranked.of_run_map beforeRows
  exact hfs.read (Json.yields_asJson.asList hP) (by simp) (by simp) hrows

theorem Expectations.decode_yields : Yields P decode fun e => ∀ a ∈ e.assertions, a.Holds P := by
  intro v e hv hok
  obtain ⟨fs, hfs, hread⟩ := Json.of_asRecord hP hv hok
  obtain ⟨_, assertions, beforeAssertions, hassertions, rfl⟩ := Ranked.of_run_seq hread
  obtain ⟨_, compare, beforeCompare, -, rfl⟩ := Ranked.of_run_seq beforeAssertions
  obtain ⟨_, body, beforeBody, -, rfl⟩ := Ranked.of_run_seq beforeCompare
  obtain ⟨_, headers, beforeHeaders, -, rfl⟩ := Ranked.of_run_seq beforeBody
  obtain ⟨status, -, rfl⟩ := Ranked.of_run_map beforeHeaders
  exact hfs.read ((Assertion.decode_yields hP).asList hP) (by simp) (by simp) hassertions

/-- The documents of a test case that is read have the property of its definition, and no value that
is expected under a path is null. -/
theorem TestCase.decode_yields (fresh : Uuid) : Yields P (decode fresh) (Holds P) := by
  intro v t hv hok
  obtain ⟨fs, hfs, hread⟩ := Json.of_asRecord hP hv hok
  obtain ⟨_, dbChecks, beforeDbChecks, hdbChecks, rfl⟩ := Ranked.of_run_seq hread
  obtain ⟨_, capture, beforeCapture, -, rfl⟩ := Ranked.of_run_seq beforeDbChecks
  obtain ⟨_, bindings, beforeBindings, -, rfl⟩ := Ranked.of_run_seq beforeCapture
  obtain ⟨_, mocks, beforeMocks, hmocks, rfl⟩ := Ranked.of_run_seq beforeBindings
  obtain ⟨_, fixtures, beforeFixtures, -, rfl⟩ := Ranked.of_run_seq beforeMocks
  obtain ⟨_, expect, beforeExpect, hexpect, rfl⟩ := Ranked.of_run_seq beforeFixtures
  obtain ⟨_, request, beforeRequest, -, rfl⟩ := Ranked.of_run_seq beforeExpect
  obtain ⟨_, status, beforeStatus, -, rfl⟩ := Ranked.of_run_seq beforeRequest
  obtain ⟨_, file, beforeFile, -, rfl⟩ := Ranked.of_run_seq beforeStatus
  obtain ⟨_, description, beforeDescription, -, rfl⟩ := Ranked.of_run_seq beforeFile
  obtain ⟨_, name, beforeName, -, rfl⟩ := Ranked.of_run_seq beforeDescription
  obtain ⟨id, -, rfl⟩ := Ranked.of_run_map beforeName
  constructor
  · have hempty : ∀ d ∈ some (Dict.empty : Dict Json), ∀ e ∈ d.entries, P e.2 := by
      simp [Dict.empty]
    exact hfs.read (Json.yields_asJson.asDict hP) hempty hempty hmocks
  · exact hfs.read ((DbCheck.decode_yields hP).asList hP) (by simp) (by simp) hdbChecks
  · have hanything : ∀ e ∈ some Expectations.anything, ∀ a ∈ e.assertions, a.Holds P := by
      simp [Expectations.anything]
    exact hfs.read (Expectations.decode_yields hP) hanything hanything hexpect

end Reading

/-! ## Reading a test case back -/

/-- A test case that has been read from a document, written as a document and read again is the same
test case, with the identifier it had: whatever the first document left out, spelled differently or
gave as null.  So it is for the document with its members as they are written and, if the first
document had its members in the order of their names, as every text gives them, for the document
with its members in that order. -/
theorem TestCase.read_back_from_document (v : Json) (fresh fresh' : Uuid) (t : TestCase)
    (h : decode fresh v = .ok t) :
    decode fresh' t.encode = .ok t ∧ (v.Ordered → decode fresh' t.encode.arranged = .ok t) := by
  constructor
  · have hholds : t.Holds fun _ => True := decode_yields Json.hereditary_true fresh v t trivial h
    exact decode_encode Json.rearranges_id (fun _ _ => rfl) fresh' hholds
  · intro hordered
    have hholds : t.Holds Json.Ordered := decode_yields Json.hereditary_ordered fresh v t hordered h
    exact decode_encode Json.rearranges_arranged (fun _ => Json.arranged_of_ordered) fresh' hholds

/-- A definition that leaves out what it can, spells the method in small letters and has a null
member. -/
def TestCase.sparseDefinition : Json :=
  .object [
    ("expect", .object
      [("assertions", .array [.object [("path", .string "$.id"), ("type", .string "json_path")]]),
      ("status", .null)]),
    ("name", .string "first"),
    ("request", .object [("method", .string "get"), ("path", .string "/first")])]

/-- The sparse definition is that of a test case, which is read back under the identifier it was
given. -/
theorem TestCase.sparse_definition_read_back :
    ∃ t, decode (.ofNat 1) sparseDefinition = .ok t ∧ t.request.method = .get ∧
      t.expect.assertions = [.jsonPath "$.id" none] ∧ t.id = .ofNat 1 ∧
      decode (.ofNat 2) t.encode = .ok t ∧ decode (.ofNat 2) t.encode.arranged = .ok t := by
  have hread : decode (.ofNat 1) sparseDefinition =
    .ok { ofRequest (.ofNat 1) "first" (.get "/first") with
      expect := { Expectations.anything with assertions := [.jsonPath "$.id" none] } } := by
    rfl
  have hordered : sparseDefinition.Ordered := by
    simp only [sparseDefinition, Json.Ordered, Json.OrderedItems, Json.OrderedMembers, and_true]
    decide +kernel
  obtain ⟨hback, harranged⟩ :=
    read_back_from_document sparseDefinition (.ofNat 1) (.ofNat 2) _ hread
  exact ⟨_, hread, rfl, rfl, rfl, hback, harranged hordered⟩

end Assay
