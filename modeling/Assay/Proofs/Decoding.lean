import Assay.Json.Decode
import Assay.Proofs.Arranging
import Assay.Proofs.Dictionary

/-
  Reading back what has been written.

  A value is written as a document, the document is rearranged (`Json.Rearranges`), and it is read
  again.  The lemmas here say for each decoder when this gives the value back.  They are put
  together in the way in which the decoders are, so that the proof about a decoder is a row of
  applications in the order of its fields.

  1. Single values, lists and dictionaries.  A list is read back if its items are (`asList_array`),
     a dictionary if its values are (`asDict_object`); its entries are in order already, so nothing
     can be moved in it.

  2. Records.  A field is read either from its member or, if the member has been left out, as its
     default; `Json.Written` says that one of these gives the value.  A record is read back if all
     of its fields are `Written` and its members have different names (`asRecord_object`).  Reading
     fields is an applicative computation that keeps track of which error comes first (`Ranked`);
     what matters here is only that it succeeds when all its parts do (`Ranked.run_map`,
     `Ranked.run_seq`).

  3. Records with a tag.  The tag is split off first, and the fields beside it are a record
     (`splitTag_object`).

  4. The other direction.  For values that hold documents one has to know what these are like, since
     a document that has been read is ordered and stays as it is.  `Json.Yields P decode Q` says
     that from documents with the property `P` the decoder reads values with the property `Q`.  It
     is built up in the same way: a property that is `Hereditary` goes from a document to its parts,
     from there to the fields of a record (`Fields.All.read`, `of_asRecord`, `of_splitTag`), and
     from these to the value.
-/

namespace Assay.Json

variable {α β γ : Type} {f : Json → Json} (hf : Rearranges f)

/-! ## Single values -/

/-- A name that is known is read as what it stands for. -/
theorem asName_string {names : List (String × α)} {name : String} {a : α}
    (h : names.lookup name = some a) :
    asName names (.string name) = .ok a := by
  show ofName names name = .ok a
  rw [ofName, h]

/-- A number below the bound is read back. -/
theorem asNatBelow_word {bound : Nat} {type : String} {n : UInt64} (h : n.toNat < bound) :
    asNatBelow bound type (word n) = .ok n.toNat := by
  have hrange : (0 ≤ (n.toNat : Int) && (n.toNat : Int) < bound) = true := by
    rw [Bool.and_eq_true, decide_eq_true_eq, decide_eq_true_eq]
    omega
  show (if _ then _ else _) = _
  rw [if_pos hrange]
  rfl

theorem asWord64_word (n : UInt64) : asWord64 (word n) = .ok n := by
  rw [asWord64, asNatBelow_word n.toNat_lt]
  exact congrArg Except.ok UInt64.ofNat_toNat

theorem asSize_word (n : UInt64) : asSize (word n) = .ok n := by
  rw [asSize, asNatBelow_word n.toNat_lt]
  exact congrArg Except.ok UInt64.ofNat_toNat

theorem asWord16_word (n : UInt16) : asWord16 (word n.toUInt64) = .ok n := by
  have hlt : n.toUInt64.toNat < 0x10000 := by
    rw [UInt16.toNat_toUInt64]
    exact n.toNat_lt
  rw [asWord16, asNatBelow_word hlt, UInt16.toNat_toUInt64]
  exact congrArg Except.ok UInt16.ofNat_toNat

include hf in
/-- A text is read back. -/
theorem asText_string (s : String) : asText (f (.string s)) = .ok s := by
  rw [hf.string]
  rfl

/-- A value that is not null is read as a value that is there. -/
theorem asOption_of_ne_null {decode : Decoder α} {v : Json} {a : α} (hne : v ≠ .null)
    (h : decode v = .ok a) : asOption decode v = .ok (some a) := by
  have hmap : asOption decode v = (decode v).map some := by
    cases v <;> first | exact absurd rfl hne | rfl
  rw [hmap, h]
  rfl

/-! ## Lists and dictionaries -/

/-- Items are read back one by one. -/
theorem asListItems_map {decode : Decoder α} (write : α → Json) {as : List α}
    (h : ∀ a ∈ as, decode (write a) = .ok a) : asListItems decode (as.map write) = .ok as := by
  induction as with
  | nil => rfl
  | cons a rest ih =>
    rw [List.map_cons, asListItems, h a List.mem_cons_self,
      ih fun a ha => h a (List.mem_cons_of_mem _ ha)]
    rfl

include hf in
/-- A list is read back if its items are. -/
theorem asList_array {decode : Decoder α} {write : α → Json} {as : List α}
    (h : ∀ a ∈ as, decode (f (write a)) = .ok a) :
    asList decode (f (.array (as.map write))) = .ok as := by
  rw [hf.array, List.map_map]
  exact asListItems_map (fun a => f (write a)) h

/-- Values of entries are read back one by one. -/
theorem traverseEntries_map {decode : Decoder α} (write : α → Json) {es : List (String × α)}
    (h : ∀ e ∈ es, decode (write e.2) = .ok e.2) :
    Dict.traverseEntries (fun _ v => decode v) (es.map fun e => (e.1, write e.2)) = .ok es := by
  induction es with
  | nil => rfl
  | cons e rest ih =>
    rw [List.map_cons, Dict.traverseEntries, h e List.mem_cons_self,
      ih fun e he => h e (List.mem_cons_of_mem _ he)]
    rfl

include hf in
/-- A dictionary is read back if its values are; its entries are in order already. -/
theorem asDict_object {decode : Decoder α} {write : α → Json} {d : Dict α}
    (h : ∀ e ∈ d.entries, decode (f (write e.2)) = .ok e.2) :
    asDict decode (f (.object (d.entries.map fun e => (e.1, write e.2)))) = .ok d := by
  have hsorted : ((d.entries.map fun e => (e.1, write e.2)).map Prod.fst).Pairwise (· < ·) := by
    rw [List.map_map]
    exact List.pairwise_map.mpr d.sorted
  rw [hf.sorted _ hsorted, List.map_map]
  show (Dict.traverseEntries (fun _ v => decode v)
    (d.entries.map fun e => (e.1, f (write e.2))) >>= fun es => pure (Dict.ofList es)) = _
  rw [traverseEntries_map (fun a => f (write a)) h]
  exact congrArg Except.ok d.ofList_entries

include hf in
theorem asDict_ofTexts (d : Dict String) : asDict asText (f (ofTexts d.entries)) = .ok d :=
  asDict_object hf fun e _ => asText_string hf e.2

/-! ## Fields of a record -/

/-- Applying a function to what is read does not fail. -/
theorem Ranked.run_map {g : α → β} {x : Ranked α} {a : α} (h : x.run = .ok a) :
    (g <$> x).run = .ok (g a) := by
  show (Ranked.both (Ranked.pure g) x).run = _
  rw [Ranked.both, h]
  rfl

/-- What is read together succeeds if both parts do. -/
theorem Ranked.run_seq {g : Ranked (α → β)} {x : Ranked α} {g' : α → β} {a : α}
    (hg : g.run = .ok g') (h : x.run = .ok a) : (g <*> x).run = .ok (g' a) := by
  show (Ranked.both g x).run = _
  rw [Ranked.both, hg, h]

/-- A field is written such that it is read as the given value: its member is, or there is none and
this is its value then. -/
def Written (f : Json → Json) (decode : Decoder α) (missing : Option α) (a : α) : Option Json → Prop
  | some v => decode (f v) = .ok a
  | none => missing = some a

/-- A member that is found by its name is found with some number. -/
theorem findMember_eq_some {name : String} {v : Json} :
    ∀ {members : List (String × Json)} {i : Nat},
    lookup name members = some v → ∃ k, findMember name members i = some (k, v) := by
  intro members
  induction members with
  | nil => exact fun h => nomatch h
  | cons m rest ih =>
    intro i h
    obtain ⟨k, w⟩ := m
    rw [lookup] at h
    rw [findMember]
    by_cases hk : k = name
    · rw [if_pos hk] at h ⊢
      cases h
      exact ⟨i, rfl⟩
    · rw [if_neg hk] at h ⊢
      exact ih h

/-- A member that is not listed is not found. -/
theorem findMember_eq_none {name : String} : ∀ {members : List (String × Json)} {i : Nat},
    lookup name members = none → findMember name members i = none := by
  intro members
  induction members with
  | nil => exact fun _ => rfl
  | cons m rest ih =>
    intro i h
    obtain ⟨k, w⟩ := m
    rw [lookup] at h
    rw [findMember]
    by_cases hk : k = name
    · rw [if_pos hk] at h
      cases h
    · rw [if_neg hk] at h ⊢
      exact ih h

/-- The members of a record after a change: under each name there is what was there, changed. -/
def Moved (f : Json → Json) (members moved : List (String × Json)) : Prop :=
  ∀ name, lookup name moved = (lookup name members).map f

/-- A field that is written such is read as its value. -/
theorem Moved.read {members moved : List (String × Json)} (h : Moved f members moved)
    {shape : RecordShape} {index : Nat} {name : String} {decode : Decoder α}
    {missing cut : Option α} {a : α} (hwritten : Written f decode missing a (lookup name members)) :
    ((Fields.members moved).read shape index name decode missing cut).run = .ok a := by
  have hname := h name
  unfold Fields.read
  dsimp only
  cases hlookup : lookup name members with
  | none =>
    rw [hlookup] at hname hwritten
    have hmissing : missing = some a := hwritten
    rw [findMember_eq_none hname]
    dsimp only
    rw [hmissing]
  | some v =>
    rw [hlookup] at hname hwritten
    have hdecode : decode (f v) = .ok a := hwritten
    obtain ⟨k, hk⟩ := findMember_eq_some (i := 0) hname
    rw [hk]
    dsimp only
    rw [hdecode]
    rfl

theorem asRecord_members (shape : RecordShape) (read : Fields → Ranked α)
    (ms : List (String × Json)) :
    asRecord shape read (.object ms) = finish (.members ms) shape
      (fun n => .invalidLength n "fewer elements in array") (read (.members ms)) := rfl

theorem asRecord_items (shape : RecordShape) (read : Fields → Ranked α) (vs : List Json) :
    asRecord shape read (.array vs) = finish (.items vs) shape
      (fun n => .invalidLength n "fewer elements in array") (read (.items vs)) := rfl

include hf in
/-- A record whose members have different names is read back if its fields are. -/
theorem asRecord_object {shape : RecordShape} {read : Fields → Ranked α} {a : α}
    {members : List (String × Json)} (hnames : (members.map Prod.fst).Nodup)
    (h : ∀ moved, Moved f members moved → (read (.members moved)).run = .ok a) :
    asRecord shape read (f (.object members)) = .ok a := by
  obtain ⟨moved, hmoved, hlookup⟩ := hf.members hnames
  rw [hmoved, asRecord_members, finish, h moved hlookup]

/-! ## Records with a tag -/

/-- Without the tag, all other members are found. -/
theorem lookup_filter (tag name : String) (members : List (String × Json)) :
    lookup name (members.filter fun m => m.1 ≠ tag) = if name = tag then none else
      lookup name members := by
  induction members with
  | nil => exact (ite_self _).symm
  | cons m rest ih =>
    obtain ⟨k, v⟩ := m
    by_cases hk : k = tag
    · rw [List.filter_cons_of_neg (by simp [hk]), ih, lookup]
      by_cases hname : name = tag
      · rw [if_pos hname, if_pos hname]
      · have hne : ¬ k = name := fun heq => hname (heq.symm.trans hk)
        rw [if_neg hname, if_neg hname, if_neg hne]
    · rw [List.filter_cons_of_pos (by simp [hk]), lookup, lookup, ih]
      by_cases hname : name = tag
      · have hne : ¬ k = name := fun heq => hk (heq.trans hname)
        rw [if_pos hname, if_neg hne]
        exact (if_pos hname).symm
      · rw [if_neg hname]
        exact (if_neg hname).symm

include hf in
/-- The tag of a record is read back, and the fields beside it can be. -/
theorem splitTag_object (type : String) {tag name : String} {names : List (String × α)} {a : α}
    {members : List (String × Json)} (hname : names.lookup name = some a)
    (hnames : (tag :: members.map Prod.fst).Nodup) :
    ∃ moved, splitTag type tag names (f (.object ((tag, .string name) :: members))) =
      .ok (a, .members moved) ∧
      Moved f members moved := by
  have hall : (((tag, Json.string name) :: members).map Prod.fst).Nodup := hnames
  obtain ⟨moved, hmoved, hlookup⟩ := hf.members hall
  refine ⟨moved.filter fun m => m.1 ≠ tag, ?_, fun key => ?_⟩
  · have htag : lookup tag moved = some (.string name) := by
      rw [hlookup, lookup, if_pos rfl]
      exact congrArg some (hf.string name)
    rw [hmoved, splitTag, htag]
    show (ofName names name >>= _) = _
    rw [ofName, hname]
    rfl
  · rw [lookup_filter, hlookup, lookup]
    by_cases hkey : key = tag
    · have habsent : lookup tag members = none := by
        rw [Option.eq_none_iff_forall_ne_some]
        intro v hv
        obtain ⟨hnew, hrest⟩ := List.nodup_cons.mp hnames
        exact hnew (List.mem_map.mpr ⟨_, (lookup_eq_some_iff hrest).mp hv, rfl⟩)
      rw [if_pos hkey, hkey, habsent]
      rfl
    · rw [if_neg hkey, if_neg (Ne.symm hkey)]

/-- The fields beside a tag may be members of any number. -/
theorem finishTagged_members {shape : RecordShape} {r : Ranked α} {a : α}
    {members : List (String × Json)} (h : r.run = .ok a) :
    finishTagged (.members members) shape r = .ok a := by
  rw [finishTagged, finish, h]

/-! ## What a decoder reads -/

/-- A property that the parts of a document share with it. -/
structure Hereditary (P : Json → Prop) : Prop where
  items : ∀ items, P (.array items) → ∀ v ∈ items, P v
  members : ∀ members : List (String × Json), P (.object members) → ∀ m ∈ members, P m.2

theorem hereditary_true : Hereditary fun _ => True :=
  ⟨fun _ _ _ _ => trivial, fun _ _ _ _ => trivial⟩

/-- The parts of an ordered document are ordered. -/
theorem hereditary_ordered : Hereditary Ordered := by
  refine ⟨fun items h => ?_, fun members h => ?_⟩
  · rw [Ordered] at h
    exact orderedItems_iff.mp h
  · rw [Ordered] at h
    exact orderedMembers_iff.mp h.2

/-- From a document with the first property the decoder reads values with the second one. -/
def Yields (P : Json → Prop) (decode : Decoder α) (Q : α → Prop) : Prop :=
  ∀ v a, P v → decode v = .ok a → Q a

variable {P : Json → Prop} (hP : Hereditary P) {Q : α → Prop}

theorem yields_asJson : Yields P asJson P := fun _ _ hv h => Except.ok.inj h ▸ hv

/-- If single items have the property, then all of them have. -/
theorem asListItems_yields {decode : Decoder α} (h : Yields P decode Q) :
    ∀ {items : List Json} {as : List α},
    (∀ v ∈ items, P v) → asListItems decode items = .ok as → ∀ a ∈ as, Q a := by
  intro items
  induction items with
  | nil =>
    intro as _ hok
    cases hok
    exact nofun
  | cons v rest ih =>
    intro as hitems hok
    rw [asListItems] at hok
    cases hfirst : decode v with
    | error e =>
      rw [hfirst] at hok
      cases hok
    | ok x =>
      cases hrest : asListItems decode rest with
      | error e =>
        rw [hfirst, hrest] at hok
        cases hok
      | ok xs =>
        rw [hfirst, hrest] at hok
        cases hok
        intro a ha
        rcases List.mem_cons.mp ha with rfl | ha
        · exact h v a (hitems v List.mem_cons_self) hfirst
        · exact ih (fun v hv => hitems v (List.mem_cons_of_mem _ hv)) hrest a ha

include hP in
theorem Yields.asList {decode : Decoder α} (h : Yields P decode Q) :
    Yields P (asList decode) fun as => ∀ a ∈ as, Q a := by
  intro v as hv hok
  cases v with
  | array items => exact asListItems_yields h (hP.items items hv) hok
  | null => cases hok
  | bool b => cases hok
  | number n => cases hok
  | string s => cases hok
  | object members => cases hok

/-- If single values have the property, then all of them have. -/
theorem traverseEntries_yields {decode : Decoder α} (h : Yields P decode Q) :
    ∀ {members : List (String × Json)} {es : List (String × α)}, (∀ m ∈ members, P m.2) →
      Dict.traverseEntries (fun _ v => decode v) members = .ok es → ∀ e ∈ es, Q e.2 := by
  intro members
  induction members with
  | nil =>
    intro es _ hok
    cases hok
    exact nofun
  | cons m rest ih =>
    intro es hmembers hok
    rw [Dict.traverseEntries] at hok
    cases hfirst : decode m.2 with
    | error e =>
      rw [hfirst] at hok
      cases hok
    | ok x =>
      cases hrest : Dict.traverseEntries (fun _ v => decode v) rest with
      | error e =>
        rw [hfirst, hrest] at hok
        cases hok
      | ok xs =>
        rw [hfirst, hrest] at hok
        cases hok
        intro e he
        rcases List.mem_cons.mp he with rfl | he
        · exact h m.2 x (hmembers m List.mem_cons_self) hfirst
        · exact ih (fun m hm => hmembers m (List.mem_cons_of_mem _ hm)) hrest e he

include hP in
theorem Yields.asDict {decode : Decoder α} (h : Yields P decode Q) :
    Yields P (asDict decode) fun d => ∀ e ∈ d.entries, Q e.2 := by
  intro v d hv hok
  cases v with
  | object members =>
    have hok' :
      (Dict.traverseEntries (fun _ v => decode v) members >>= fun es => pure (Dict.ofList es)) =
        Except.ok d := hok
    cases hentries : Dict.traverseEntries (fun _ v => decode v) members with
    | error e =>
      rw [hentries] at hok'
      cases hok'
    | ok es =>
      rw [hentries] at hok'
      cases hok'
      intro e he
      rcases Dict.mem_of_mem_update he with he | he
      · cases he
      · exact traverseEntries_yields h (hP.members members hv) hentries e he
  | null => cases hok
  | bool b => cases hok
  | number n => cases hok
  | string s => cases hok
  | array items => cases hok

/-! ### Records -/

/-- What has been read under a function comes from what has been read. -/
theorem Ranked.of_run_map {g : α → β} {x : Ranked α} {b : β} (h : (g <$> x).run = .ok b) :
    ∃ a, x.run = .ok a ∧ g a = b := by
  have h' : (Ranked.both (Ranked.pure g) x).run = .ok b := h
  rw [Ranked.both] at h'
  cases hx : x.run with
  | error e =>
    rw [hx] at h'
    cases h'
  | ok a =>
    rw [hx] at h'
    exact ⟨a, rfl, Except.ok.inj h'⟩

/-- What has been read together has been read in both parts. -/
theorem Ranked.of_run_seq {g : Ranked (α → β)} {x : Ranked α} {b : β} (h : (g <*> x).run = .ok b) :
    ∃ g' a, g.run = .ok g' ∧ x.run = .ok a ∧ g' a = b := by
  have h' : (Ranked.both g x).run = .ok b := h
  rw [Ranked.both] at h'
  cases hg : g.run with
  | error e =>
    rw [hg] at h'
    cases hx : x.run <;> rw [hx] at h' <;> cases h'
  | ok g' =>
    rw [hg] at h'
    cases hx : x.run with
    | error e =>
      rw [hx] at h'
      cases h'
    | ok a =>
      rw [hx] at h'
      exact ⟨g', a, rfl, rfl, Except.ok.inj h'⟩

/-- All values that the fields of a record are read from have a property. -/
def Fields.All (P : Json → Prop) : Fields → Prop
  | .members ms => ∀ m ∈ ms, P m.2
  | .items vs => ∀ v ∈ vs, P v

/-- A member that is found is one of the members. -/
theorem mem_of_findMember {name : String} {v : Json} {k : Nat} :
    ∀ {members : List (String × Json)} {i : Nat},
    findMember name members i = some (k, v) → ∃ m ∈ members, m.2 = v := by
  intro members
  induction members with
  | nil => exact fun h => nomatch h
  | cons m rest ih =>
    intro i h
    rw [findMember] at h
    split at h
    · cases h
      exact ⟨m, List.mem_cons_self, rfl⟩
    · obtain ⟨m', hm', hv⟩ := ih h
      exact ⟨m', List.mem_cons_of_mem _ hm', hv⟩

/-- A field is read from one of the values, or it has one of its defaults. -/
theorem Fields.All.read {fs : Fields} (hfs : fs.All P) {shape : RecordShape} {index : Nat}
    {name : String} {decode : Decoder α} {missing cut : Option α} {a : α}
    (hdecode : Yields P decode Q) (hmissing : ∀ a ∈ missing, Q a) (hcut : ∀ a ∈ cut, Q a)
    (h : (fs.read shape index name decode missing cut).run = .ok a) : Q a := by
  have hvalue : ∀ {v : Json} {i : Nat}, P v →
      (decode v).mapError (fun e => (i, e)) = .ok a → Q a := by
    intro v i hv hok
    cases hdecoded : decode v with
    | error e =>
      rw [hdecoded] at hok
      cases hok
    | ok a' =>
      rw [hdecoded] at hok
      cases hok
      exact hdecode v a hv hdecoded
  unfold Fields.read at h
  cases fs with
  | members ms =>
    dsimp only at h
    cases hfound : findMember name ms 0 with
    | some found =>
      obtain ⟨m, hm, hv⟩ := mem_of_findMember hfound
      rw [hfound] at h
      exact hvalue (hv ▸ hfs m hm) h
    | none =>
      rw [hfound] at h
      cases missing with
      | none => cases h
      | some a' =>
        cases h
        exact hmissing a rfl
  | items vs =>
    dsimp only at h
    cases hfound : vs[index]? with
    | some v =>
      rw [hfound] at h
      exact hvalue (hfs v (List.mem_of_getElem? hfound)) h
    | none =>
      rw [hfound] at h
      cases cut with
      | none => cases h
      | some a' =>
        cases h
        exact hcut a rfl

/-- A record that is read has had its fields read. -/
theorem of_finish {fs : Fields} {shape : RecordShape} {tooLong : Nat → DecodeError} {r : Ranked α}
    {a : α} (h : finish fs shape tooLong r = .ok a) : r.run = .ok a := by
  rw [finish] at h
  cases hrun : r.run with
  | error e =>
    rw [hrun] at h
    cases h
  | ok a' =>
    rw [hrun] at h
    cases fs with
    | members ms =>
      cases h
      rfl
    | items vs =>
      dsimp only at h
      split at h
      · cases h
      · cases h
        rfl

theorem of_finishTagged {fs : Fields} {shape : RecordShape} {r : Ranked α} {a : α}
    (h : finishTagged fs shape r = .ok a) : r.run = .ok a := by
  rw [finishTagged] at h
  exact of_finish h

include hP in
/-- A record is read from fields that have the property of the document. -/
theorem of_asRecord {shape : RecordShape} {read : Fields → Ranked α} {v : Json} {a : α} (hv : P v)
    (h : asRecord shape read v = .ok a) : ∃ fs : Fields, fs.All P ∧ (read fs).run = .ok a := by
  cases v with
  | object members =>
    rw [asRecord_members] at h
    exact ⟨.members members, hP.members members hv, of_finish h⟩
  | array items =>
    rw [asRecord_items] at h
    exact ⟨.items items, hP.items items hv, of_finish h⟩
  | null => cases h
  | bool b => cases h
  | number n => cases h
  | string s => cases h

include hP in
/-- The fields beside a tag have the property of the document. -/
theorem of_splitTag {type tag : String} {names : List (String × α)} {v : Json} {a : α} {fs : Fields}
    (hv : P v) (h : splitTag type tag names v = .ok (a, fs)) : fs.All P := by
  have hbind : ∀ {x : Except DecodeError α} {gs : Fields},
      (x >>= fun a => pure (a, gs)) = .ok (a, fs) → gs = fs := by
    intro x gs hok
    cases x with
    | error e => cases hok
    | ok a' => exact (Prod.mk.inj (Except.ok.inj hok)).2
  cases v with
  | object members =>
    rw [splitTag] at h
    cases htag : lookup tag members with
    | none =>
      rw [htag] at h
      cases h
    | some value =>
      rw [htag] at h
      rw [← hbind h]
      exact fun m hm => hP.members members hv m (List.mem_of_mem_filter hm)
  | array items =>
    cases items with
    | nil => cases h
    | cons value rest =>
      rw [← hbind h]
      exact fun v' hv' => hP.items (value :: rest) hv v' (List.mem_cons_of_mem _ hv')
  | null => cases h
  | bool b => cases h
  | number n => cases h
  | string s => cases h

end Assay.Json
