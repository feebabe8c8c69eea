import Assay.Proofs.Altering
import Assay.Proofs.Dictionary
import Assay.Proofs.Resolving

/-
  Filling in the templates of a test, each in its place.

  A resolver goes through the templates of a test one after the other and gathers the names without
  a value on the way.  It is an action with two kinds of state: the names that have been gathered,
  and the values of the built-in variables, of which one is drawn when it is first asked for.
  `Gathers` describes such an action by two functions: what it answers, and which names it gathers,
  once the values of all built-in variables are known.  So the traversal is compared with a pure
  one, in which all templates are filled in with the same values.

  1. Actions.  `Gathers` holds of doing nothing and of two actions one after the other
     (`Gathers.bind`); equal answers and names may be replaced (`Gathers.congr`).

  2. Templates.  What is known of one template goes on to the values of a dictionary
     (`traverseValues_gathers`), to the strings of a document (`traverseStrings_gathers`, by
     induction on the document), and to all templates of a test (`traverseTemplates_gathers`), in
     the order in which the code goes through them.

  3. Test cases.  One template is resolved as `Scopes.resolve` does it once the values are known
     (`fill_gathers`), and `resolveCase_yields` takes this to a whole test.

  4. What comes out.  `TestCase.FilledBy` says of each field of the test what has become of it:
     templates are filled in, each by the same function, documents in them are altered at their
     strings only, and everything else is the same.  The names that are told are sorted and without
     repetition, and they are just those that stand in some template and have no value.
-/

namespace Assay

/-! ## Actions that gather names -/

/-- An action that gathers names: whatever has been gathered before, it adds its own. -/
def Gathers {α : Type} (supply : Nat → BuiltIn → String)
    (x : StateT (List String) (StateT Generated Option) α) (answer : (BuiltIn → String) → α)
    (names : (BuiltIn → String) → List String) : Prop :=
  ∀ gathered, Resolving.Yields supply (x gathered) fun generated =>
  (answer generated, gathered ++ names generated)

namespace Gathers

variable {supply : Nat → BuiltIn → String} {α β : Type}

/-- An action that does nothing gathers nothing. -/
theorem pure (a : α) : Gathers supply (Pure.pure a) (fun _ => a) fun _ => [] := by
  intro gathered
  refine (Resolving.yields_pure (a, gathered)).congr fun generated => ?_
  rw [List.append_nil]

/-- An action and another one behind it: the names of the first come first. -/
theorem bind {x : StateT (List String) (StateT Generated Option) α}
    {k : α → StateT (List String) (StateT Generated Option) β} {a : (BuiltIn → String) → α}
    {b : α → (BuiltIn → String) → β} {names more : (BuiltIn → String) → List String}
    (hx : Gathers supply x a names) (hk : ∀ v, Gathers supply (k v) (b v) more) :
    Gathers supply (x >>= k) (fun generated => b (a generated) generated)
      fun generated => names generated ++ more generated := by
  intro gathered
  have hboth := (hx gathered).bind fun p : α × List String => hk p.1 p.2
  refine hboth.congr fun generated => ?_
  rw [List.append_assoc]

/-- Answers and names may be described in other words. -/
theorem congr {x : StateT (List String) (StateT Generated Option) α} {a b : (BuiltIn → String) → α}
    {names more : (BuiltIn → String) → List String} (h : Gathers supply x a names)
    (hab : ∀ generated, a generated = b generated)
    (hnames : ∀ generated, names generated = more generated) :
    Gathers supply x b more :=
  funext hab ▸ funext hnames ▸ h

end Gathers

/-! ## Going through templates -/

section Values

variable {supply : Nat → BuiltIn → String} {α β : Type}
  {f : α → StateT (List String) (StateT Generated Option) β}
  {a : (BuiltIn → String) → α → β} {names : (BuiltIn → String) → α → List String}
  (hf : ∀ v, Gathers supply (f v) (a · v) (names · v))
include hf

theorem traverseValuesOf_gathers (es : List (String × α)) :
    Gathers supply (Dict.traverseValuesOf f es)
      (fun generated => ⟨es.map fun e => (e.1, a generated e.2), by simp [Function.comp_def]⟩)
      fun generated => es.flatMap fun e => names generated e.2 := by
  induction es with
  | nil => exact .pure _
  | cons e rest ih =>
    refine ((hf e.2).bind fun _ => ih.bind fun _ => .pure _).congr (fun _ => rfl)
      fun generated => ?_
    rw [List.append_nil, List.flatMap_cons]

/-- The values of a dictionary are gone through in order. -/
theorem traverseValues_gathers (d : Dict α) :
    Gathers supply (d.traverseValues f) (fun generated => d.mapValues (a generated))
      fun generated => (TestCase.valuesOf d).flatMap (names generated) := by
  refine ((traverseValuesOf_gathers hf d.entries).bind fun _ => .pure _).congr (fun _ => rfl)
    fun generated => ?_
  rw [List.append_nil, TestCase.valuesOf, List.flatMap_map]

end Values

section Templates

variable {supply : Nat → BuiltIn → String}
    {f : String → StateT (List String) (StateT Generated Option) String}
    {a : (BuiltIn → String) → String → String} {names : (BuiltIn → String) → String → List String}
    (hf : ∀ text, Gathers supply (f text) (a · text) (names · text))
include hf

/-- A text that may be missing is gone through if it is there. -/
theorem traverseText_gathers (text : Option String) :
    Gathers supply (traverseText f text) (fun generated => text.map (a generated))
      fun generated => text.toList.flatMap (names generated) := by
  cases text with
  | none => exact .pure none
  | some s =>
    refine ((hf s).bind fun _ => .pure _).congr (fun _ => rfl) fun generated => ?_
    simp

/-- The strings of a document are gone through in order.  Induction on the document. -/
theorem traverseStrings_gathers (v : Json) :
    Gathers supply (v.traverseStrings f) (fun generated => v.mapStrings (a generated))
      fun generated => v.strings.flatMap (names generated) := by
  induction v with
  | null => exact .pure _
  | bool b => exact .pure _
  | number n => exact .pure _
  | string s =>
    refine ((hf s).bind fun _ => .pure _).congr (fun _ => rfl) fun generated => ?_
    simp [Json.strings]
  | array items ih =>
    have hitems : Gathers supply (Json.traverseItems f items)
        (fun generated => Json.mapStringsItems (a generated) items)
        fun generated => (Json.stringsOfItems items).flatMap (names generated) := by
      induction items with
      | nil => exact .pure _
      | cons v rest ihrest =>
        have hv := ih v List.mem_cons_self
        have hrest := ihrest fun w hw => ih w (List.mem_cons_of_mem v hw)
        refine (hv.bind fun _ => hrest.bind fun _ => .pure _).congr (fun _ => rfl)
          fun generated => ?_
        rw [List.append_nil, Json.stringsOfItems, List.flatMap_append]
    refine (hitems.bind fun _ => .pure _).congr (fun _ => rfl) fun generated => ?_
    rw [List.append_nil, Json.strings]
  | object members ih =>
    have hmembers : Gathers supply (Json.traverseMembers f members)
        (fun generated => Json.mapStringsMembers (a generated) members)
        fun generated => (Json.stringsOfMembers members).flatMap (names generated) := by
      induction members with
      | nil => exact .pure _
      | cons m rest ihrest =>
        have hm := ih m List.mem_cons_self
        have hrest := ihrest fun w hw => ih w (List.mem_cons_of_mem m hw)
        refine (hm.bind fun _ => hrest.bind fun _ => .pure _).congr (fun _ => rfl)
          fun generated => ?_
        rw [List.append_nil, Json.stringsOfMembers, List.flatMap_append]
    refine (hmembers.bind fun _ => .pure _).congr (fun _ => rfl) fun generated => ?_
    rw [List.append_nil, Json.strings]

/-- All templates of a test are gone through in order. -/
theorem traverseTemplates_gathers (t : TestCase) :
    Gathers supply (t.traverseTemplates f) (fun generated => t.mapTemplates (a generated))
      fun generated => t.templates.flatMap (names generated) := by
  have hmocks := traverseValues_gathers (traverseStrings_gathers hf) t.mocks
  have hall := (hf t.request.path).bind fun path =>
    (traverseValues_gathers hf t.request.query).bind fun query =>
    (traverseValues_gathers hf t.request.headers).bind fun headers =>
    (traverseText_gathers hf t.request.body).bind fun body =>
    (traverseText_gathers hf t.expect.body).bind fun expectedBody =>
    (traverseValues_gathers hf t.expect.headers).bind fun expectedHeaders =>
    hmocks.bind fun mocks =>
    Gathers.pure { t with
      request := { t.request with path := path, query := query, headers := headers, body := body }
      expect := { t.expect with body := expectedBody, headers := expectedHeaders }
      mocks := mocks }
  refine hall.congr (fun _ => rfl) fun generated => ?_
  simp only [TestCase.templates, List.flatMap_append, List.flatMap_assoc, List.append_assoc,
    List.append_nil, List.flatMap_cons, List.flatMap_nil]

end Templates

/-! ## Test cases -/

namespace Resolver

variable (r : Resolver)

/-- One template is filled in from the scopes, and the names without a value are gathered. -/
theorem fill_gathers (text : String) :
    Gathers r.supply (r.fill text) (fun generated => ((r.scopes generated).resolve text).text)
      fun generated => ((r.scopes generated).resolve text).unresolved :=
  fun gathered => (r.resolve_yields text).bind
    (b := fun done _ => (done.text, gathered ++ done.unresolved))
    fun _ => Resolving.yields_pure _

/-- A resolver makes of a test what filling in makes of it. -/
theorem resolveCase_yields (t : TestCase) :
    (r.resolveCase t).Yields r.supply fun generated => (r.scopes generated).resolveCase t := by
  have hfilled := traverseTemplates_gathers r.fill_gathers t []
  exact hfilled.bind (b := fun p _ => (p.1, sortedNames p.2)) fun _ => Resolving.yields_pure _

end Resolver

/-! ## The test that comes out -/

/-- A test comes from another one by a function that is applied to each of its templates: the path,
the values under the keys of dictionaries, the bodies, and the strings in the mocks.  All else is
the same. -/
structure TestCase.FilledBy (f : String → String) (t filled : TestCase) : Prop where
  path : filled.request.path = f t.request.path
  query : filled.request.query.entries = t.request.query.entries.map fun e => (e.1, f e.2)
  headers : filled.request.headers.entries = t.request.headers.entries.map fun e => (e.1, f e.2)
  body : filled.request.body = t.request.body.map f
  expectedBody : filled.expect.body = t.expect.body.map f
  expectedHeaders : filled.expect.headers.entries =
    t.expect.headers.entries.map fun e => (e.1, f e.2)
  mocks : List.Forall₂ (fun m m' => m'.1 = m.1 ∧ Json.Altered (Json.Rewritten f) False m.2 m'.2)
    t.mocks.entries filled.mocks.entries
  others : filled = { t with
    request := { t.request with
      path := filled.request.path
      query := filled.request.query
      headers := filled.request.headers
      body := filled.request.body }
    expect := { t.expect with
      body := filled.expect.body
      headers := filled.expect.headers }
    mocks := filled.mocks }

theorem TestCase.filledBy_mapTemplates (f : String → String) (t : TestCase) :
    t.FilledBy f (t.mapTemplates f) where
  path := rfl
  query := rfl
  headers := rfl
  body := rfl
  expectedBody := rfl
  expectedHeaders := rfl
  mocks := List.forall₂_map_right_iff.mpr
    (List.forall₂_same.mpr fun m _ => ⟨rfl, Json.altered_mapStrings f m.2⟩)
  others := rfl

/-! ## The names that are told -/

/-- Sorting keeps all names. -/
theorem mem_sortedNames {names : List String} {name : String} :
    name ∈ sortedNames names ↔ name ∈ names := by
  show name ∈ (Dict.empty.update (names.map fun n => (n, ()))).keys ↔ _
  rw [Dict.mem_keys_update, List.map_map]
  simp [Dict.empty, Dict.keys, Function.comp_def]

/-- The names increase. -/
theorem sorted_sortedNames (names : List String) : (sortedNames names).Pairwise (· < ·) :=
  List.pairwise_map.mpr (Dict.ofList _).sorted

namespace Scopes

/-- A name is told if it stands in the text and has no value. -/
theorem mem_unresolved {s : Scopes} {text name : String} :
    name ∈ (s.resolve text).unresolved ↔ name ∈ Template.names text ∧ s.lookup name = none := by
  show name ∈ List.filter _ _ ↔ _
  rw [List.mem_filter, Option.isNone_iff_eq_none]

/-- Filling in a test changes its templates and nothing else: each becomes what it becomes alone,
with the same values of the built-in variables for all.  The names that are told are in increasing
order, each once, and they are those that some template refers to and that have no value.

A resolver that goes through the templates one after the other, generating values on the way, always
gets to the end, and comes to the same test and the same names. -/
theorem templates_are_filled_in_place :
    (∀ (s : Scopes) (t : TestCase),
      let done := s.resolveCase t
      t.FilledBy (fun text => (s.resolve text).text) done.1 ∧
      done.2.Pairwise (· < ·) ∧
      ∀ name, name ∈ done.2 ↔
        ∃ text ∈ t.templates, name ∈ Template.names text ∧ s.lookup name = none) ∧
    ∀ (r : Resolver) (t : TestCase), ∃ generated : BuiltIn → String,
      (∀ b, ∃ k, generated b = r.supply k b) ∧
      (r.resolveCase t).run' Generated.nothing = some ((r.scopes generated).resolveCase t) := by
  refine ⟨fun s t => ?_, fun r t => (r.resolveCase_yields t).run'⟩
  intro done
  refine ⟨TestCase.filledBy_mapTemplates _ t, sorted_sortedNames _, fun name => ?_⟩
  show name ∈ sortedNames _ ↔ _
  rw [mem_sortedNames, List.mem_flatMap]
  exact exists_congr fun text => and_congr_right fun _ => mem_unresolved

end Scopes

end Assay
