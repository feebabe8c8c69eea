import Assay.Proofs.Json
import Assay.Template.Scopes
import Mathlib.Data.List.Basic

/-
  What filling in the templates of a test depends on.

  A template is cut into pieces before any value is known, and the values that are put in are not
  looked into.  So two sets of scopes that give the same values to the names that a text refers to
  give the same text.  This goes from a single text (`fill_congr`, `resolve_congr`) to the strings
  of a document (`mapStrings_congr`) and to all templates of a test (`mapTemplates_congr`), each
  time with the names that stand in the part in question.

  Two things follow, and both are part of the theorem.  What a test refers to can be told before
  anything is resolved (`TestCase.references`), and a value that looks like a placeholder is text:
  whatever it refers to, that is not read.

  1. Single texts.  The names that a text refers to are those of its references
     (`names_eq_map_references`, by induction on the pieces; where the first one starts does not
     matter for the names).

  2. Documents and tests.  Agreement on the names of a test is agreement on those of each of its
     templates (`agree_on_template`).

  3. Scopes.  A value under another name does not change what a name stands for, whichever scope it
     is put into (`value?_insert_of_ne`), so it can be put in or left out when the name does not
     occur.

  The example has a captured token that looks like a placeholder for a secret.
-/

namespace Assay

/-! ## Single texts -/

namespace Template

/-- The names that a text refers to are those of its references.  Induction on the pieces; where the
first one starts does not matter for the names. -/
theorem names_eq_map_references (s : String) : names s = (references s).map Reference.name := by
  unfold names references
  generalize 0 = start
  induction pieces s.toList generalizing start with
  | nil => rfl
  | cons p rest ih =>
    cases p with
    | text s => exact ih _
    | placeholder raw => exact congrArg (nameOf raw :: ·) (ih _)

/-- Filling in looks at the values of the names that the text refers to. -/
theorem fill_congr {v w : String → Option String} {s : String} (h : ∀ n ∈ names s, v n = w n) :
    fill v s = fill w s := by
  rw [fill, fill, fillPieces, fillPieces]
  refine congrArg String.ofList (List.flatMap_congr fun p hp => ?_)
  cases p with
  | text s => rfl
  | placeholder raw =>
    have hname : nameOf raw ∈ names s := List.mem_filterMap.mpr ⟨_, hp, rfl⟩
    dsimp only
    rw [h _ hname]

end Template

namespace Scopes

theorem isNone_lookup (s : Scopes) (n : String) : (s.lookup n).isNone = (s.value? n).isNone := by
  rw [value?, Option.isNone_map]

/-- Two scopes that agree on the names of a text make the same of it. -/
theorem resolve_congr {a b : Scopes} {text : String}
    (h : ∀ n ∈ Template.names text, a.value? n = b.value? n) :
    (a.resolve text).text = (b.resolve text).text ∧
    (a.resolve text).unresolved = (b.resolve text).unresolved := by
  refine ⟨Template.fill_congr h, List.filter_congr fun n hn => ?_⟩
  rw [isNone_lookup, isNone_lookup, h n hn]

end Scopes

/-! ## Documents -/

namespace Json

theorem mapStringsItems_eq_map (f : String → String) (items : List Json) :
    mapStringsItems f items = items.map (mapStrings f) := by
  induction items with
  | nil => rfl
  | cons v rest ih => rw [mapStringsItems, ih, List.map_cons]

theorem mapStringsMembers_eq_map (f : String → String) (members : List (String × Json)) :
    mapStringsMembers f members = members.map fun m => (m.1, mapStrings f m.2) := by
  induction members with
  | nil => rfl
  | cons m rest ih => rw [mapStringsMembers, ih, List.map_cons]

theorem stringsOfItems_eq_flatMap (items : List Json) :
    stringsOfItems items = items.flatMap strings := by
  induction items with
  | nil => rfl
  | cons v rest ih => rw [stringsOfItems, ih, List.flatMap_cons]

theorem stringsOfMembers_eq_flatMap (members : List (String × Json)) :
    stringsOfMembers members = members.flatMap fun m => strings m.2 := by
  induction members with
  | nil => rfl
  | cons m rest ih => rw [stringsOfMembers, ih, List.flatMap_cons]

/-- Two functions that agree on the strings of a document change it in the same way. -/
theorem mapStrings_congr {f g : String → String} {v : Json} (h : ∀ s ∈ v.strings, f s = g s) :
    v.mapStrings f = v.mapStrings g := by
  induction v with
  | null => rfl
  | bool b => rfl
  | number n => rfl
  | string s => exact congrArg Json.string (h s (List.mem_singleton_self s))
  | array items ih =>
    rw [mapStrings, mapStrings, mapStringsItems_eq_map, mapStringsItems_eq_map]
    refine congrArg Json.array (List.map_congr_left fun v hv => ih v hv fun s hs => h s ?_)
    rw [strings, stringsOfItems_eq_flatMap]
    exact List.mem_flatMap_of_mem hv hs
  | object members ih =>
    rw [mapStrings, mapStrings, mapStringsMembers_eq_map, mapStringsMembers_eq_map]
    refine congrArg Json.object (List.map_congr_left fun m hm =>
      congrArg (Prod.mk m.1) (ih m hm fun s hs => h s ?_))
    rw [strings, stringsOfMembers_eq_flatMap]
    exact List.mem_flatMap_of_mem hm hs

end Json

/-! ## Test cases -/

namespace TestCase

/-- The placeholders of a test: those of all its templates. -/
def references (t : TestCase) : List Template.Reference := t.templates.flatMap Template.references

theorem mem_valuesOf {α : Type} {d : Dict α} {e : String × α} (h : e ∈ d.entries) :
    e.2 ∈ valuesOf d :=
  List.mem_map_of_mem h

/-- Two functions that agree on the templates of a test change it in the same way. -/
theorem mapTemplates_congr {f g : String → String} {t : TestCase}
    (h : ∀ s ∈ t.templates, f s = g s) :
    t.mapTemplates f = t.mapTemplates g := by
  simp only [templates, List.mem_append, or_imp, forall_and] at h
  obtain ⟨⟨⟨⟨⟨⟨hpath, hquery⟩, hheaders⟩, hbody⟩, hexpected⟩, hexpectedHeaders⟩, hmocks⟩ := h
  have hvalues : ∀ d : Dict String, (∀ s ∈ valuesOf d, f s = g s) → d.mapValues f = d.mapValues g :=
    fun d hd => Dict.mapValues_congr fun e he => hd e.2 (mem_valuesOf he)
  have hoption : ∀ o : Option String, (∀ s ∈ o.toList, f s = g s) → o.map f = o.map g := by
    intro o ho
    cases o with
    | none => rfl
    | some s => exact congrArg some (ho s (List.mem_singleton_self s))
  have hdocuments : t.mocks.mapValues (Json.mapStrings f) = t.mocks.mapValues (Json.mapStrings g) :=
    Dict.mapValues_congr fun e he => Json.mapStrings_congr fun s hs =>
      hmocks s (List.mem_flatMap_of_mem (mem_valuesOf he) hs)
  rw [mapTemplates, mapTemplates, hpath _ (List.mem_singleton_self _), hvalues _ hquery,
    hvalues _ hheaders, hoption _ hbody, hoption _ hexpected, hvalues _ hexpectedHeaders,
    hdocuments]

end TestCase

namespace Scopes

/-- The names of a template are among those of the test. -/
theorem agree_on_template {a b : Scopes} {t : TestCase}
    (h : ∀ r ∈ t.references, a.value? r.name = b.value? r.name) {text : String}
    (htext : text ∈ t.templates) : ∀ n ∈ Template.names text, a.value? n = b.value? n := by
  intro n hn
  rw [Template.names_eq_map_references] at hn
  obtain ⟨r, hr, rfl⟩ := List.mem_map.mp hn
  exact h r (List.mem_flatMap_of_mem htext hr)

/-- A test with its templates filled in depends on the values of the names that its templates refer
to. -/
theorem resolveCase_congr {a b : Scopes} {t : TestCase}
    (h : ∀ r ∈ t.references, a.value? r.name = b.value? r.name) :
    a.resolveCase t = b.resolveCase t := by
  have htext : ∀ text ∈ t.templates, (a.resolve text).text = (b.resolve text).text :=
    fun text hmem => (resolve_congr (agree_on_template h hmem)).1
  have hunresolved : ∀ text ∈ t.templates, (a.resolve text).unresolved =
    (b.resolve text).unresolved :=
    fun text hmem => (resolve_congr (agree_on_template h hmem)).2
  rw [resolveCase, resolveCase, TestCase.mapTemplates_congr htext, List.flatMap_congr hunresolved]

/-- A value under another name does not change what a name stands for, whichever scope it is put
into. -/
theorem value?_insert_of_ne {s : Scopes} {name n : String} (value : String) (h : n ≠ name) :
    ({ s with test := s.test.insert name value } : Scopes).value? n = s.value? n ∧
    ({ s with captured := s.captured.insert name value } : Scopes).value? n = s.value? n ∧
    ({ s with run := s.run.insert name value } : Scopes).value? n = s.value? n := by
  simp only [value?, lookup, userValue, Dict.get?_insert, if_neg h, and_self]

/-- What filling in the templates of a test reads: the values of the names that these templates
refer to, and nothing else.  If two scopes give the same values to these names, they make the same
test of it and report the same names; so a name that no template refers to may get any value, in any
scope, and nothing changes, even if that name stands in the values that are filled in. -/
theorem resolution_reads_references_only (t : TestCase) :
    (∀ a b : Scopes, (∀ r ∈ t.references, a.value? r.name = b.value? r.name) →
      a.resolveCase t = b.resolveCase t) ∧
    ∀ (s : Scopes) (name value : String), (∀ r ∈ t.references, r.name ≠ name) →
      ({ s with test := s.test.insert name value } : Scopes).resolveCase t = s.resolveCase t ∧
      ({ s with captured := s.captured.insert name value } : Scopes).resolveCase t =
        s.resolveCase t ∧
      ({ s with run := s.run.insert name value } : Scopes).resolveCase t = s.resolveCase t := by
  refine ⟨fun a b h => resolveCase_congr h, fun s name value h => ?_⟩
  have hsame := fun r hr => value?_insert_of_ne (s := s) value (h r hr)
  exact ⟨resolveCase_congr fun r hr => (hsame r hr).1,
    resolveCase_congr fun r hr => (hsame r hr).2.1,
    resolveCase_congr fun r hr => (hsame r hr).2.2⟩

/-- A test that refers to a token. -/
def tokenTest : TestCase := .ofRequest default "read" (.get "/u/\x7b\x7btoken\x7d\x7d")

/-- Scopes in which the token has been captured and looks like a placeholder for a secret. -/
def tokenScopes (secret : String) : Scopes where
  test := .empty
  captured := Dict.empty.insert "token" "\x7b\x7bsecret\x7d\x7d"
  run := Dict.empty.insert "secret" secret
  generated := fun _ => ""

/-- The token is put into the path as it is, and the secret is not read. -/
theorem captured_placeholder_is_text :
    (∀ r ∈ tokenTest.references, (tokenScopes "a").value? r.name =
      (tokenScopes "b").value? r.name) ∧
    (tokenScopes "a").resolveCase tokenTest = (tokenScopes "b").resolveCase tokenTest ∧
    ((tokenScopes "a").resolveCase tokenTest).1.request.path = "/u/\x7b\x7bsecret\x7d\x7d" := by
  have hagree : ∀ r ∈ tokenTest.references,
      (tokenScopes "a").value? r.name = (tokenScopes "b").value? r.name := by decide +kernel
  exact ⟨hagree, (resolution_reads_references_only tokenTest).1 _ _ hagree, by decide +kernel⟩

end Scopes

end Assay
