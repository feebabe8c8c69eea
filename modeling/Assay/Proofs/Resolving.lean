import Assay.Proofs.Templates
import Assay.Template.Resolver

/-
  A resolver does in steps what filling in does at once.

  A resolver generates values while it works, so what it answers depends on what it has generated
  before; and it works on bytes, with cuts that fail inside a character.  Filling in a text, as
  `Scopes.resolve` does it, knows all values from the start and works on pieces.  Here the two are
  proved to agree, for any text and any resolver, so that all other properties can be proved of the
  second one.

  The idea is to tell the answers from the end.  Nothing that has been generated is ever dropped
  (`Grows`), so if `generated` agrees with everything that a resolver has generated in the end
  (`Agrees`), then it has agreed at every step before, and every answer is the one with these
  values.  `Resolving.Yields` says of a step that it comes to an end, keeps what has been generated,
  and answers in this way; it goes through two steps one after the other (`Yields.bind`) and over
  lists (`yields_mapM`).  `Yields.run'` is the answer of a whole life: there are supplied values
  with which it is known from the start.

  1. Looking up names.  The variables of the test come first, then the captured ones, then those of
     the run (`userValue_eq`), and built-in variables last; a name that has been generated keeps its
     value (`builtIn_yields`).

  2. Texts.  `Substituted` says by offsets what a text with the placeholders of some references
     filled in is, and `substituted_fillPieces` that filling in the pieces gives just this.  `Ahead`
     is the invariant that ties pieces to offsets.

  3. Scanning.  The scanner finds the references of the pieces, and every cut on the way is at a
     boundary (`scan_append`, `scan_eq_references`), by induction on the pieces of what is left.

  4. Resolving a text.  `substitute_yields` is the induction on the pieces that are still ahead, in
     which a reference is cut out, looked up and replaced (`substitute_cons_yields`).  The result is
     `resolve_yields`.
-/

namespace Assay

/-! ## What has been generated -/

namespace BuiltIn

/-- Every built-in variable is found under its name. -/
theorem ofName?_name (b : BuiltIn) : ofName? b.name = some b := by
  cases b <;> rfl

theorem name_of_ofName? {name : String} {b : BuiltIn} (h : ofName? name = some b) :
    b.name = name := by
  rw [ofName?] at h
  have hname : (b.name == name) = true := List.find?_some (p := fun b : BuiltIn => b.name == name) h
  exact eq_of_beq hname

end BuiltIn

namespace Generated

/-- Everything that has been generated is still there. -/
def Grows (g g' : Generated) : Prop :=
  ∀ name value, g.values.get? name = some value → g'.values.get? name = some value

/-- The values are those of the built-in variables that the names belong to. -/
def Agrees (g : Generated) (generated : BuiltIn → String) : Prop :=
  ∀ name value, g.values.get? name = some value →
    ∃ b, BuiltIn.ofName? name = some b ∧ value = generated b

/-- The values have been supplied for the built-in variables that the names belong to. -/
def Supplied (supply : Nat → BuiltIn → String) (g : Generated) : Prop :=
  ∀ name value, g.values.get? name = some value →
    ∃ b k, BuiltIn.ofName? name = some b ∧ value = supply k b

variable {g g' g'' : Generated}

theorem Grows.refl (g : Generated) : g.Grows g := fun _ _ h => h

theorem Grows.trans (h : g.Grows g') (h' : g'.Grows g'') : g.Grows g'' :=
  fun name value hg => h' name value (h name value hg)

theorem Agrees.of_grows {generated : BuiltIn → String} (h : g'.Agrees generated) (hg : g.Grows g') :
    g.Agrees generated := fun name value hv => h name value (hg name value hv)

theorem supplied_nothing (supply : Nat → BuiltIn → String) : nothing.Supplied supply :=
  fun _ _ h => nomatch h

/-- Supplied values can be taken for those of all built-in variables; for the others anything
supplied will do. -/
theorem Supplied.exists_agrees {supply : Nat → BuiltIn → String} (h : g.Supplied supply) :
    ∃ generated : BuiltIn → String, (∀ b, ∃ k, generated b = supply k b) ∧ g.Agrees generated := by
  refine ⟨fun b => (g.values.get? b.name).getD (supply 0 b), fun b => ?_, fun name value hv => ?_⟩
  · show ∃ k, (g.values.get? b.name).getD (supply 0 b) = supply k b
    cases hv : g.values.get? b.name with
    | none => exact ⟨0, rfl⟩
    | some value =>
      obtain ⟨b', k, hb', rfl⟩ := h b.name value hv
      rw [BuiltIn.ofName?_name] at hb'
      cases hb'
      exact ⟨k, rfl⟩
  · obtain ⟨b, k, hb, -⟩ := h name value hv
    refine ⟨b, hb, ?_⟩
    show value = (g.values.get? b.name).getD (supply 0 b)
    rw [BuiltIn.name_of_ofName? hb, hv]
    rfl

end Generated

/-! ## Steps -/

/-- A step always comes to an end, keeps what has been generated, and adds what is supplied.  With
values that agree with everything that has been generated in the end, the answer is known from the
start. -/
def Resolving.Yields {α : Type} (supply : Nat → BuiltIn → String) (x : Resolving α)
    (answer : (BuiltIn → String) → α) : Prop :=
  ∀ g : Generated, ∃ a g', x g = some (a, g') ∧ g.Grows g' ∧
  (g.Supplied supply → g'.Supplied supply) ∧
    ∀ generated, g'.Agrees generated → a = answer generated

namespace Resolving

variable {supply : Nat → BuiltIn → String} {α β : Type}

theorem yields_pure (a : α) : Yields supply (pure a : Resolving α) fun _ => a :=
  fun g => ⟨a, g, rfl, .refl g, id, fun _ _ => rfl⟩

/-- A step and another one behind it.  What agrees in the end has agreed in between. -/
theorem Yields.bind {x : Resolving α} {k : α → Resolving β} {a : (BuiltIn → String) → α}
    {b : α → (BuiltIn → String) → β} (hx : Yields supply x a)
    (hk : ∀ v, Yields supply (k v) (b v)) :
    Yields supply (x >>= k) fun generated => b (a generated) generated := by
  intro g
  obtain ⟨v, g₁, hv, hgrows, hsupplied, hanswer⟩ := hx g
  obtain ⟨w, g₂, hw, hgrows', hsupplied', hanswer'⟩ := hk v g₁
  refine ⟨w, g₂, ?_, hgrows.trans hgrows', fun h => hsupplied' (hsupplied h), fun generated h => ?_⟩
  · show (x g).bind (fun p => k p.1 p.2) = some (w, g₂)
    rw [hv]
    exact hw
  · rw [hanswer' generated h, hanswer generated (h.of_grows hgrows')]

/-- A cut that gives something. -/
theorem yields_cut {part : Option α} {a : α} (h : part = some a) :
    Yields supply (Resolver.cut part) fun _ => a :=
  fun g => ⟨a, g, by rw [Resolver.cut, h]; rfl, .refl g, id, fun _ _ => rfl⟩

theorem Yields.congr {x : Resolving α} {a b : (BuiltIn → String) → α} (h : Yields supply x a)
    (hab : ∀ generated, a generated = b generated) : Yields supply x b :=
  funext hab ▸ h

/-- Steps for all items of a list, in order. -/
theorem yields_mapM {f : α → Resolving β} {a : α → (BuiltIn → String) → β}
    (h : ∀ v, Yields supply (f v) (a v)) (vs : List α) :
    Yields supply (vs.mapM f) fun generated => vs.map (a · generated) := by
  induction vs with
  | nil => exact yields_pure []
  | cons v rest ih =>
    rw [List.mapM_cons]
    exact (h v).bind fun _ => ih.bind fun _ => yields_pure _

/-- The answer of a whole life: there are supplied values with which it is known from the start. -/
theorem Yields.run' {x : Resolving α} {a : (BuiltIn → String) → α} (h : Yields supply x a) :
    ∃ generated : BuiltIn → String, (∀ b, ∃ k, generated b = supply k b) ∧
      x.run' Generated.nothing = some (a generated) := by
  obtain ⟨v, g, hx, -, hsupplied, hanswer⟩ := h Generated.nothing
  obtain ⟨generated, hfrom, hagrees⟩ :=
    (hsupplied (Generated.supplied_nothing supply)).exists_agrees
  refine ⟨generated, hfrom, ?_⟩
  rw [← hanswer generated hagrees]
  show (x Generated.nothing).map Prod.fst = some v
  rw [hx]
  rfl

end Resolving

/-! ## Looking up names -/

namespace Scopes

/-- The variables of the test come first, then the captured ones, then those of the run. -/
theorem userValue_eq (s : Scopes) (name : String) :
    s.userValue name = ((s.test.get? name).map (·, Scope.test)).or
      (((s.captured.get? name).map (·, Scope.captured)).or
        ((s.run.get? name).map (·, Scope.run))) := by
  rw [userValue]
  cases s.test.get? name with
  | some v => rfl
  | none =>
    cases s.captured.get? name with
    | some v => rfl
    | none => rfl

end Scopes

namespace Resolver

/-- The variables of a resolver with values for the built-in ones. -/
def scopes (r : Resolver) (generated : BuiltIn → String) : Scopes :=
  ⟨r.test, r.captured, r.run, generated⟩

variable (r : Resolver)

/-- A name that has been generated keeps its value, any other gets the one that is supplied next. -/
theorem builtIn_yields (name : String) :
    (r.builtIn name).Yields r.supply fun generated => (BuiltIn.ofName? name).map generated := by
  intro g
  rw [builtIn]
  cases hcached : g.values.get? name with
  | some value =>
    refine ⟨some value, g, rfl, .refl g, id, fun generated h => ?_⟩
    obtain ⟨b, hb, rfl⟩ := h name value hcached
    rw [hb]
    rfl
  | none =>
    cases hb : BuiltIn.ofName? name with
    | none => exact ⟨none, g, rfl, .refl g, id, fun _ _ => rfl⟩
    | some b =>
      have hnew : ∀ n, (g.values.insert name (r.supply g.count b)).get? n =
          if n = name then some (r.supply g.count b) else g.values.get? n :=
        g.values.get?_insert _ _
      refine ⟨some (r.supply g.count b), ⟨g.values.insert name (r.supply g.count b), g.count + 1⟩,
        rfl, fun n value hn => ?_, fun h n value hn => ?_, fun generated h => ?_⟩
      · -- What has been generated before is under another name.
        have hne : n ≠ name := by
          rintro rfl
          rw [hcached] at hn
          cases hn
        rw [hnew, if_neg hne, hn]
      · rw [hnew] at hn
        split at hn
        case isTrue heq =>
          cases hn
          exact ⟨b, g.count, heq ▸ hb, rfl⟩
        case isFalse => exact h n value hn
      · obtain ⟨b', hb', hvalue⟩ := h name (r.supply g.count b) (by rw [hnew, if_pos rfl])
        rw [hb] at hb'
        cases hb'
        exact congrArg some hvalue

theorem lookup_yields (name : String) :
    (r.lookup name).Yields r.supply fun generated => (r.scopes generated).lookup name := by
  by_cases h : Template.isBuiltInName name = true
  · simp only [lookup, if_pos h]
    refine ((r.builtIn_yields name).bind fun _ => Resolving.yields_pure _).congr fun generated => ?_
    rw [Scopes.lookup, if_pos h, Option.map_map]
    rfl
  · simp only [lookup, if_neg h]
    refine (Resolving.yields_pure _).congr fun generated => ?_
    rw [Scopes.lookup, if_neg h, Scopes.userValue_eq]
    rfl

end Resolver

/-! ## Texts -/

namespace Template

/-- A text from an offset on, with the placeholders of some references filled in: what stands before
the next placeholder stays, the placeholder is replaced by the value of its name, or stays if there
is none, and so on behind it. -/
inductive Substituted (s : List Char) (value : String → Option String) :
    Nat → List Reference → List Char → Prop where
  | rest {last : Nat} {tail : List Char} :
      Text.Stands tail s last (Text.byteLength s) → Substituted s value last [] tail
  | placeholder {last : Nat} {ref : Reference} {refs : List Reference}
      {before raw out : List Char} :
      Text.Stands before s last ref.start →
      Text.Stands (opening ++ raw ++ closing) s ref.start ref.stop → ref.name = nameOf raw →
      Substituted s value ref.stop refs out →
      Substituted s value last (ref :: refs)
        (before ++ ((value ref.name).map String.toList).getD (opening ++ raw ++ closing) ++ out)

/-- What is left of a placeholder. -/
theorem fillPieces_placeholder (value : String → Option String) (raw : List Char)
    (ps : List Piece) :
    fillPieces value (.placeholder raw :: ps) =
      ((value (nameOf raw)).map String.toList).getD (opening ++ raw ++ closing) ++
        fillPieces value ps := by
  simp only [fillPieces, List.flatMap_cons]
  cases value (nameOf raw) <;> rfl

theorem fillPieces_text (value : String → Option String) (t : List Char) (ps : List Piece) :
    fillPieces value (.text t :: ps) = t ++ fillPieces value ps := rfl

/-- Where the pieces of a text stand. The text before them has been passed up to the offset `last`,
and what follows this offset is still to be copied. -/
structure Ahead (s : List Char) (last start : Nat) (pending : List Char) (ps : List Piece) :
    Prop where
  last_le : last + Text.byteLength pending = start
  text : ∃ before, s = before ++ pending ++ ps.flatMap Piece.source ∧ Text.byteLength before = last

variable {s pending raw : List Char} {last start : Nat} {ps : List Piece}

theorem ahead_pieces (s : List Char) : Ahead s 0 0 [] (pieces s) :=
  ⟨rfl, [], by rw [flatMap_source_pieces]; rfl, rfl⟩

theorem Ahead.tail (h : Ahead s last start pending []) :
    Text.Stands pending s last (Text.byteLength s) := by
  obtain ⟨before, rfl, rfl⟩ := h.text
  refine ⟨before, [], rfl, rfl, ?_⟩
  rw [List.flatMap_nil, List.append_nil, Text.byteLength_append]

/-- A piece of text is to be copied along. -/
theorem Ahead.pass {t : List Char} (h : Ahead s last start pending (.text t :: ps)) :
    Ahead s last (start + Text.byteLength t) (pending ++ t) ps := by
  obtain ⟨before, rfl, hbefore⟩ := h.text
  refine ⟨?_, before, ?_, hbefore⟩
  · rw [Text.byteLength_append, ← h.last_le, Nat.add_assoc]
  · simp [Piece.source]

/-- What stands before a placeholder. -/
theorem Ahead.before (h : Ahead s last start pending ps) : Text.Stands pending s last start := by
  obtain ⟨before, rfl, rfl⟩ := h.text
  exact ⟨before, _, rfl, rfl, h.last_le⟩

section Placeholder

variable (h : Ahead s last start pending (.placeholder raw :: ps))
include h

/-- What stands in the place of a placeholder. -/
theorem Ahead.own : Text.Stands (opening ++ raw ++ closing) s start
    (start + Text.byteLength (opening ++ raw ++ closing)) := by
  obtain ⟨before, rfl, rfl⟩ := h.text
  refine ⟨before ++ pending, ps.flatMap Piece.source, ?_, ?_, rfl⟩
  · rw [List.flatMap_cons, ← List.append_assoc]
    rfl
  · rw [Text.byteLength_append, h.last_le]

/-- Nothing is to be copied right behind a placeholder. -/
theorem Ahead.behind : Ahead s (start + Text.byteLength (opening ++ raw ++ closing))
    (start + Text.byteLength (opening ++ raw ++ closing)) [] ps := by
  obtain ⟨before, hs', hbefore⟩ := h.text
  refine ⟨rfl, before ++ pending ++ (opening ++ raw ++ closing), ?_, ?_⟩
  · rw [hs', List.flatMap_cons, List.append_nil, ← List.append_assoc]
    rfl
  · rw [Text.byteLength_append, Text.byteLength_append, hbefore, h.last_le]

end Placeholder

/-- Filling in pieces replaces the placeholders of their references, and nothing else.  Induction on
the pieces. -/
theorem substituted_fillPieces (value : String → Option String)
    (h : Ahead s last start pending ps) :
    Substituted s value last (referencesFrom start ps) (pending ++ fillPieces value ps) := by
  induction ps generalizing last start pending with
  | nil =>
    rw [fillPieces, List.flatMap_nil, List.append_nil]
    exact .rest h.tail
  | cons p ps ih =>
    cases p with
    | text t =>
      rw [fillPieces_text, ← List.append_assoc]
      exact ih h.pass
    | placeholder raw =>
      rw [fillPieces_placeholder, ← List.append_assoc]
      exact .placeholder h.before h.own rfl (ih h.behind)

/-! ## Scanning -/

/-- There is no name exactly between braces that hold nothing but blanks. -/
theorem isEmpty_nameOf (raw : List Char) : (nameOf raw).isEmpty = raw.all Text.isBlank := by
  rw [Bool.eq_iff_iff, ← Text.trimBoth_eq_nil_iff, nameOf, String.isEmpty_iff,
    ← String.toList_eq_nil_iff, String.toList_ofList]

/-- The scanner has got behind some text, and goes on with the rest. -/
theorem scan_of_rest {s rest : List Char} {start : Nat} (h : Text.from? s start = some rest) :
    scan s start = match Text.find? opening rest with
      | none => some []
      | some skipped =>
        (Text.from? s (start + skipped + 2)).bind fun body =>
          match Text.find? closing body with
          | none => some []
          | some length =>
            (Text.slice? s (start + skipped + 2) (start + skipped + 2 + length)).bind fun raw =>
              (scan s (start + skipped + 2 + length + 2)).map fun later =>
                if (nameOf raw).isEmpty then later
                else ⟨nameOf raw, start + skipped, start + skipped + 2 + length + 2⟩ :: later := by
  rw [scan]
  split
  next hrest => rw [h] at hrest; cases hrest
  next rest' hrest =>
    rw [h] at hrest
    cases hrest
    split
    next hfind => rw [hfind]
    next skipped hfind =>
      rw [hfind]
      dsimp only
      cases Text.from? s (start + skipped + 2) <;> rfl

theorem find?_of_splitFirst {pattern s before after : List Char}
    (h : Text.splitFirst pattern s = some (before, after)) :
    Text.find? pattern s = some (Text.byteLength before) := by
  rw [Text.find?, h]
  rfl

theorem byteLength_opening : Text.byteLength opening = 2 := by decide

theorem byteLength_closing : Text.byteLength closing = 2 := by decide

/-- Where the inside of a placeholder starts. -/
theorem byteLength_opened (front before : List Char) :
    Text.byteLength (front ++ before ++ opening) =
    Text.byteLength front + Text.byteLength before + 2 := by
  rw [Text.byteLength_append, Text.byteLength_append, byteLength_opening]

/-- Braces that hold nothing but blanks are no reference, all others are. -/
theorem referencesFrom_ofRaw (start : Nat) (raw : List Char) (ps : List Piece) :
    referencesFrom start (Piece.ofRaw raw :: ps) =
      if (nameOf raw).isEmpty then referencesFrom (start + 2 + Text.byteLength raw + 2) ps
      else ⟨nameOf raw, start, start + 2 + Text.byteLength raw + 2⟩ ::
        referencesFrom (start + 2 + Text.byteLength raw + 2) ps := by
  have hstop : start + Text.byteLength (opening ++ raw ++ closing) =
      start + 2 + Text.byteLength raw + 2 := by
    rw [Text.byteLength_append, Text.byteLength_append, byteLength_opening, byteLength_closing]
    omega
  rw [isEmpty_nameOf, Piece.ofRaw]
  split
  · rw [referencesFrom, Piece.source, hstop]
  · rw [referencesFrom, Piece.source, hstop]

/-- The scanner finds the references of the pieces.  Induction on the pieces of what is left. -/
theorem scan_append (front rest : List Char) :
    scan (front ++ rest) (Text.byteLength front) =
      some (referencesFrom (Text.byteLength front) (pieces rest)) := by
  fun_induction pieces rest generalizing front with
  | case1 rest h =>
    have hfind : Text.find? opening rest = none := by rw [Text.find?, h]; rfl
    rw [scan_of_rest (Text.from?_eq_some_iff.mpr ⟨front, rfl, rfl⟩), hfind]
    rfl
  | case2 rest before inner h h' =>
    obtain rfl := Text.eq_of_splitFirst h
    have hinner : Text.from? (front ++ (before ++ opening ++ inner))
        (Text.byteLength front + Text.byteLength before + 2) = some inner :=
      Text.from?_eq_some_iff.mpr ⟨front ++ before ++ opening, by simp,
        byteLength_opened front before⟩
    have hfind : Text.find? closing inner = none := by rw [Text.find?, h']; rfl
    rw [scan_of_rest (Text.from?_eq_some_iff.mpr ⟨front, rfl, rfl⟩), find?_of_splitFirst h]
    dsimp only
    rw [hinner, Option.bind_some, hfind]
    rfl
  | case3 rest before inner h raw after h' ih =>
    obtain rfl := Text.eq_of_splitFirst h
    obtain rfl := Text.eq_of_splitFirst h'
    have hinner : Text.from? (front ++ (before ++ opening ++ (raw ++ closing ++ after)))
        (Text.byteLength front + Text.byteLength before + 2) = some (raw ++ closing ++ after) :=
      Text.from?_eq_some_iff.mpr ⟨front ++ before ++ opening, by simp,
        byteLength_opened front before⟩
    have hraw : Text.slice? (front ++ (before ++ opening ++ (raw ++ closing ++ after)))
        (Text.byteLength front + Text.byteLength before + 2)
        (Text.byteLength front + Text.byteLength before + 2 + Text.byteLength raw) = some raw :=
      Text.slice?_eq_some_iff.mpr
        ⟨front ++ before ++ opening, closing ++ after, by simp, byteLength_opened front before, rfl⟩
    -- The scanner goes on behind the closing braces.
    have hlater : scan (front ++ (before ++ opening ++ (raw ++ closing ++ after)))
        (Text.byteLength front + Text.byteLength before + 2 + Text.byteLength raw + 2) =
        some (referencesFrom
          (Text.byteLength front + Text.byteLength before + 2 + Text.byteLength raw + 2)
            (pieces after)) := by
      have hbehind := ih (front ++ before ++ opening ++ raw ++ closing)
      rw [Text.byteLength_append _ closing, Text.byteLength_append _ raw, byteLength_opened,
        byteLength_closing] at hbehind
      rw [← hbehind]
      simp
    rw [scan_of_rest (Text.from?_eq_some_iff.mpr ⟨front, rfl, rfl⟩), find?_of_splitFirst h]
    dsimp only
    rw [hinner, Option.bind_some, find?_of_splitFirst h']
    dsimp only
    rw [hraw, Option.bind_some, hlater, Option.map_some, referencesFrom]
    exact congrArg some (referencesFrom_ofRaw _ raw (pieces after)).symm

/-- The references of a text are found, and every cut on the way is at a boundary. -/
theorem scan_eq_references (text : String) : scan text.toList 0 = some (references text) :=
  scan_append [] text.toList

/-- A text without references stays as it is. -/
theorem fillPieces_of_no_references (value : String → Option String) {start : Nat} {ps : List Piece}
    (h : referencesFrom start ps = []) : fillPieces value ps = ps.flatMap Piece.source := by
  induction ps generalizing start with
  | nil => rfl
  | cons p ps ih =>
    cases p with
    | text t => rw [fillPieces_text, ih h]; rfl
    | placeholder raw => cases h

end Template

/-! ## Resolving a text -/

namespace Scopes

/-- The references that have a value, with their values. -/
def found (s : Scopes) (refs : List Template.Reference) : List ResolvedVariable :=
  refs.filterMap fun ref => (s.lookup ref.name).map fun v => ⟨ref.name, v.1, v.2⟩

/-- The names of the references that have no value. -/
def lacking (s : Scopes) (refs : List Template.Reference) : List String :=
  (refs.filter fun ref => (s.lookup ref.name).isNone).map Template.Reference.name

/-- A resolution by the pieces of the text and its references. -/
theorem resolve_eq (s : Scopes) (text : String) :
    s.resolve text = ⟨String.ofList (Template.fillPieces s.value? (Template.pieces text.toList)),
      s.found (Template.references text), s.lacking (Template.references text)⟩ := by
  rw [resolve, Template.fill, Template.names_eq_map_references, found, lacking, List.filterMap_map,
    List.filter_map]
  rfl

end Scopes

namespace Resolver

variable (r : Resolver)

/-- A resolution goes on with a reference: what has been copied before it, and what its name stands
for. -/
def goOn (before own : List Char) (name : String) (value : Option (String × Scope))
    (done : Resolution) :
    Resolution :=
  match value with
  | some (value, scope) =>
    ⟨String.ofList before ++ value ++ done.text, ⟨name, value, scope⟩ :: done.resolved,
      done.unresolved⟩
  | none =>
    ⟨String.ofList before ++ String.ofList own ++ done.text, done.resolved, name :: done.unresolved⟩

/-- One reference and those behind it. -/
theorem substitute_cons_yields {s before own : List Char} {last : Nat} {ref : Template.Reference}
    {rest : List Template.Reference} {done : (BuiltIn → String) → Resolution}
    (hbefore : Text.Stands before s last ref.start) (hown : Text.Stands own s ref.start ref.stop)
    (hrest : (r.substitute s ref.stop rest).Yields r.supply done) :
    (r.substitute s last (ref :: rest)).Yields r.supply fun generated =>
      goOn before own ref.name ((r.scopes generated).lookup ref.name) (done generated) := by
  rw [substitute]
  refine (Resolving.yields_cut (Text.slice?_eq_some_iff.mpr hbefore)).bind
    (b := fun before' generated =>
      goOn before' own ref.name ((r.scopes generated).lookup ref.name) (done generated))
        fun before' => ?_
  refine (r.lookup_yields ref.name).bind
    (b := fun value generated => goOn before' own ref.name value (done generated)) fun value => ?_
  cases value with
  | some found => exact hrest.bind fun _ => Resolving.yields_pure _
  | none =>
    exact (Resolving.yields_cut (Text.slice?_eq_some_iff.mpr hown)).bind fun _ =>
      hrest.bind fun _ => Resolving.yields_pure _

/-- What a resolver makes of the pieces that are still ahead.  Induction on the pieces. -/
theorem substitute_yields {s pending : List Char} {last start : Nat} {ps : List Template.Piece}
    (h : Template.Ahead s last start pending ps) :
    (r.substitute s last (Template.referencesFrom start ps)).Yields r.supply fun generated =>
      ⟨String.ofList (pending ++ Template.fillPieces (r.scopes generated).value? ps),
        (r.scopes generated).found (Template.referencesFrom start ps),
        (r.scopes generated).lacking (Template.referencesFrom start ps)⟩ := by
  induction ps generalizing last start pending with
  | nil =>
    have hcut := Text.slice?_eq_some_iff.mpr h.tail
    refine ((Resolving.yields_cut hcut).bind fun _ => Resolving.yields_pure _).congr
      fun generated => ?_
    rw [Template.fillPieces, List.flatMap_nil, List.append_nil]
    rfl
  | cons p ps ih =>
    cases p with
    | text t =>
      refine (ih h.pass).congr fun generated => ?_
      rw [Template.fillPieces_text, ← List.append_assoc]
      rfl
    | placeholder raw =>
      refine (r.substitute_cons_yields h.before h.own (ih h.behind)).congr fun generated => ?_
      rw [Template.fillPieces_placeholder, Scopes.value?]
      cases hvalue : (r.scopes generated).lookup (Template.nameOf raw) with
      | some value =>
        simp [goOn, hvalue, Template.referencesFrom, Template.Piece.source, Scopes.found,
          Scopes.lacking, String.append_assoc]
      | none =>
        simp [goOn, hvalue, Template.referencesFrom, Template.Piece.source, Scopes.found,
          Scopes.lacking, String.append_assoc]

/-- A resolver makes of a text what filling in makes of it. -/
theorem resolve_yields (text : String) :
    (r.resolve text).Yields r.supply fun generated => (r.scopes generated).resolve text := by
  rw [resolve, Template.scan_eq_references]
  show Resolving.Yields r.supply (if (Template.references text).isEmpty then pure ⟨text, [], []⟩
    else r.substitute text.toList 0 (Template.references text)) _
  split
  next hempty =>
    have hnone : Template.references text = [] := List.isEmpty_iff.mp hempty
    refine (Resolving.yields_pure _).congr fun generated => ?_
    rw [Scopes.resolve_eq, hnone, Template.fillPieces_of_no_references _ hnone,
      Template.flatMap_source_pieces, String.ofList_toList]
    rfl
  next =>
    refine (r.substitute_yields (Template.ahead_pieces text.toList)).congr fun generated => ?_
    rw [Scopes.resolve_eq, List.nil_append]
    rfl

end Resolver

namespace Scopes

/-- Filling in a text is one pass over it.  The scanner finds its references, and these are cut out
and replaced: everything between them stays as it is, and a value is put in as it is.  What has been
filled in and what has not are all the references, in order.

A name that starts with `$` has a value only as a built-in variable; any other name has the value of
the test, else the captured one, else the one of the run.

A resolver that works on one text after the other does the same, with one value for each built-in
variable, which is among those that have been supplied for it.  It always gets to the end: every
text is cut at boundaries of characters only. -/
theorem texts_are_resolved_in_one_pass :
    (∀ (s : Scopes) (text : String),
      let refs := Template.references text
      let done := s.resolve text
      Template.scan text.toList 0 = some refs ∧
      Template.Substituted text.toList s.value? 0 refs done.text.toList ∧
      done.resolved =
        (refs.filterMap fun ref => (s.lookup ref.name).map fun v => ⟨ref.name, v.1, v.2⟩) ∧
      done.unresolved =
        (refs.filter fun ref => (s.lookup ref.name).isNone).map Template.Reference.name ∧
      done.isComplete = refs.all fun ref => (s.lookup ref.name).isSome) ∧
    (∀ (s : Scopes) (name : String), s.lookup name =
      if name.toList.head? = some '$' then
        (BuiltIn.ofName? name).map fun b => (s.generated b, .builtIn)
      else ((s.test.get? name).map (·, Scope.test)).or
        (((s.captured.get? name).map (·, Scope.captured)).or
          ((s.run.get? name).map (·, Scope.run)))) ∧
    ∀ (r : Resolver) (texts : List String), ∃ generated : BuiltIn → String,
      (∀ b, ∃ k, generated b = r.supply k b) ∧
      (texts.mapM r.resolve).run' Generated.nothing =
        some (texts.map (r.scopes generated).resolve) := by
  refine ⟨fun s text => ?_, fun s name => ?_, fun r texts => ?_⟩
  · have hsubstituted :=
      Template.substituted_fillPieces s.value? (Template.ahead_pieces text.toList)
    intro refs done
    have hdone : done = ⟨_, s.found refs, s.lacking refs⟩ := s.resolve_eq text
    refine ⟨Template.scan_eq_references text, ?_, ?_, ?_, ?_⟩
    · rw [hdone, String.toList_ofList]
      exact hsubstituted
    · rw [hdone]
      rfl
    · rw [hdone]
      rfl
    · rw [hdone, Bool.eq_iff_iff, Resolution.isComplete, List.isEmpty_iff, lacking,
        List.map_eq_nil_iff, List.filter_eq_nil_iff, List.all_eq_true]
      exact forall₂_congr fun ref _ => by rw [Bool.not_eq_true, Option.isNone_eq_false_iff]
  · rw [lookup, userValue_eq, Template.isBuiltInName]
    simp only [decide_eq_true_eq]
  · exact (Resolving.yields_mapM r.resolve_yields texts).run'

end Scopes

end Assay
