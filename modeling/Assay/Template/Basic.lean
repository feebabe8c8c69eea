import Assay.Text.Blank
import Assay.Text.Search

/-
  Texts with placeholders.

  A placeholder is written `{{ name }}`.  Scanning from the left, an opening pair of braces is
  closed by the next closing pair after it; what stands between, blanks at both ends apart, is the
  name.  Between braces that hold only blanks there is no name, so such a pair is text like any
  other, but it is passed over as a whole.  An opening pair that is never closed is text up to the
  end.

  `pieces` cuts a text at its placeholders, and the pieces put together again are the text.

  Positions do not occur here.  A text is a list of pieces (`pieces`), its references are those of
  the pieces (`references`), and filling it in (`fill`) puts a text in the place of each piece.  The
  function that goes through a text by byte offsets, and copies slices of it, is `Template.scan` in
  `Assay.Template.Resolver`; `Assay.Proofs.Filling` shows that both see the same placeholders.

  What makes a pair of braces a placeholder can be said without a scan from the left, by what stands
  between and before: this, and that there is only one way to cut a text up, is in
  `Assay.Proofs.Braces`.
-/

namespace Assay.Template

/-- The opening braces of a placeholder. -/
def opening : List Char := ['\x7b', '\x7b']

/-- The closing braces of a placeholder. -/
def closing : List Char := ['\x7d', '\x7d']

/-- A piece of a text: a part without placeholders, or what stands between the braces of one. -/
inductive Piece where
  | text (s : List Char)
  | placeholder (raw : List Char)
  deriving DecidableEq, Repr

/-- The piece as it stands in the text. -/
def Piece.source : Piece → List Char
  | text s => s
  | placeholder raw => opening ++ raw ++ closing

/-- The piece between braces that hold `raw`. -/
def Piece.ofRaw (raw : List Char) : Piece :=
  if raw.all Text.isBlank then .text (opening ++ raw ++ closing) else .placeholder raw

/-- The name that a placeholder refers to. -/
def nameOf (raw : List Char) : String := String.ofList (Text.trimBoth raw)

/-- The pieces of a text. -/
def pieces (s : List Char) : List Piece :=
  match _h : Text.splitFirst opening s with
  | none => [.text s]
  | some (before, inner) =>
    match _h' : Text.splitFirst closing inner with
    | none => [.text s]
    | some (raw, after) => .text before :: Piece.ofRaw raw :: pieces after
termination_by s.length
decreasing_by
  have h₁ := Text.eq_of_splitFirst _h
  have h₂ := Text.eq_of_splitFirst _h'
  subst h₂
  subst h₁
  simp [opening, closing]
  omega

/-- The braces around nothing but blanks are text again. -/
theorem Piece.source_ofRaw (raw : List Char) :
    (Piece.ofRaw raw).source = opening ++ raw ++ closing := by
  unfold Piece.ofRaw
  split <;> rfl

/-- The pieces put together are the text. -/
theorem flatMap_source_pieces (s : List Char) : (pieces s).flatMap Piece.source = s := by
  fun_induction pieces s with
  | case1 s _ => simp [Piece.source]
  | case2 s _ _ _ _ => simp [Piece.source]
  | case3 s before inner h raw after h' ih =>
    have h₁ := Text.eq_of_splitFirst h
    have h₂ := Text.eq_of_splitFirst h'
    rw [List.flatMap_cons, List.flatMap_cons, Piece.source_ofRaw, ih, h₁, h₂]
    simp [Piece.source]

/-! ## References -/

/-- A placeholder of a text: the name it refers to, and the bytes from its first brace to its
last. -/
structure Reference where
  name : String
  start : Nat
  stop : Nat
  deriving DecidableEq, Repr

/-- The name belongs to a built-in variable. -/
def isBuiltInName (name : String) : Bool := name.toList.head? = some '$'

/-- The references of some pieces, the first of which starts at the given byte. -/
def referencesFrom (start : Nat) : List Piece → List Reference
  | [] => []
  | p :: rest =>
    let stop := start + Text.byteLength p.source
    match p with
    | .text _ => referencesFrom stop rest
    | .placeholder raw => ⟨nameOf raw, start, stop⟩ :: referencesFrom stop rest

/-- The references of a text, in order. -/
def references (s : String) : List Reference := referencesFrom 0 (pieces s.toList)

/-- The names that a text refers to, in order. -/
def names (s : String) : List String :=
  (pieces s.toList).filterMap fun p =>
    match p with
    | .text _ => none
    | .placeholder raw => some (nameOf raw)

/-- The text has a placeholder. -/
def hasPlaceholder (s : String) : Bool := !(references s).isEmpty

/-! ## Filling in -/

/-- A text whose placeholders are replaced by values; one without a value stays as it is. -/
def fillPieces (value : String → Option String) (ps : List Piece) : List Char :=
  ps.flatMap fun p =>
    match p with
    | .text s => s
    | .placeholder raw =>
      match value (nameOf raw) with
      | some v => v.toList
      | none => p.source

/-- A text whose placeholders are replaced by values.  Values are not looked into. -/
def fill (value : String → Option String) (s : String) : String :=
  String.ofList (fillPieces value (pieces s.toList))

end Assay.Template
