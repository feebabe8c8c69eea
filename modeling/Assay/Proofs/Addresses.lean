import Assay.Proofs.Hosts
import Assay.Url.Basic

/-
  Addresses of the web are read back from their text.

  Reading brings each part of an address into one form: user and password encoded, the host as
  `Host.Normal`, no default port, segments without dots and backslashes, query and fragment encoded.
  `Url.Normal` collects these conditions for an address whose scheme is one of the web (`Url.Web`).
  Two results are proved about it, and together they say that reading the text of what has been read
  changes nothing:

  * an address that has been read is of this form (`normal_of_parseChars`);
  * the text of an address of this form is read as the same address (`Normal.parseChars_chars`).

  The strategy is the same for both.  A text is taken from the front, part by part, and each part is
  followed by an arbitrary rest.  A part is found again as long as the rest does not look like more
  of it, so every lemma of the second kind has a hypothesis on the first character of the rest, and
  none about what comes later.

  1. Encoded texts.  `Percent.Encoded` says that each character stands for itself.  What is encoded
     is encoded (`encoded_encode`), encoding it again changes nothing (`Encoded.encode`), and as
     only 128 characters can stand for themselves, what is true of all of them is found by going
     through them (`Encoded.forall_mem`).

  2. Authorities.  The user ends at the last at-sign, the port starts at the last colon outside
     brackets, and neither character occurs where it could be mistaken (`splitUser_append`,
     `splitPort_text`).  From these parts the authority is put together
     (`readAuthority_authorityText`), and `normal_of_readAuthority` is the way back.

  3. Paths.  A `Segment` is an encoded text without slashes that is not a dot or two.  Resolving the
     dots of segments leaves them as they are (`resolveDots_of_segments`), and resolving any others
     leaves segments (`segments_resolveDots`).

  4. Query and fragment.  Each starts with its mark, and the mark of the second one cannot occur in
     the first (`readTail_tail`).

  The last section puts the parts together behind a scheme, first for the text behind the colon
  (`readHierarchy_text`) and then for the whole.  That nothing is dropped in front of or inside such
  a text, neither blanks nor tabs, is `clean_eq`: all its characters are graphic.
-/

namespace Assay

/-! ## Encoded texts -/

namespace Percent

/-- The characters that encoding puts in. -/
def marks : List Char :=
  ['%', '0', '1', '2', '3', '4', '5', '6', '7', '8', '9', 'A', 'B', 'C', 'D', 'E', 'F']

/-- A text in which every character stands for itself. -/
def Encoded (keep : Char → Bool) (s : List Char) : Prop := ∀ c ∈ s, c.toNat < 128 ∧ keep c = true

variable {keep : Char → Bool} {s : List Char}

/-- A byte is written with the percent sign and digits, and with nothing else. -/
theorem mem_marks_of_ofByte {b : UInt8} {c : Char} (h : c ∈ ofByte b) : c ∈ marks := by
  have hdigit : ∀ n < 16,
    (if n < 10 then Char.ofNat (48 + n) else Char.ofNat (55 + n)) ∈ marks := by decide
  have hb : b.toNat < 256 := b.toNat_lt
  simp only [ofByte, List.mem_cons, List.not_mem_nil, or_false] at h
  rcases h with rfl | rfl | rfl
  · exact List.mem_cons_self
  · exact hdigit _ (by omega)
  · exact hdigit _ (by omega)

/-- A character of an encoded text comes from the text, or has been put in. -/
theorem mem_encode {c : Char} (h : c ∈ encode keep s) :
    c ∈ marks ∨ c ∈ s ∧ c.toNat < 128 ∧ keep c = true := by
  obtain ⟨d, hd, h⟩ := List.mem_flatMap.mp h
  split at h
  next hkeep =>
    rw [List.mem_singleton.mp h]
    simp only [Bool.and_eq_true, decide_eq_true_eq] at hkeep
    exact .inr ⟨hd, hkeep⟩
  next =>
    obtain ⟨b, -, h⟩ := List.mem_flatMap.mp h
    exact .inl (mem_marks_of_ofByte h)

/-- In an encoded text every character stands for itself, if the marks do. -/
theorem encoded_encode (hmarks : marks.all keep = true) (s : List Char) :
    Encoded keep (encode keep s) := by
  intro c hc
  have hlow : marks.all (fun c => c.toNat < 128) = true := by decide
  rcases mem_encode hc with hc | ⟨-, hc⟩
  · exact ⟨of_decide_eq_true (List.all_eq_true.mp hlow c hc), List.all_eq_true.mp hmarks c hc⟩
  · exact hc

/-- Encoding leaves a text as it is in which every character stands for itself. -/
theorem Encoded.encode (h : Encoded keep s) : Percent.encode keep s = s := by
  have hall : ∀ c ∈ s, (if c.toNat < 128 && keep c then [c] else encodeChar c) = [c] :=
    fun c hc => by
    rw [(h c hc).2, decide_eq_true (h c hc).1]
    rfl
  rw [Percent.encode, List.flatMap_congr hall, List.flatMap_singleton']

theorem encodeChar_ne_nil (c : Char) : encodeChar c ≠ [] := by
  obtain ⟨b, bs, hbytes⟩ : ∃ b bs, String.utf8EncodeChar c = b :: bs := by
    refine List.exists_cons_of_ne_nil fun hnil => ?_
    have hlength := String.length_utf8EncodeChar c
    rw [hnil] at hlength
    exact absurd hlength (Nat.ne_of_lt c.utf8Size_pos)
  rw [encodeChar, hbytes, List.flatMap_cons, ofByte]
  exact List.cons_ne_nil _ _

/-- Encoding neither makes a text empty nor fills one. -/
theorem encode_isEmpty (keep : Char → Bool) (s : List Char) :
    (Percent.encode keep s).isEmpty = s.isEmpty := by
  cases s with
  | nil => rfl
  | cons c s =>
    have hne : Percent.encode keep (c :: s) ≠ [] := by
      rw [Percent.encode, List.flatMap_cons]
      split
      · exact List.cons_ne_nil _ _
      · exact List.append_ne_nil_of_left_ne_nil (encodeChar_ne_nil c) _
    rw [List.isEmpty_eq_false_iff.mpr hne]
    rfl

theorem marks_keepUser :
    marks.all keepUser = true := by simp [marks, keepUser, keepPath, keepFragment, isGraphic]
theorem marks_keepPath :
    marks.all keepPath = true := by simp [marks, keepPath, keepFragment, isGraphic]
theorem marks_keepQuery : marks.all (keepQuery true) = true := by simp [marks, keepQuery, isGraphic]
theorem marks_keepFragment :
    marks.all keepFragment = true := by simp [marks, keepFragment, isGraphic]

/-- What is true of every character that stands for itself is true of the characters of an encoded
text. -/
theorem Encoded.forall_mem {p : Char → Prop} (h : Encoded keep s)
    (hp : ∀ n < 128, keep (Char.ofNat n) = true → p (Char.ofNat n)) : ∀ c ∈ s, p c := by
  intro c hc
  obtain ⟨hlow, hkeep⟩ := h c hc
  exact Text.of_latin (p := fun c => keep c = true → p c) hp hlow hkeep

/-- An encoded user name has no character that could end it, nor a colon. -/
theorem Encoded.inside (h : Encoded keepUser s) : ∀ c ∈ s, Host.Inside c ∧ c ≠ ':' := by
  refine h.forall_mem ?_
  unfold Host.Inside
  decide +kernel

/-- An encoded path has no blank, no question mark and no hash. -/
theorem Encoded.path (h : Encoded keepPath s) : ∀ c ∈ s, 32 < c.toNat ∧ c ≠ '?' ∧ c ≠ '#' :=
  h.forall_mem (by decide +kernel)

/-- An encoded query has no blank and no hash. -/
theorem Encoded.query (h : Encoded (keepQuery true) s) : ∀ c ∈ s, 32 < c.toNat ∧ c ≠ '#' :=
  h.forall_mem (by decide +kernel)

theorem Encoded.fragment (h : Encoded keepFragment s) : ∀ c ∈ s, 32 < c.toNat :=
  h.forall_mem (by decide +kernel)

end Percent

namespace Url

/-! ## Parts of a text -/

/-- The front of a text up to the first character that does not belong to it. -/
theorem takeWhile_front {p : Char → Bool} {s t : List Char} (hs : ∀ c ∈ s, p c = true)
    (ht : ∀ c ∈ t.head?, p c = false) : (s ++ t).takeWhile p = s := by
  rw [List.takeWhile_append_of_pos hs]
  cases t with
  | nil => exact List.append_nil s
  | cons c t =>
    rw [List.takeWhile_cons_of_neg (by rw [ht c rfl]; exact Bool.false_ne_true), List.append_nil]

/-! ## User and port -/

/-- The user is written as the name up to the first colon, and the password behind it. -/
theorem userText_of_parts {name : List Char} (password : List Char) (h : ':' ∉ name) :
    userText (name ++ if password.isEmpty then [] else ':' :: password) =
      Percent.encode Percent.keepUser name ++
        if password.isEmpty then [] else ':' :: Percent.encode Percent.keepUser password := by
  have hname :
      (name ++ if password.isEmpty then [] else ':' :: password).takeWhile (· ≠ ':') = name := by
    refine takeWhile_front (fun c hc => decide_eq_true fun hcolon => h (hcolon ▸ hc)) fun c hc => ?_
    split at hc
    · cases hc
    · cases hc
      rfl
  have hpassword : (name ++ if password.isEmpty then [] else ':' :: password).drop
    (name.length + 1) = password := by
    rw [← List.drop_drop, List.drop_left]
    cases password <;> rfl
  rw [userText, hname, hpassword]

/-- User name and password are written in the same way again. -/
theorem userText_userText (s : List Char) : userText (userText s) = userText s := by
  have hencoded (t : List Char) : Percent.Encoded Percent.keepUser
    (Percent.encode Percent.keepUser t) :=
    Percent.encoded_encode Percent.marks_keepUser t
  have hcolon (t : List Char) : ':' ∉ Percent.encode Percent.keepUser t := fun hc =>
    ((hencoded t).inside _ hc).2 rfl
  obtain ⟨name, password, hs⟩ : ∃ name password,
    userText s = Percent.encode Percent.keepUser name ++
      if password.isEmpty then [] else ':' :: Percent.encode Percent.keepUser password :=
        ⟨_, _, rfl⟩
  rw [hs, ← Percent.encode_isEmpty Percent.keepUser password, userText_of_parts _ (hcolon name),
    (hencoded name).encode, (hencoded password).encode]

theorem inside_userText {s : List Char} {c : Char} (hc : c ∈ userText s) : Host.Inside c := by
  have hinside {t : List Char} (ht : c ∈ Percent.encode Percent.keepUser t) : Host.Inside c :=
    ((Percent.encoded_encode Percent.marks_keepUser t).inside c ht).1
  rcases List.mem_append.mp hc with hc | hc
  · exact hinside hc
  · split at hc
    · cases hc
    · rcases List.mem_cons.mp hc with rfl | hc
      · exact ⟨by decide, by decide⟩
      · exact hinside hc

/-- Without an at-sign there is no user. -/
theorem splitUser_of_not_mem {s : List Char} (h : '@' ∉ s) : splitUser s = none := by
  have hback : s.reverse.takeWhile (· ≠ '@') = s.reverse := by
    refine List.takeWhile_eq_self_iff.mpr fun c hc => decide_eq_true ?_
    rintro rfl
    exact h (List.mem_reverse.mp hc)
  rw [splitUser, hback]
  exact if_pos s.length_reverse

/-- The last at-sign is found. -/
theorem splitUser_append (user : List Char) {s : List Char} (h : '@' ∉ s) :
    splitUser (user ++ '@' :: s) = some (user, s) := by
  have hback : (user ++ '@' :: s).reverse.takeWhile (· ≠ '@') = s.reverse := by
    rw [List.reverse_append, List.reverse_cons, List.append_assoc]
    refine takeWhile_front (fun c hc => decide_eq_true ?_) fun c hc => ?_
    · rintro rfl
      exact h (List.mem_reverse.mp hc)
    · cases hc
      rfl
  have hlength : (user ++ '@' :: s).length = user.length + s.length + 1 := by
    rw [List.length_append, List.length_cons]
    omega
  rw [splitUser, hback, List.length_reverse, hlength, if_neg (by omega),
    show user.length + s.length + 1 - s.length - 1 = user.length by omega,
    List.take_left, List.reverse_reverse]

/-- What has no bracket, and a colon only inside brackets, belongs to the host. -/
theorem splitPort_append {inside : Bool} {s : List Char} (t : List Char)
    (h : ∀ c ∈ s, (c ≠ '[' ∧ c ≠ ']') ∧ (c = ':' → inside = true)) :
    splitPort inside (s ++ t) = (s ++ (splitPort inside t).1, (splitPort inside t).2) := by
  induction s with
  | nil => rfl
  | cons c s ih =>
    obtain ⟨⟨⟨hopen, hclose⟩, hcolon⟩, hs⟩ := List.forall_mem_cons.mp h
    rw [List.cons_append, splitPort, if_neg (by simpa using hcolon), if_neg hopen, if_neg hclose]
    dsimp only
    rw [ih hs]
    rfl

/-- A colon inside brackets does not start the port. -/
theorem splitPort_text {host : Host} (h : host.Normal) (t : List Char) :
    splitPort false (host.text ++ t) =
      (host.text ++ (splitPort false t).1, (splitPort false t).2) := by
  rcases h.text_cases with hname | ⟨inner, htext, hinner⟩
  · have hmark {mark : Char} (hforbidden : Host.forbidden mark = true) :
        ∀ c ∈ host.text, c ≠ mark := by
      rintro c hc rfl
      rw [hname.allowed c hc] at hforbidden
      cases hforbidden
    exact splitPort_append t fun c hc => ⟨⟨hmark (by decide) c hc, hmark (by decide) c hc⟩,
      fun hcolon => absurd hcolon (hmark (by decide) c hc)⟩
  · have hclose : splitPort true (']' :: t) =
      (']' :: (splitPort false t).1, (splitPort false t).2) := rfl
    have hmiddle : splitPort true (inner ++ ']' :: t) =
        (inner ++ ']' :: (splitPort false t).1, (splitPort false t).2) := by
      rw [splitPort_append (']' :: t) fun c hc => ⟨?_, fun _ => rfl⟩, hclose]
      rcases hinner c hc with rfl | hc
      · exact ⟨by decide, by decide⟩
      · exact ⟨fun hopen => absurd hc (by rw [hopen]; decide),
          fun hclose => absurd hc (by rw [hclose]; decide)⟩
    rw [htext, List.cons_append, List.append_assoc, List.singleton_append]
    show ('[' :: (splitPort true (inner ++ ']' :: t)).1, (splitPort true (inner ++ ']' :: t)).2) = _
    rw [hmiddle, List.cons_append, List.append_assoc]
    rfl

/-- A port that is not the default one is read back from its digits. -/
theorem readPort_toDigits {dflt : Option Nat} {p : Nat} (hp : p ≤ 65535) (hdflt : dflt ≠ some p) :
    readPort dflt (Nat.toDigits 10 p) = .ok (some p) := by
  have hdigits : (Nat.toDigits 10 p).all Char.isDigit :=
    List.all_eq_true.mpr fun _ hc => Host.isDigit_of_mem_toDigits hc
  have hempty : (Nat.toDigits 10 p).isEmpty = false :=
    List.isEmpty_eq_false_iff.mpr Nat.toDigits_ne_nil
  rw [readPort, if_pos hdigits, Host.digitsValue_toDigits (by decide) (by decide), hempty]
  exact (if_neg (Nat.not_lt.mpr hp)).trans (if_neg (by simpa using hdflt))

/-- A port that has been read is in range and is not the default one. -/
theorem of_readPort {dflt : Option Nat} {digits : List Char} {port : Option Nat}
    (h : readPort dflt digits = .ok port) : ∀ p ∈ port, p ≤ 65535 ∧ dflt ≠ some p := by
  rw [readPort] at h
  split at h
  next =>
    dsimp only at h
    split at h
    next => cases h
    next hle =>
      split at h
      next =>
        cases h
        exact fun _ hp => nomatch hp
      next hdflt =>
        cases h
        rintro p ⟨⟩
        simp only [Bool.or_eq_true, decide_eq_true_eq, not_or] at hdflt
        exact ⟨Nat.not_lt.mp hle, hdflt.2⟩
  next => cases h

end Url

/-! ## Authorities -/

/-- The authority is in the form in which it is written with a special scheme. -/
structure Authority.Normal (scheme : List Char) (a : Authority) : Prop where
  user : Url.userText a.user = a.user
  host : a.host.Normal
  port : ∀ p ∈ a.port, p ≤ 65535 ∧ Url.defaultPort scheme ≠ some p

namespace Url

variable {scheme : List Char} {a : Authority}

/-- The port as it is written. -/
def portText : Option Nat → List Char
  | some p => ':' :: Nat.toDigits 10 p
  | none => []

/-- An authority is written as its user with an at-sign, its host, and its port with a colon. -/
theorem authorityText_eq (a : Authority) :
    authorityText a = (if a.user.isEmpty then [] else a.user ++ ['@']) ++
      (a.host.text ++ portText a.port) := by
  rw [authorityText, List.append_assoc]
  cases a.port <;> rfl

theorem inside_portText {port : Option Nat} {c : Char} (hc : c ∈ portText port) :
    Host.Inside c := by
  cases port with
  | none => cases hc
  | some p =>
    rcases List.mem_cons.mp hc with rfl | hc
    · exact ⟨by decide, by decide⟩
    · exact Host.inside_of_isAlphanum (Host.isAlphanum_of_mem_toDigits (by decide) (by decide) hc)

/-- The text of a port is split in front of its first character. -/
theorem splitPort_portText (port : Option Nat) :
    splitPort false (portText port) = ([], port.map (Nat.toDigits 10)) := by
  cases port <;> rfl

/-- Host and port have no at-sign, and are not empty. -/
theorem splitUser_authorityText (h : a.Normal scheme) :
    (splitUser (authorityText a)).getD ([], authorityText a) =
      (a.user, a.host.text ++ portText a.port) := by
  have hat : '@' ∉ a.host.text ++ portText a.port := fun hc => by
    have hinside : Host.Inside '@' := (List.mem_append.mp hc).elim (h.host.inside _) inside_portText
    exact hinside.2 (by decide)
  rw [authorityText_eq]
  split
  next hempty =>
    rw [List.nil_append, splitUser_of_not_mem hat, List.isEmpty_iff.mp hempty]
    rfl
  next =>
    rw [List.append_assoc, List.singleton_append, splitUser_append a.user hat]
    rfl

/-- What is read behind a guard has passed the guard. -/
theorem ok_of_guard {ε α : Type} {refused : Prop} [Decidable refused] {e : ε} {x : Except ε α}
    {y : α} (h : (if refused then (throw e : Except ε PUnit) >>= fun _ => x else x) = .ok y) :
    x = .ok y := by
  split at h
  · cases h
  · exact h

/-- The authority is read back from its text. -/
theorem readAuthority_authorityText (hspecial : isSpecial scheme = true) (h : a.Normal scheme) :
    readAuthority scheme (authorityText a) = .ok a := by
  have hempty : a.host.text.isEmpty = false := List.isEmpty_eq_false_iff.mpr h.host.text_ne_nil
  have hback : (a.host.text ++ portText a.port).isEmpty = false :=
    List.isEmpty_eq_false_iff.mpr (List.append_ne_nil_of_left_ne_nil h.host.text_ne_nil _)
  have hsplit : splitPort false (a.host.text ++ portText a.port) =
    (a.host.text, a.port.map (Nat.toDigits 10)) := by
    rw [splitPort_text h.host, splitPort_portText, List.append_nil]
  -- The host is not empty, so no part that is there is refused for its lack.
  rw [readAuthority, splitUser_authorityText h]
  dsimp only
  rw [hback, Bool.and_false, h.user, hsplit, hempty, hspecial, h.host.readSpecial_text]
  obtain ⟨user, host, port⟩ := a
  cases port with
  | none => rfl
  | some p =>
    obtain ⟨hp, hdflt⟩ := h.port p rfl
    show (readPort (defaultPort scheme) (Nat.toDigits 10 p) >>= fun port =>
      (.ok ⟨user, host, port⟩ : Except UrlError Authority)) = .ok ⟨user, host, some p⟩
    rw [readPort_toDigits hp hdflt]
    rfl

/-- An authority that has been read is in the form in which it is written. -/
theorem normal_of_readAuthority {s : List Char} (hspecial : isSpecial scheme = true)
    (h : readAuthority scheme s = .ok a) : a.Normal scheme := by
  rw [readAuthority] at h
  generalize (splitUser s).getD ([], s) = parts at h
  obtain ⟨user, rest⟩ := parts
  dsimp only at h
  replace h := ok_of_guard h
  generalize splitPort false rest = parts at h
  obtain ⟨hostText, port⟩ := parts
  dsimp only at h
  replace h := ok_of_guard h
  rw [hspecial, if_pos rfl] at h
  obtain ⟨host, hhost, h⟩ := Instant.bind_eq_ok h
  replace h := ok_of_guard h
  -- User and host have been read whatever the port is.
  have hnormal {port : Option Nat} (hport : ∀ p ∈ port, p ≤ 65535 ∧ defaultPort scheme ≠ some p) :
      (Authority.mk (userText user) host port).Normal scheme :=
    ⟨userText_userText user, Host.normal_of_readSpecial hhost, hport⟩
  cases port with
  | none =>
    cases ok_of_guard h
    exact hnormal fun _ hp => nomatch hp
  | some digits =>
    obtain ⟨port, hport, h⟩ := Instant.bind_eq_ok h
    cases ok_of_guard h
    exact hnormal (of_readPort hport)

theorem of_inside {c : Char} (h : Host.Inside c) : 32 < c.toNat ∧ endsAuthority true c = false := by
  obtain ⟨hgraphic, hmarks⟩ := h
  simp only [List.mem_cons, List.not_mem_nil, or_false, not_or] at hmarks
  exact ⟨hgraphic, by simp [endsAuthority, hmarks]⟩

/-- No character of an authority ends it, and none is a blank. -/
theorem of_mem_authorityText (h : a.Normal scheme) {c : Char} (hc : c ∈ authorityText a) :
    32 < c.toNat ∧ endsAuthority true c = false := by
  rw [authorityText_eq] at hc
  rcases List.mem_append.mp hc with hc | hc
  · split at hc
    · cases hc
    · rcases List.mem_append.mp hc with hc | hc
      · exact of_inside (inside_userText (h.user ▸ hc))
      · rw [List.mem_singleton.mp hc]
        exact ⟨by decide, by decide⟩
  · exact of_inside ((List.mem_append.mp hc).elim (h.host.inside c) inside_portText)

theorem authorityText_ne_nil (h : a.Normal scheme) : authorityText a ≠ [] := by
  rw [authorityText_eq]
  exact List.append_ne_nil_of_right_ne_nil _
    (List.append_ne_nil_of_left_ne_nil h.host.text_ne_nil _)

/-- The first slash, question mark or hash ends the authority. -/
theorem authorityFront_append (h : a.Normal scheme) {t : List Char}
    (ht : ∀ c ∈ t.head?, endsAuthority true c = true) :
    authorityFront true (authorityText a ++ t) = authorityText a := by
  have hfront : (authorityText a ++ t).takeWhile (fun c => !endsAuthority true c) =
    authorityText a := by
    refine takeWhile_front (fun c hc => ?_) fun c hc => ?_
    · rw [(of_mem_authorityText h hc).2]
      rfl
    · rw [ht c hc]
      rfl
  -- There is no backslash behind the port.
  have hport : (((splitPort false (a.host.text ++ portText a.port)).2).getD []).dropWhile
      (· ≠ '\\') = [] := by
    rw [splitPort_text h.host, splitPort_portText]
    refine List.dropWhile_eq_nil_iff.mpr fun c hc => decide_eq_true ?_
    rintro rfl
    cases hp : a.port with
    | none =>
      rw [hp] at hc
      cases hc
    | some p =>
      rw [hp] at hc
      exact Host.not_mem_toDigits (by decide) (by decide) rfl hc
  rw [authorityFront, hfront, splitUser_authorityText h]
  dsimp only
  rw [hport, List.length_nil, Nat.sub_zero, List.take_length]

/-! ## Paths -/

/-- A segment in the form in which it is written. -/
structure Segment (s : List Char) : Prop where
  encoded : Percent.Encoded Percent.keepPath s
  noSlash : '/' ∉ s
  noBackslash : '\\' ∉ s
  noDot : isDot s = false
  noDoubleDot : isDoubleDot s = false

variable {ss done : List (List Char)}

theorem segment_nil : Segment [] := ⟨nofun, nofun, nofun, rfl, rfl⟩

/-- There are no dots to resolve. -/
theorem resolveDots_of_segments (h : ∀ s ∈ ss, Segment s) :
    resolveDots done ss = done.reverse ++ ss := by
  induction ss generalizing done with
  | nil => exact (List.append_nil _).symm
  | cons s rest ih =>
    obtain ⟨hs, hrest⟩ := List.forall_mem_cons.mp h
    cases rest with
    | nil =>
      rw [resolveDots, hs.noDoubleDot, hs.noDot]
      exact List.reverse_cons
    | cons next rest =>
      rw [resolveDots, hs.noDoubleDot, hs.noDot, if_neg Bool.false_ne_true,
        if_neg Bool.false_ne_true, ih hrest, List.reverse_cons, List.append_assoc,
        List.singleton_append]
      exact List.cons_ne_nil _ _

/-- When the dots are resolved, the other segments are left. -/
theorem segments_resolveDots (hdone : ∀ s ∈ done, Segment s)
    (h : ∀ s ∈ ss, isDot s = false → isDoubleDot s = false → Segment s) :
    ∀ s ∈ resolveDots done ss, Segment s := by
  have hback : ∀ s ∈ done.tail, Segment s := fun s hs => hdone s (List.mem_of_mem_tail hs)
  fun_induction resolveDots done ss with
  | case1 done => exact fun s hs => hdone s (List.mem_reverse.mp hs)
  | case2 done s hdouble =>
    exact fun s hs => List.forall_mem_cons.mpr ⟨segment_nil, hback⟩ s (List.mem_reverse.mp hs)
  | case3 done s hdouble hdot =>
    exact fun s hs => List.forall_mem_cons.mpr ⟨segment_nil, hdone⟩ s (List.mem_reverse.mp hs)
  | case4 done s hdouble hdot =>
    have hs : Segment s :=
      h s List.mem_cons_self (Bool.eq_false_iff.mpr hdot) (Bool.eq_false_iff.mpr hdouble)
    exact fun s hs' => List.forall_mem_cons.mpr ⟨hs, hdone⟩ s (List.mem_reverse.mp hs')
  | case5 done s rest hrest hdouble ih =>
    exact ih hback (fun s hs => h s (List.mem_cons_of_mem _ hs)) fun s hs => hback s
      (List.mem_of_mem_tail hs)
  | case6 done s rest hrest hdouble hdot ih =>
    exact ih hdone (fun s hs => h s (List.mem_cons_of_mem _ hs)) hback
  | case7 done s rest hrest hdouble hdot ih =>
    have hs : Segment s :=
      h s List.mem_cons_self (Bool.eq_false_iff.mpr hdot) (Bool.eq_false_iff.mpr hdouble)
    exact ih (List.forall_mem_cons.mpr ⟨hs, hdone⟩) (fun s hs => h s (List.mem_cons_of_mem _ hs))
      hdone

theorem resolveDots_ne_nil (h : ss ≠ []) : resolveDots done ss ≠ [] := by
  fun_induction resolveDots done ss with
  | case1 done => exact absurd rfl h
  | case2 | case3 | case4 => simp
  | case5 done s rest hrest _ ih => exact ih hrest
  | case6 done s rest hrest _ _ ih => exact ih hrest
  | case7 done s rest hrest _ _ ih => exact ih hrest

/-- Reading a path gives at least one segment, and only segments. -/
theorem segments_readSegments (s : List Char) :
    readSegments true s ≠ [] ∧ ∀ segment ∈ readSegments true s, Segment segment := by
  constructor
  · refine resolveDots_ne_nil fun hnil => ?_
    exact Text.splitAtChar_ne_nil _ _ (List.map_eq_nil_iff.mp hnil)
  · refine segments_resolveDots nofun fun segment hsegment hdot hdouble => ?_
    obtain ⟨piece, hpiece, rfl⟩ := List.mem_map.mp hsegment
    refine ⟨Percent.encoded_encode Percent.marks_keepPath piece, fun hc => ?_, fun hc => ?_,
      hdot, hdouble⟩
    · rcases Percent.mem_encode hc with hmark | ⟨hc, -⟩
      · exact absurd hmark (by decide)
      · exact Text.not_mem_of_mem_splitAtChar hpiece hc
    · rcases Percent.mem_encode hc with hmark | ⟨hc, -⟩
      · exact absurd hmark (by decide)
      · obtain ⟨c, -, hc⟩ := List.mem_map.mp (Text.mem_of_mem_splitAtChar hpiece hc)
        split at hc
        next => cases hc
        next hne => exact hne hc

/-- The path behind an authority is a row of segments. -/
theorem exists_readPath (s : List Char) :
    ∃ ss, readPath true s = .segments ss ∧ ss ≠ [] ∧ ∀ s ∈ ss, Segment s := by
  rw [readPath.eq_def]
  split
  · exact ⟨[[]], rfl, List.cons_ne_nil _ _, fun s hs => List.mem_singleton.mp hs ▸ segment_nil⟩
  · exact ⟨_, rfl, segments_readSegments _⟩
  · exact ⟨_, if_pos rfl, segments_readSegments _⟩
  · exact ⟨_, rfl, segments_readSegments _⟩

/-- Segments are written with a slash in front of each of them. -/
theorem pathText_segments (hne : ss ≠ []) :
    pathText true (.segments ss) = '/' :: ['/'].intercalate ss := by
  obtain ⟨s, rest, rfl⟩ := List.exists_cons_of_ne_nil hne
  show (s :: rest).flatMap (fun s => '/' :: s) = _
  induction rest generalizing s with
  | nil => simp [List.intercalate_singleton]
  | cons next rest ih =>
    rw [List.flatMap_cons, ih next (List.cons_ne_nil _ _), List.intercalate_cons_cons]
    simp

/-- The path is read back from its text. -/
theorem readPath_pathText (hne : ss ≠ []) (h : ∀ s ∈ ss, Segment s) :
    readPath true (pathText true (.segments ss)) = .segments ss := by
  have hslashes : (['/'].intercalate ss).map (fun c => if c = '\\' then '/' else c) =
    ['/'].intercalate ss := by
    rw [List.map_congr_left, List.map_id]
    intro c hc
    refine if_neg ?_
    rintro rfl
    rcases Text.mem_of_mem_intercalate hc with hslash | ⟨s, hs, hc⟩
    · cases hslash
    · exact (h s hs).noBackslash hc
  have hencode : ss.map (Percent.encode Percent.keepPath) = ss := by
    rw [List.map_congr_left fun s hs => (h s hs).encoded.encode, List.map_id']
  rw [pathText_segments hne]
  show UrlPath.segments (readSegments true (['/'].intercalate ss)) = _
  rw [readSegments, splitPath, if_pos rfl, hslashes,
    Text.splitAtChar_intercalate hne fun s hs => (h s hs).noSlash, hencode,
    resolveDots_of_segments h]
  rfl

theorem of_mem_pathText (h : ∀ s ∈ ss, Segment s) {c : Char}
    (hc : c ∈ pathText true (.segments ss)) :
    32 < c.toNat ∧ c ≠ '?' ∧ c ≠ '#' := by
  obtain ⟨s, hs, hc⟩ := List.mem_flatMap.mp hc
  rcases List.mem_cons.mp hc with rfl | hc
  · exact ⟨by decide, by decide, by decide⟩
  · exact (h s hs).encoded.path c hc

/-! ## Query and fragment -/

variable {query fragment : Option (List Char)}

/-- The text of query and fragment starts with the mark of the first one that is there. -/
theorem head_tail {c : Char} (hc : c ∈ (partText '?' query ++ partText '#' fragment).head?) :
    c = '?' ∨ c = '#' := by
  cases query with
  | some q =>
    cases hc
    exact .inl rfl
  | none =>
    cases fragment with
    | some f =>
      cases hc
      exact .inr rfl
    | none => cases hc

/-- The path ends in front of the first question mark or hash. -/
theorem splitPathEnd_append {path tail : List Char} (hpath : ∀ c ∈ path, c ≠ '?' ∧ c ≠ '#')
    (htail : ∀ c ∈ tail.head?, c = '?' ∨ c = '#') : splitPathEnd (path ++ tail) = (path, tail) := by
  have hfront : (path ++ tail).takeWhile (fun c => c ≠ '?' && c ≠ '#') = path := by
    refine takeWhile_front (fun c hc => ?_) fun c hc => ?_
    · simp [hpath c hc]
    · rcases htail c hc with rfl | rfl <;> rfl
  rw [splitPathEnd, hfront, List.drop_left]

/-- Query and fragment are read back from their text. -/
theorem readTail_tail (hquery : ∀ q ∈ query, Percent.Encoded (Percent.keepQuery true) q)
    (hfragment : ∀ f ∈ fragment, Percent.Encoded Percent.keepFragment f) :
    readTail true (partText '?' query ++ partText '#' fragment) = (query, fragment) := by
  cases query with
  | none =>
    cases fragment with
    | none => rfl
    | some f =>
      show (none, some (Percent.encode Percent.keepFragment f)) = _
      rw [(hfragment f rfl).encode]
  | some q =>
    have hq : (q ++ partText '#' fragment).takeWhile (· ≠ '#') = q := by
      refine takeWhile_front (fun c hc => decide_eq_true ?_) fun c hc => ?_
      · exact ((hquery q rfl).query c hc).2
      · cases fragment with
        | none => cases hc
        | some f =>
          cases hc
          rfl
    show readTail true ('?' :: (q ++ partText '#' fragment)) = _
    rw [readTail, hq, List.drop_left, (hquery q rfl).encode]
    cases fragment with
    | none => rfl
    | some f =>
      show (some q, some (Percent.encode Percent.keepFragment f)) = _
      rw [(hfragment f rfl).encode]

/-- Query and fragment are encoded when they have been read. -/
theorem encoded_readTail (s : List Char) :
    (∀ q ∈ (readTail true s).1, Percent.Encoded (Percent.keepQuery true) q) ∧
      ∀ f ∈ (readTail true s).2, Percent.Encoded Percent.keepFragment f := by
  have hfragment (f : List Char) : Percent.Encoded Percent.keepFragment
    (Percent.encode Percent.keepFragment f) :=
    Percent.encoded_encode Percent.marks_keepFragment f
  rw [readTail.eq_def]
  split
  · refine ⟨?_, fun f hf => ?_⟩
    · rintro q ⟨⟩
      exact Percent.encoded_encode Percent.marks_keepQuery _
    · dsimp only at hf
      split at hf
      · cases hf
        exact hfragment _
      · cases hf
  · refine ⟨nofun, ?_⟩
    rintro f ⟨⟩
    exact hfragment _
  · exact ⟨nofun, nofun⟩

/-! ## Addresses of the web -/

/-- The scheme of the web, plain or encrypted. -/
def Web (scheme : List Char) : Prop := scheme = "http".toList ∨ scheme = "https".toList

/-- The address is one of the web, in the form in which it is written. -/
structure Normal (u : Url) : Prop where
  scheme : Web u.scheme
  authority : ∃ a, u.authority = some a ∧ a.Normal u.scheme
  path : ∃ ss, u.path = .segments ss ∧ ss ≠ [] ∧ ∀ s ∈ ss, Segment s
  query : ∀ q ∈ u.query, Percent.Encoded (Percent.keepQuery true) q
  fragment : ∀ f ∈ u.fragment, Percent.Encoded Percent.keepFragment f

variable {u : Url} {s : List Char}

theorem special_of_web (h : Web scheme) :
    isSpecial scheme = true ∧ scheme ≠ fileScheme := by
  rcases h with rfl | rfl <;> exact ⟨by decide, by decide⟩

/-- What is read behind the colon keeps the scheme, and is in normal form for a scheme of the web.
-/
theorem of_readHierarchy (h : readHierarchy scheme s = .ok u) : u.scheme = scheme ∧
    (Web scheme → u.Normal) := by
  rw [readHierarchy] at h
  obtain ⟨a, ha, h⟩ := Instant.bind_eq_ok h
  generalize splitPathEnd _ = parts at h
  obtain ⟨path, tail⟩ := parts
  cases h
  refine ⟨rfl, fun hweb => ?_⟩
  have hspecial : isSpecial scheme = true := (special_of_web hweb).1
  rw [hspecial]
  exact ⟨hweb, ⟨a, rfl, normal_of_readAuthority hspecial ha⟩, exists_readPath path,
    (encoded_readTail tail).1,
    (encoded_readTail tail).2⟩

theorem scheme_of_readFile (h : readFile s = .ok u) : u.scheme = fileScheme := by
  unfold readFile at h
  extract_lets isSlash hasHost afterSlashes front at h
  split at h
  all_goals
    obtain ⟨host, -, h⟩ := Instant.bind_eq_ok h
    cases h
    rfl

/-- An address of the web that has been read is in the form in which it is written. -/
theorem normal_of_parseChars (h : parseChars s = .ok u) (hweb : Web u.scheme) : u.Normal := by
  rw [parseChars] at h
  split at h
  next => cases h
  next scheme rest _ =>
    -- Files and schemes that are not special give addresses of their own scheme.
    split at h
    next => exact absurd (scheme_of_readFile h) (special_of_web hweb).2
    next =>
      split at h
      next =>
        obtain ⟨hscheme, hnormal⟩ := of_readHierarchy h
        exact hnormal (hscheme ▸ hweb)
      next hspecial =>
        have hother : u.scheme = scheme := by
          split at h
          next => exact (of_readHierarchy h).1
          next =>
            cases h
            rfl
        exact absurd (hother ▸ (special_of_web hweb).1) hspecial

/-! ### Reading the text of an address -/

/-- Without blanks there is nothing to drop. -/
theorem clean_eq (h : ∀ c ∈ s, 32 < c.toNat) : clean s = s := by
  have htrim {t : List Char} (ht : ∀ c ∈ t, c ∈ s) : t.dropWhile isTrimmed = t := by
    cases t with
    | nil => rfl
    | cons c t =>
      have hc : ¬c.toNat ≤ 32 := Nat.not_le.mpr (h c (ht c List.mem_cons_self))
      exact List.dropWhile_cons_of_neg (by simpa [isTrimmed] using hc)
  have hkeep : s.filter (fun c => c ≠ '\t' && c ≠ '\n' && c ≠ '\r') = s := by
    refine List.filter_eq_self.mpr fun c hc => ?_
    have hbreaks : c ≠ '\t' ∧ c ≠ '\n' ∧ c ≠ '\r' := by
      refine ⟨?_, ?_, ?_⟩ <;> rintro rfl <;> exact absurd (h _ hc) (by decide)
    simp [hbreaks]
  rw [clean, htrim fun c hc => hc, htrim fun c hc => List.mem_reverse.mp hc, List.reverse_reverse]
  exact hkeep

theorem graphic_web (h : Web scheme) : ∀ c ∈ scheme, 32 < c.toNat := by
  rcases h with rfl | rfl <;> simp

theorem graphic_partText {mark : Char} (hmark : 32 < mark.toNat) {part : Option (List Char)}
    (h : ∀ s ∈ part, ∀ c ∈ s, 32 < c.toNat) : ∀ c ∈ partText mark part, 32 < c.toNat := by
  cases part with
  | none => nofun
  | some s => exact List.forall_mem_cons.mpr ⟨hmark, h s rfl⟩

/-- An authority does not start with a slash. -/
theorem dropWhile_slashes (ha : a.Normal scheme) (t : List Char) :
    (authorityText a ++ t).dropWhile (fun c => c = '/' || c = '\\') = authorityText a ++ t := by
  obtain ⟨c, rest, hfirst⟩ := List.exists_cons_of_ne_nil (authorityText_ne_nil ha)
  have hc : endsAuthority true c = false :=
    (of_mem_authorityText ha (hfirst ▸ List.mem_cons_self)).2
  rw [hfirst, List.cons_append]
  refine List.dropWhile_cons_of_neg fun hslash => ?_
  simp only [Bool.or_eq_true, decide_eq_true_eq] at hslash
  rcases hslash with rfl | rfl <;> exact absurd hc (by decide)

/-- A scheme of the web is read up to the colon behind it. -/
theorem readScheme_web (h : Web scheme) (rest : List Char) :
    readScheme (scheme ++ ':' :: rest) = some (scheme, rest) := by
  rcases h with rfl | rfl <;> rfl

/-- All that stands behind the colon of an address is read back: two slashes, the authority, the
path, and query and fragment. -/
theorem readHierarchy_text (hspecial : isSpecial scheme = true) (ha : a.Normal scheme)
    (hne : ss ≠ []) (hss : ∀ s ∈ ss, Segment s)
    (hquery : ∀ q ∈ query, Percent.Encoded (Percent.keepQuery true) q)
    (hfragment : ∀ f ∈ fragment, Percent.Encoded Percent.keepFragment f) :
    readHierarchy scheme (authorityText a ++ (pathText true (.segments ss) ++
      (partText '?' query ++ partText '#' fragment))) =
        .ok ⟨scheme, some a, .segments ss, query, fragment⟩ := by
  have hfront := authorityFront_append ha (t := pathText true (.segments ss) ++
    (partText '?' query ++ partText '#' fragment)) (by
      rw [pathText_segments hne]
      rintro c ⟨⟩
      rfl)
  have hpath : ∀ c ∈ pathText true (.segments ss), c ≠ '?' ∧ c ≠ '#' :=
    fun c hc => (of_mem_pathText hss hc).2
  rw [readHierarchy, hspecial, hfront, readAuthority_authorityText hspecial ha, List.drop_left,
    splitPathEnd_append hpath fun c hc => head_tail hc]
  show (.ok ⟨scheme, some a, readPath true (pathText true (.segments ss)),
    (readTail true (partText '?' query ++ partText '#' fragment)).1,
    (readTail true (partText '?' query ++ partText '#' fragment)).2⟩ : Except UrlError Url) = _
  rw [readTail_tail hquery hfragment, readPath_pathText hne hss]

/-- An address is read back from its text. -/
theorem Normal.parseChars_chars (h : u.Normal) : parseChars u.chars = .ok u := by
  obtain ⟨scheme, authority, path, query, fragment⟩ := u
  obtain ⟨hweb, ⟨a, rfl, ha⟩, ⟨ss, rfl, hne, hss⟩, hquery, hfragment⟩ := h
  obtain ⟨hspecial, hfile⟩ := special_of_web hweb
  have hchars : chars ⟨scheme, some a, .segments ss, query, fragment⟩ =
    scheme ++ ':' :: '/' :: '/' ::
      (authorityText a ++
        (pathText true (.segments ss) ++ (partText '?' query ++ partText '#' fragment))) := by
    simp [chars]
  have hgraphic : ∀ c ∈ chars ⟨scheme, some a, .segments ss, query, fragment⟩, 32 < c.toNat := by
    rw [hchars]
    simp only [List.forall_mem_append, List.forall_mem_cons]
    exact ⟨graphic_web hweb, by decide, by decide, by decide,
      fun c hc => (of_mem_authorityText ha hc).1,
      fun c hc => (of_mem_pathText hss hc).1,
      graphic_partText (by decide) fun q hq c hc => ((hquery q hq).query c hc).1,
      graphic_partText (by decide) fun f hf => (hfragment f hf).fragment⟩
  rw [parseChars, clean_eq hgraphic, hchars, readScheme_web hweb]
  dsimp only
  rw [if_neg hfile, if_pos hspecial, List.dropWhile_cons_of_pos rfl, List.dropWhile_cons_of_pos rfl,
    dropWhile_slashes ha, readHierarchy_text hspecial ha hne hss hquery hfragment]

end Url

end Assay
