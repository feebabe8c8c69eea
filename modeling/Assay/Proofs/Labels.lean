import Assay.Url.Punycode

/-
  Labels are read back from their form in basic Latin letters.

  The written form of a label has its basic Latin characters in front, and then digits that tell of
  the other ones.  The writer goes through these in the order of their code points, in one pass over
  the label for each code point, and tells of each character how far it lies behind the last one,
  counted over all places of all passes.  The reader puts the characters back one by one.
  Thresholds for the digits change with every character, in the same way on both sides.

  The proof ties the two together at every step.  `Punycode.Reading` is where the reader stands, and
  `Leads` says that some digits lead it from one state to another one, whatever stands behind them.

  1. Differences.  A number is written in digits and read back with any weight and any text behind
     it (`readNumber_writeNumber`, by induction on the fuel), since a digit that is not the last one
     is at least its threshold.  So a difference leads to the character that it stands for, put into
     its place (`leads_writeNumber`).

  2. One pass.  While the characters of one code point are written, `Passing` is the invariant: the
     label that has been read so far holds what has been passed, and the distance from the place
     where the reader stands is the one that has been counted.  `Passing.step` is one character of
     the label, `Passing.run` the rest of a pass.

  3. All passes.  Between two passes nothing is read, but the distance grows by one length of the
     label for each code point that is passed over (`Passing.skip`), and behind a pass everything up
     to its code point has been read (`Passing.next`).  `leads_passes` is the induction on the code
     points.

  4. Labels.  `decode_encode` starts from the basic Latin characters and ends with the whole label.
     `mem_encode` says what characters the written form has, which the readers of names ask for.
-/

namespace Assay.Punycode

/-! ## Differences -/

/-- A digit as it is written. -/
def Digit (c : Char) : Prop := ∃ d < 36, c = digitChar d

/-- A digit is read back. -/
theorem digitValue_digitChar : ∀ d < 36, digitValue (digitChar d) = some d := by decide

/-- No digit is a hyphen. -/
theorem digit_ne_hyphen {c : Char} (h : Digit c) : c ≠ '-' := by
  have hall : ∀ d < 36, digitChar d ≠ '-' := by decide
  obtain ⟨d, hd, rfl⟩ := h
  exact hall d hd

/-- A threshold is at least one, and at most the number of letters. -/
theorem threshold_bounds (k bias : Nat) : 1 ≤ threshold k bias ∧ threshold k bias ≤ 26 := by
  unfold threshold
  split
  · omega
  · split <;> omega

/-- The digits of a number, as far as they are not the last one. -/
theorem digit_parts {t q : Nat} (ht : 1 ≤ t ∧ t ≤ 26) (hq : t ≤ q) :
    t + (q - t) % (36 - t) < 36 ∧ (q - t) / (36 - t) < q ∧
      t + (q - t) % (36 - t) + (q - t) / (36 - t) * (36 - t) = q := by
  have hmod : (q - t) % (36 - t) < 36 - t := Nat.mod_lt _ (by omega)
  have hdiv : (q - t) / (36 - t) ≤ q - t := Nat.div_le_self _ _
  have hsum : (q - t) % (36 - t) + (q - t) / (36 - t) * (36 - t) = q - t := Nat.mod_add_div' _ _
  omega

/-- A number is written in digits, and read back with any weight and any text behind it.  Induction
on the fuel, which exceeds the number. -/
theorem readNumber_writeNumber (bias : Nat) {fuel q : Nat} (h : q < fuel) (k : Nat) :
    (∀ c ∈ writeNumber bias fuel k q, Digit c) ∧ ∀ (weight sum : Nat) (rest : List Char),
      readNumber bias (writeNumber bias fuel k q ++ rest) k weight sum =
        some (sum + q * weight, rest) := by
  induction fuel generalizing q k with
  | zero => omega
  | succ fuel ih =>
    have ht := threshold_bounds k bias
    rw [writeNumber]
    split
    next hlast =>
      refine ⟨fun c hc => ⟨q, by omega, List.mem_singleton.mp hc⟩, fun weight sum rest => ?_⟩
      rw [List.singleton_append, readNumber, digitValue_digitChar q (by omega)]
      exact if_pos hlast
    next hmore =>
      obtain ⟨hdigit, hless, hvalue⟩ := digit_parts ht (Nat.le_of_not_lt hmore)
      obtain ⟨hdigits, hread⟩ :=
        ih (by omega : (q - threshold k bias) / (36 - threshold k bias) < fuel) (k + 36)
      refine ⟨fun c hc => ?_, fun weight sum rest => ?_⟩
      · rcases List.mem_cons.mp hc with rfl | hc
        · exact ⟨_, hdigit, rfl⟩
        · exact hdigits c hc
      · rw [List.cons_append, readNumber, digitValue_digitChar _ hdigit]
        show (if _ < threshold k bias then _ else _) = _
        rw [if_neg (by omega), hread]
        -- The digits weigh together what the number weighs.
        have hweights :
            (q - threshold k bias) / (36 - threshold k bias) *
                (weight * (36 - threshold k bias)) =
              (q - threshold k bias) / (36 - threshold k bias) * (36 - threshold k bias) *
                weight := by
          rw [Nat.mul_comm weight, Nat.mul_assoc]
        rw [hweights, Nat.add_assoc, ← Nat.add_mul, hvalue]

/-- Every number has a digit. -/
theorem writeNumber_ne_nil (bias : Nat) (fuel k q : Nat) :
    writeNumber bias (fuel + 1) k q ≠ [] := by
  rw [writeNumber]
  split <;> exact List.cons_ne_nil _ _

/-! ## States of reading -/

/-- Where reading stands: the code point and the place in the label that the next difference counts
from, the thresholds, and the label so far. -/
structure Reading where
  n : Nat
  place : Nat
  bias : Nat
  label : List Char

/-- Reading some digits leads from one state to another one. -/
def Leads (s : List Char) (a b : Reading) : Prop :=
  (∀ c ∈ s, Digit c) ∧ ∃ steps ≤ s.length, ∀ (fuel : Nat) (rest : List Char),
    readFrom (fuel + steps) (s ++ rest) a.n a.place a.bias a.label =
      readFrom fuel rest b.n b.place b.bias b.label

/-- No digits lead nowhere. -/
theorem Leads.refl (a : Reading) : Leads [] a a :=
  ⟨fun _ h => absurd h List.not_mem_nil, 0, Nat.le_refl 0, fun _ _ => rfl⟩

/-- Digits behind others lead on. -/
theorem Leads.trans {s t : List Char} {a b c : Reading} (h : Leads s a b) (h' : Leads t b c) :
    Leads (s ++ t) a c := by
  obtain ⟨hdigits, steps, hsteps, hread⟩ := h
  obtain ⟨hdigits', steps', hsteps', hread'⟩ := h'
  refine ⟨fun d hd => (List.mem_append.mp hd).elim (hdigits d) (hdigits' d), steps' + steps, ?_,
    fun fuel rest => ?_⟩
  · rw [List.length_append]
    omega
  · rw [← Nat.add_assoc, List.append_assoc, hread, hread']

/-- A character that is put in behind a text stands there. -/
theorem insertIdx_append_length (front back : List Char) (c : Char) :
    (front ++ back).insertIdx front.length c = front ++ c :: back := by
  induction front with
  | nil => rfl
  | cons d front ih =>
    rw [List.cons_append, List.length_cons, List.insertIdx_succ_cons, ih, List.cons_append]

/-- A difference that leads to a character puts it into its place. -/
theorem leads_writeNumber {n place delta : Nat} (bias : Nat) {front back : List Char} {c : Char}
    (hn : n ≤ c.toNat)
    (h : place + delta = (c.toNat - n) * ((front ++ back).length + 1) + front.length) :
    Leads (writeNumber bias (delta + 1) 36 delta) ⟨n, place, bias, front ++ back⟩
      ⟨c.toNat, front.length + 1, adapt delta ((front ++ back).length + 1) (place == 0),
        front ++ c :: back⟩ := by
  obtain ⟨hdigits, hread⟩ := readNumber_writeNumber bias (Nat.lt_succ_self delta) 36
  have hpositive := List.length_pos_iff.mpr (writeNumber_ne_nil bias delta 36 delta)
  refine ⟨hdigits, 1, hpositive, fun fuel rest => ?_⟩
  have hsome : (writeNumber bias (delta + 1) 36 delta ++ rest).isEmpty = false := by
    rw [List.isEmpty_eq_false_iff]
    exact List.append_ne_nil_of_left_ne_nil (writeNumber_ne_nil bias delta 36 delta) rest
  have hfront : front.length < (front ++ back).length + 1 := by
    rw [List.length_append]
    omega
  have hdiv : (place + delta) / ((front ++ back).length + 1) = c.toNat - n := by
    rw [h, Nat.mul_comm, Nat.mul_add_div (by omega), Nat.div_eq_of_lt hfront, Nat.add_zero]
  have hmod : (place + delta) % ((front ++ back).length + 1) = front.length := by
    rw [h, Nat.mul_comm, Nat.mul_add_mod, Nat.mod_eq_of_lt hfront]
  have hpoint : n + (c.toNat - n) = c.toNat := by omega
  have hvalid : c.toNat.isValidChar := c.valid
  rw [readFrom, hsome, if_neg Bool.false_ne_true, hread]
  dsimp only [Option.bind_eq_bind, Option.bind_some]
  rw [Nat.zero_add, Nat.mul_one, hdiv, hmod, hpoint, Char.ofNat_toNat]
  rw [decide_eq_true hvalid, insertIdx_append_length]
  rfl

/-! ## One pass -/

/-- The characters up to a code point. -/
def upTo (m : Nat) (s : List Char) : List Char := s.filter fun c => c.toNat ≤ m

/-- The characters below a code point. -/
def below (m : Nat) (s : List Char) : List Char := s.filter fun c => c.toNat < m

/-- The characters of the code point `m` are being written, and those of `before` have been passed.
Reading has put in every character that is written by then, and it is as far away from here as has
been counted. -/
structure Passing (basic m : Nat) (before behind : List Char) (w : Writing) (r : Reading) :
    Prop where
  label : r.label = upTo m before ++ below m behind
  bias : w.bias = r.bias
  count : w.count = r.label.length
  le : r.n ≤ m
  distance : r.place + w.delta = (m - r.n) * (w.count + 1) + (upTo m before).length
  first : (w.count == basic) = (r.place == 0)
  basic_le : basic ≤ w.count

section Pass

variable {basic m : Nat} {before behind : List Char} {w : Writing} {r : Reading} {c : Char}

/-- What is written for one character, if anything, is read as this character in its place. -/
theorem Passing.step (h : Passing basic m before (c :: behind) w r) :
    ∃ s r', (passChar basic m w c).text = w.text ++ s ∧ Leads s r r' ∧
      Passing basic m (before ++ [c]) behind (passChar basic m w c) r' := by
  have hupTo : upTo m (before ++ [c]) = upTo m before ++ upTo m [c] := List.filter_append _ _
  have hbelow : below m (c :: behind) = below m [c] ++ below m behind := List.filter_append [c] _
  have hlabel := h.label
  rw [hbelow] at hlabel
  rcases Nat.lt_trichotomy c.toNat m with hlt | heq | hgt
  · -- It has been read before, and is passed over.
    have hpass : passChar basic m w c = { w with delta := w.delta + 1 } := if_pos hlt
    have hone : upTo m [c] = [c] ∧ below m [c] = [c] := by simp [upTo, below, hlt, Nat.le_of_lt hlt]
    rw [hone.2] at hlabel
    refine ⟨[], r, ?_, .refl r, ⟨?_, ?_, ?_, h.le, ?_, ?_, ?_⟩⟩
    · rw [hpass, List.append_nil]
    · rw [hlabel, hupTo, hone.1, List.append_assoc]
    · rw [hpass, h.bias]
    · rw [hpass, h.count]
    · have hdistance := h.distance
      rw [hpass, hupTo, hone.1, List.length_append, List.length_singleton]
      show r.place + (w.delta + 1) = (m - r.n) * (w.count + 1) + _
      omega
    · rw [hpass, h.first]
    · rw [hpass]
      exact h.basic_le
  · -- It is written here.
    subst heq
    have hpass : passChar basic c.toNat w c =
        ⟨w.text ++ writeNumber w.bias (w.delta + 1) 36 w.delta, 0,
          adapt w.delta (w.count + 1) (w.count == basic), w.count + 1⟩ := by
      rw [passChar, if_neg (Nat.lt_irrefl _), if_pos rfl]
    have hone : upTo c.toNat [c] = [c] ∧ below c.toNat [c] = [] := by simp [upTo, below]
    rw [hone.2, List.nil_append] at hlabel
    have hcount := h.count
    have hdistance := h.distance
    rw [hcount, hlabel] at hdistance
    have hleads := leads_writeNumber r.bias h.le hdistance
    rw [← hlabel, ← hcount, ← h.first] at hleads
    refine ⟨_, _, by rw [hpass, h.bias], hleads, ⟨?_, ?_, ?_, ?_, ?_, ?_, ?_⟩⟩
    · rw [hupTo, hone.1, List.append_assoc]
      rfl
    · rw [hpass]
    · rw [hpass, hcount, hlabel]
      simp only [List.length_append, List.length_cons]
      omega
    · exact Nat.le_refl _
    · rw [hpass, hupTo, hone.1]
      simp
    · have hbasic := h.basic_le
      rw [hpass]
      simp
      omega
    · have hbasic := h.basic_le
      rw [hpass]
      exact Nat.le_succ_of_le hbasic
  · -- Its turn comes later.
    have hpass : passChar basic m w c = w := by
      rw [passChar, if_neg (Nat.lt_asymm hgt), if_neg (Nat.ne_of_gt hgt)]
    have hone : upTo m [c] = [] ∧ below m [c] = [] := by
      simp [upTo, below, Nat.not_le.mpr hgt, Nat.le_of_lt hgt]
    rw [hone.2, List.nil_append] at hlabel
    refine ⟨[], r, ?_, .refl r, ⟨?_, ?_, ?_, h.le, ?_, ?_, ?_⟩⟩
    · rw [hpass, List.append_nil]
    · rw [hlabel, hupTo, hone.1, List.append_nil]
    · rw [hpass, h.bias]
    · rw [hpass, h.count]
    · rw [hpass, hupTo, hone.1, List.append_nil]
      exact h.distance
    · rw [hpass, h.first]
    · rw [hpass]
      exact h.basic_le

/-- The rest of a pass.  Induction on the characters that are still to be passed. -/
theorem Passing.run (h : Passing basic m before behind w r) :
    ∃ s r', (behind.foldl (passChar basic m) w).text = w.text ++ s ∧ Leads s r r' ∧
      Passing basic m (before ++ behind) [] (behind.foldl (passChar basic m) w) r' := by
  induction behind generalizing before w r with
  | nil => exact ⟨[], r, (List.append_nil _).symm, .refl r, by rwa [List.append_nil]⟩
  | cons c behind ih =>
    obtain ⟨s, r', htext, hleads, hpassing⟩ := h.step
    obtain ⟨s', r'', htext', hleads', hpassing'⟩ := ih hpassing
    refine ⟨s ++ s', r'', ?_, hleads.trans hleads', ?_⟩
    · rw [List.foldl_cons, htext', htext, List.append_assoc]
    · rw [List.append_assoc] at hpassing'
      exact hpassing'

end Pass

/-! ## All passes -/

section Passes

variable {label : List Char} {basic n : Nat} {w : Writing} {r : Reading}

/-- Between two passes nothing is read, but the distance grows by as many labels as there are code
points between them. -/
theorem Passing.skip {m : Nat} (h : Passing basic n [] label w r) (hnm : n ≤ m)
    (hnone : ∀ c ∈ label, n ≤ c.toNat → m ≤ c.toNat) :
    Passing basic m [] label { w with delta := w.delta + (m - n) * (w.count + 1) } r := by
  have hbelow : below n label = below m label := by
    refine List.filter_congr fun c hc => ?_
    have hc := hnone c hc
    rw [decide_eq_decide]
    omega
  refine ⟨by rw [h.label, hbelow]; rfl, h.bias, h.count, Nat.le_trans h.le hnm, ?_, h.first,
    h.basic_le⟩
  have hsum : (n - r.n) * (w.count + 1) + (m - n) * (w.count + 1) = (m - r.n) * (w.count + 1) := by
    have hle := h.le
    rw [← Nat.add_mul, show n - r.n + (m - n) = m - r.n by omega]
  have hdistance : r.place + w.delta = (n - r.n) * (w.count + 1) + 0 := h.distance
  show r.place + (w.delta + (m - n) * (w.count + 1)) = (m - r.n) * (w.count + 1) + 0
  omega

/-- Behind a pass everything up to its code point has been read. -/
theorem Passing.next {m : Nat} (h : Passing basic m label [] w r) :
    Passing basic (m + 1) [] label { w with delta := w.delta + 1 } r := by
  have hlabel : r.label = upTo m label := by rw [h.label]; exact List.append_nil _
  have hbelow : upTo m label = below (m + 1) label := by
    refine List.filter_congr fun c _ => ?_
    rw [decide_eq_decide]
    omega
  refine ⟨hbelow ▸ hlabel, h.bias, h.count, Nat.le_succ_of_le h.le, ?_, h.first, h.basic_le⟩
  have hle := h.le
  have hcount := h.count
  have hdistance := h.distance
  rw [hlabel] at hcount
  rw [← hcount] at hdistance
  show r.place + (w.delta + 1) = (m + 1 - r.n) * (w.count + 1) + 0
  rw [show m + 1 - r.n = m - r.n + 1 by omega, Nat.succ_mul]
  omega

/-- What is written in all passes leads to the whole label.  Induction on the code points that are
still to be written, in their order. -/
theorem leads_passes {ms : List Nat} (h : Passing basic n [] label w r)
    (hsorted : ms.Pairwise (· < ·)) (hle : ∀ m ∈ ms, n ≤ m)
    (hall : ∀ c ∈ label, n ≤ c.toNat → c.toNat ∈ ms) :
    ∃ s r', (writeFrom label basic ms n w).text = w.text ++ s ∧ Leads s r r' ∧
    r'.label = label := by
  induction ms generalizing n w r with
  | nil =>
    refine ⟨[], r, (List.append_nil _).symm, .refl r, ?_⟩
    have hbelow : below n label = label := by
      refine List.filter_eq_self.mpr fun c hc => decide_eq_true ?_
      exact Nat.lt_of_not_le fun hn => absurd (hall c hc hn) List.not_mem_nil
    rw [h.label, hbelow]
    rfl
  | cons m ms ih =>
    obtain ⟨hfirst, hrest⟩ := List.pairwise_cons.mp hsorted
    have hnone : ∀ c ∈ label, n ≤ c.toNat → m ≤ c.toNat := by
      intro c hc hn
      rcases List.mem_cons.mp (hall c hc hn) with heq | hmem
      · exact Nat.le_of_eq heq.symm
      · exact Nat.le_of_lt (hfirst _ hmem)
    obtain ⟨s, r', htext, hleads, hpassing⟩ := (h.skip (hle m List.mem_cons_self) hnone).run
    have hlater : ∀ c ∈ label, m + 1 ≤ c.toNat → c.toNat ∈ ms := by
      intro c hc hm
      have hn := hle m List.mem_cons_self
      exact (List.mem_cons.mp (hall c hc (by omega))).resolve_left (by omega)
    obtain ⟨s', r'', htext', hleads', hlabel⟩ := ih hpassing.next hrest hfirst hlater
    refine ⟨s ++ s', r'', ?_, hleads.trans hleads', hlabel⟩
    rw [writeFrom]
    exact htext'.trans (by rw [← List.append_assoc]; exact congrArg (· ++ s') htext)

end Passes

/-! ## Labels -/

/-- A number is put in among others. -/
theorem mem_insertNat {n m : Nat} {ns : List Nat} : m ∈ insertNat n ns ↔ m = n ∨ m ∈ ns := by
  induction ns with
  | nil => simp [insertNat]
  | cons k ns ih =>
    rw [insertNat]
    split
    · simp
    · split
      next heq => simp [heq]
      next => rw [List.mem_cons, ih, List.mem_cons, or_left_comm]

/-- Numbers stay in order when one is put in. -/
theorem sorted_insertNat {n : Nat} {ns : List Nat} (h : ns.Pairwise (· < ·)) :
    (insertNat n ns).Pairwise (· < ·) := by
  induction ns with
  | nil => simp [insertNat]
  | cons k ns ih =>
    obtain ⟨hfirst, hrest⟩ := List.pairwise_cons.mp h
    rw [insertNat]
    split
    next hlt =>
      refine List.pairwise_cons.mpr ⟨fun m hm => ?_, h⟩
      rcases List.mem_cons.mp hm with rfl | hm
      · exact hlt
      · exact Nat.lt_trans hlt (hfirst m hm)
    next hnlt =>
      split
      next => exact h
      next hne =>
        refine List.pairwise_cons.mpr ⟨fun m hm => ?_, ih hrest⟩
        rcases mem_insertNat.mp hm with rfl | hm
        · omega
        · exact hfirst m hm

/-- The code points that are written with differences, in their order. -/
def others (label : List Char) : List Nat :=
  (label.filter fun c => 128 ≤ c.toNat).foldr (fun c ns => insertNat c.toNat ns) []

/-- The basic Latin characters of a label, with a hyphen behind them if there are any. -/
def front (label : List Char) : List Char :=
  if (label.filter fun c => c.toNat < 128).isEmpty then [] else
    (label.filter fun c => c.toNat < 128) ++ ['-']

/-- The other code points are those of the characters that are not basic Latin, in their order. -/
theorem others_spec (label : List Char) : (others label).Pairwise (· < ·) ∧
    ∀ m, m ∈ others label ↔ ∃ c ∈ label, 128 ≤ c.toNat ∧ m = c.toNat := by
  have hfold : ∀ cs : List Char, (cs.foldr (fun c ns => insertNat c.toNat ns) []).Pairwise (· < ·) ∧
      ∀ m, m ∈ cs.foldr (fun c ns => insertNat c.toNat ns) [] ↔ ∃ c ∈ cs, m = c.toNat := by
    intro cs
    induction cs with
    | nil => simp
    | cons c cs ih =>
      refine ⟨sorted_insertNat ih.1, fun m => ?_⟩
      rw [List.foldr_cons, mem_insertNat, ih.2]
      simp
  refine ⟨(hfold _).1, fun m => ((hfold _).2 m).trans ?_⟩
  simp [and_assoc]

/-- The digits of a label lead to it from its basic Latin characters. -/
theorem leads_encode (label : List Char) : ∃ s r', encode label = front label ++ s ∧
    Leads s ⟨128, 0, 72, label.filter fun c => c.toNat < 128⟩ r' ∧ r'.label = label := by
  obtain ⟨hsorted, hmem⟩ := others_spec label
  have hstart : Passing (label.filter fun c => c.toNat < 128).length 128 [] label
      ⟨[], 0, 72, (label.filter fun c => c.toNat < 128).length⟩
      ⟨128, 0, 72, label.filter fun c => c.toNat < 128⟩ :=
    ⟨rfl, rfl, rfl, Nat.le_refl _, by simp [upTo], by simp, Nat.le_refl _⟩
  have hle : ∀ m ∈ others label, 128 ≤ m := by
    intro m hm
    obtain ⟨c, -, hc, rfl⟩ := (hmem m).mp hm
    exact hc
  obtain ⟨s, r', htext, hleads, hlabel⟩ :=
    leads_passes hstart hsorted hle fun c hc hn => (hmem _).mpr ⟨c, hc, hn, rfl⟩
  refine ⟨s, r', ?_, hleads, hlabel⟩
  rw [List.nil_append] at htext
  rw [encode, ← htext]
  rfl

/-- A label is read back from its form in basic Latin letters. -/
theorem decode_encode (label : List Char) : decode (encode label) = some label := by
  obtain ⟨s, r', hencode, ⟨hdigits, steps, hsteps, hread⟩, hlabel⟩ := leads_encode label
  have hhyphen : ∀ c ∈ s.reverse, (decide (c ≠ '-')) = true := fun c hc =>
    decide_eq_true (digit_ne_hyphen (hdigits c (List.mem_reverse.mp hc)))
  -- The last hyphen, if there is one, stands behind the basic Latin characters.
  have hback : (encode label).reverse.takeWhile (fun c => decide (c ≠ '-')) = s.reverse := by
    rw [hencode, List.reverse_append, List.takeWhile_append_of_pos hhyphen, front]
    split <;> simp
  have hfront : ((encode label).reverse.drop (s.reverse.length + 1)).reverse =
      label.filter fun c => c.toNat < 128 := by
    rw [hencode, List.reverse_append, ← List.drop_drop, List.drop_left, front]
    split
    next hempty => simp [List.isEmpty_iff.mp hempty]
    next => simp
  have hfuel : (encode label).length + 1 = (encode label).length + 1 - steps + steps := by
    rw [hencode, List.length_append]
    omega
  rw [decode, hback, hfront, List.reverse_reverse, hfuel]
  have hwhole := hread ((encode label).length + 1 - steps) []
  rw [List.append_nil] at hwhole
  rw [hwhole, hlabel]
  have hleft : ∃ k, (encode label).length + 1 - steps = k + 1 := by
    refine ⟨(encode label).length - steps, ?_⟩
    rw [hencode, List.length_append]
    omega
  obtain ⟨k, hk⟩ := hleft
  rw [hk]
  rfl

/-- The characters of a label that are written as they are, hyphens and digits. -/
theorem mem_encode {label : List Char} {c : Char} (h : c ∈ encode label) :
    (c ∈ label ∧ c.toNat < 128) ∨ c = '-' ∨ Digit c := by
  obtain ⟨s, r', hencode, ⟨hdigits, -⟩, -⟩ := leads_encode label
  rw [hencode, List.mem_append] at h
  rcases h with h | h
  · rw [front] at h
    split at h
    next => exact absurd h List.not_mem_nil
    next =>
      rcases List.mem_append.mp h with h | h
      · exact .inl (by simpa using h)
      · exact .inr (.inl (List.mem_singleton.mp h))
  · exact .inr (.inr (hdigits c h))

end Assay.Punycode
