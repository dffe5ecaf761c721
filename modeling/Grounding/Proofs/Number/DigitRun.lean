import Grounding.Number.Numeral
import Grounding.Proofs.Text.Trimming
import Mathlib.Data.List.TakeWhile
import Mathlib.Tactic.SplitIfs

/-!
# Numerals that are nothing but digits

A run of digits in the wider sense is read as an integer unless one of its characters has no value in a
numeral or there are too many of them.  Whatever is read has few enough digits to be written again.
-/

namespace Grounding

namespace Text

/-! ## Character classes -/

/-- Two classes given by ranges that do not overlap have no character in common. -/
theorem not_inRanges_of_disjoint {a b : List (Nat × Nat)} {n : Nat}
    (hab : ∀ r ∈ a, ∀ s ∈ b, r.2 < s.1 ∨ s.2 < r.1) (ha : inRanges a n = true) :
    inRanges b n = false := by
  simp only [inRanges, List.any_eq_true, Bool.and_eq_true, decide_eq_true_eq] at ha
  obtain ⟨r, hr, hlow, hhigh⟩ := ha
  simp only [inRanges, List.any_eq_false, Bool.and_eq_true, decide_eq_true_eq]
  intro s hs hn
  have := hab r hr s hs
  omega

/-- The digits of all scripts and the ornamental ones, as one class. -/
def digitRanges : List (Nat × Nat) :=
  digitZeros.map (fun z => (z, z + 9)) ++ ornamentalDigitRanges

theorem digitValue?_isSome (c : Char) :
    (digitValue? c).isSome = inRanges (digitZeros.map fun z => (z, z + 9)) c.toNat := by
  rw [Bool.eq_iff_iff]
  simp [digitValue?, inRanges]

theorem isDigit_eq_inRanges (c : Char) : isDigit c = inRanges digitRanges c.toNat := by
  simp [isDigit, digitRanges, digitValue?_isSome, inRanges, List.any_append]

theorem digitRanges_disjoint_whiteSpace :
    ∀ r ∈ digitRanges, ∀ s ∈ whiteSpaceRanges, r.2 < s.1 ∨ s.2 < r.1 := by
  decide

theorem isWhiteSpace_of_isDigit {c : Char} (h : isDigit c = true) : isWhiteSpace c = false := by
  rw [isDigit_eq_inRanges] at h
  exact not_inRanges_of_disjoint digitRanges_disjoint_whiteSpace h

theorem digitValue?_le {c : Char} {d : Nat} (h : digitValue? c = some d) : d ≤ 9 := by
  simp only [digitValue?, Option.map_eq_some_iff] at h
  obtain ⟨z, hz, rfl⟩ := h
  have := List.find?_some hz
  simp only [Bool.and_eq_true, decide_eq_true_eq] at this
  omega

theorem isDigitRun_iff {s : List Char} :
    isDigitRun s = true ↔ s ≠ [] ∧ ∀ c ∈ s, isDigit c = true := by
  simp [isDigitRun]

theorem not_mem_of_isDigitRun {s : List Char} {c : Char} (h : isDigitRun s = true)
    (hc : isDigit c = false) : c ∉ s := fun hmem =>
  Bool.false_ne_true (hc.symm.trans ((isDigitRun_iff.1 h).2 c hmem))

theorem trim_eq_self {p : Char → Bool} {s : List Char} (h : ∀ c ∈ s, p c = false) :
    trim p s = s := by
  apply IsTrimmed.trim_eq_self
  constructor
  · exact fun c hc => h c (List.mem_of_head? hc)
  · exact fun c hc => h c (List.mem_of_getLast? hc)

end Text

/-! ## Taking digits -/

namespace Numeral

section Taking

variable (value? : Char → Option Nat)

/-- Where no underscore stands, taking digits stops at the first character without a value. -/
theorem takeDigits_eq {s : List Char} (hs : '_' ∉ s) (taken : List Nat) :
    takeDigits value? s taken =
      (((s.takeWhile fun c => (value? c).isSome).filterMap value?).reverse ++ taken,
        s.dropWhile fun c => (value? c).isSome) := by
  induction s generalizing taken with
  | nil => simp [takeDigits]
  | cons c rest ih =>
      have hmark : c ≠ '_' := fun h => hs (by simp [h])
      have hrest : '_' ∉ rest := fun h => hs (List.mem_cons_of_mem c h)
      cases hc : value? c with
      | some d => simp [takeDigits, hc, ih hrest]
      | none => cases rest <;> simp [takeDigits, hc, hmark]

/-- Every digit taken is the value of some character, or was there before. -/
theorem mem_takeDigits {s : List Char} {taken : List Nat} {d : Nat}
    (hd : d ∈ (takeDigits value? s taken).1) : d ∈ taken ∨ ∃ c, value? c = some d := by
  fun_induction takeDigits value? s taken with
  | case1 taken => exact .inl hd
  | case2 c rest taken e hc ih =>
      rcases ih hd with h | h
      · rcases List.mem_cons.1 h with rfl | h
        · exact .inr ⟨c, hc⟩
        · exact .inl h
      · exact .inr h
  | case3 => exact .inl hd
  | case4 c taken hc next rest h ih => exact ih hd
  | case5 => exact .inl hd

end Taking

theorem foldl_digits_lt (digits : List Nat) (h : ∀ d ∈ digits, d ≤ 9) (start : Nat) :
    digits.foldl (fun n d => 10 * n + d) start < (start + 1) * Nat.pow 10 digits.length := by
  induction digits generalizing start with
  | nil => simp
  | cons d rest ih =>
      have hd : d ≤ 9 := h d (by simp)
      have hrest := ih (fun e he => h e (by simp [he])) (10 * start + d)
      have hstep : 10 * start + d + 1 ≤ (start + 1) * 10 := by omega
      calc (d :: rest).foldl (fun n d => 10 * n + d) start
          < (10 * start + d + 1) * Nat.pow 10 rest.length := hrest
        _ ≤ (start + 1) * 10 * Nat.pow 10 rest.length := Nat.mul_le_mul_right _ hstep
        _ = (start + 1) * Nat.pow 10 (d :: rest).length := by
            rw [List.length_cons, Nat.mul_assoc, Nat.mul_comm 10]
            rfl

theorem ofDigits_lt {digits : List Nat} (h : ∀ d ∈ digits, d ≤ 9) :
    ofDigits digits < Nat.pow 10 digits.length := by
  have hfold := foldl_digits_lt digits h 0
  rwa [Nat.zero_add, Nat.one_mul] at hfold

theorem ofDigits_ascii_lt (digits : List Char) :
    ofDigits (digits.map fun c => (Text.asciiDigitValue? c).getD 0) < Nat.pow 10 digits.length := by
  have hdigits : ∀ d ∈ digits.map (fun c => (Text.asciiDigitValue? c).getD 0), d ≤ 9 := by
    intro d hd
    obtain ⟨c, -, rfl⟩ := List.mem_map.1 hd
    unfold Text.asciiDigitValue?
    split_ifs with hrange
    · simp only [Bool.and_eq_true, decide_eq_true_eq] at hrange
      rw [Option.getD_some]
      omega
    · exact Nat.zero_le 9
  have hlt := ofDigits_lt hdigits
  rwa [List.length_map] at hlt

theorem natAbs_signed (negative : Bool) (n : Nat) : (signed negative n).natAbs = n := by
  cases negative <;> simp [signed]

end Numeral

/-! ## Reading and writing -/

/-- What has been read has few enough digits to be written. -/
theorem natAbs_lt_of_readInteger {text : String} {n : Int} (h : readInteger text = .ok n) :
    n.natAbs < Nat.pow 10 numeralDigitLimit := by
  unfold readInteger at h
  dsimp only at h
  generalize numeralDigitLimit = limit at h ⊢
  generalize hbody : (Numeral.takeSign (Text.trim Text.isWhiteSpace text.toList)).2 = body at h
  have hdigits : ∀ d ∈ (Numeral.takeDigits Text.digitValue? body []).1.reverse, d ≤ 9 := by
    intro d hd
    rcases Numeral.mem_takeDigits Text.digitValue? (List.mem_reverse.1 hd) with hd | ⟨c, hc⟩
    · simp at hd
    · exact Text.digitValue?_le hc
  split_ifs at h with _ hlong
  have hlength := Numeral.ofDigits_lt hdigits
  rw [List.length_reverse] at hlength
  obtain rfl := Except.ok.inj h
  rw [Numeral.natAbs_signed]
  exact Nat.lt_of_lt_of_le hlength
    (Nat.pow_le_pow_right (by decide) (Nat.le_of_not_lt hlong))

theorem writeInteger_of_lt {n : Int} (h : n.natAbs < Nat.pow 10 numeralDigitLimit) :
    writeInteger n = .ok (toString n) := by
  rw [writeInteger, if_neg (Nat.not_le.2 h)]

theorem natAbs_lt_of_few_digits {n : Int} {digits : Nat} (hdigits : digits ≤ numeralDigitLimit)
    (h : n.natAbs < Nat.pow 10 digits) : n.natAbs < Nat.pow 10 numeralDigitLimit := by
  generalize numeralDigitLimit = limit at hdigits ⊢
  exact Nat.lt_of_lt_of_le h (Nat.pow_le_pow_right (by decide) hdigits)

/-- Five digits can always be written. -/
theorem natAbs_lt_of_five_digits {n : Int} (h : n.natAbs < 100000) :
    n.natAbs < Nat.pow 10 numeralDigitLimit :=
  natAbs_lt_of_few_digits (show 5 ≤ numeralDigitLimit by decide) h

/-- An integer can be written exactly when its digits are few enough. -/
theorem writeInteger_ok_iff (n : Int) :
    (∃ text, writeInteger n = .ok text) ↔ n.natAbs < Nat.pow 10 numeralDigitLimit := by
  unfold writeInteger
  generalize Nat.pow 10 numeralDigitLimit = bound
  split_ifs with hlong
  · exact iff_of_false (by simp) (Nat.not_lt.2 hlong)
  · exact iff_of_true ⟨_, rfl⟩ (Nat.lt_of_not_le hlong)

/-- Digits that all have a value are taken to the end. -/
theorem Numeral.takeDigits_values {s : List Char}
    (hvalues : ∀ c ∈ s, (Text.digitValue? c).isSome = true) :
    takeDigits Text.digitValue? s [] = ((s.filterMap Text.digitValue?).reverse, []) := by
  have hmark : '_' ∉ s := fun h => absurd (hvalues _ h) (by decide)
  rw [takeDigits_eq Text.digitValue? hmark, List.takeWhile_eq_self_iff.2 hvalues,
    List.dropWhile_eq_nil_iff.2 hvalues, List.append_nil]

theorem Numeral.length_filterMap_values {s : List Char}
    (hvalues : ∀ c ∈ s, (Text.digitValue? c).isSome = true) :
    (s.filterMap Text.digitValue?).length = s.length := by
  rw [List.length_filterMap_eq_countP, List.countP_eq_length]
  exact hvalues

/-- A text that is a sign and a few digits is read as the number that they denote. -/
theorem readInteger_of_takeSign {text : String} {negative : Bool} {body : List Char}
    (hsign : Numeral.takeSign (Text.trim Text.isWhiteSpace text.toList) = (negative, body))
    (hne : body ≠ []) (hvalues : ∀ c ∈ body, (Text.digitValue? c).isSome = true)
    (hlength : body.length ≤ numeralDigitLimit) :
    readInteger text =
      .ok (Numeral.signed negative (Numeral.ofDigits (body.filterMap Text.digitValue?))) := by
  have hcount := Numeral.length_filterMap_values hvalues
  have htaken : (body.filterMap Text.digitValue?).isEmpty = false := by
    rw [List.isEmpty_eq_false_iff, ← List.length_pos_iff, hcount]
    exact List.length_pos_iff.2 hne
  unfold readInteger
  rw [hsign]
  dsimp only
  rw [Numeral.takeDigits_values hvalues]
  dsimp only
  rw [List.length_reverse, hcount, List.isEmpty_reverse, htaken, if_neg (by simp),
    if_neg (Nat.not_lt.2 hlength), if_neg (by simp), List.reverse_reverse]

/-- Digits beyond the limit are counted and nothing more. -/
theorem readInteger_of_tooMany {text : String} {negative : Bool} {body : List Char}
    (hsign : Numeral.takeSign (Text.trim Text.isWhiteSpace text.toList) = (negative, body))
    (hvalues : ∀ c ∈ body, (Text.digitValue? c).isSome = true)
    (hlong : numeralDigitLimit < body.length) :
    readInteger text = .error (.tooLong body.length) := by
  unfold readInteger
  rw [hsign]
  dsimp only
  rw [Numeral.takeDigits_values hvalues]
  dsimp only
  rw [List.length_reverse, Numeral.length_filterMap_values hvalues, if_neg (by simp),
    if_pos hlong]

theorem takeSign_digitRun {s : List Char} (hall : ∀ c ∈ s, Text.isDigit c = true) :
    Numeral.takeSign (Text.trim Text.isWhiteSpace s) = (false, s) := by
  rw [Text.trim_eq_self fun c hc => Text.isWhiteSpace_of_isDigit (hall c hc)]
  unfold Numeral.takeSign
  split
  · exact absurd (hall '-' (by simp)) (by decide)
  · exact absurd (hall '+' (by simp)) (by decide)
  · rfl

/-- A run of digits is no integer exactly when one of them has no value or they are too many. -/
theorem readInteger_digitRun {s : List Char} (hs : Text.isDigitRun s = true) :
    (∃ fault, readInteger (String.ofList s) = .error fault) ↔
      (∃ c ∈ s, Text.digitValue? c = none) ∨ numeralDigitLimit < s.length := by
  obtain ⟨hne, hall⟩ := Text.isDigitRun_iff.1 hs
  have hsign : Numeral.takeSign (Text.trim Text.isWhiteSpace (String.ofList s).toList) =
      (false, s) := by
    rw [String.toList_ofList]
    exact takeSign_digitRun hall
  by_cases hdec : ∀ c ∈ s, (Text.digitValue? c).isSome = true
  · have hvalue : ¬ ∃ c ∈ s, Text.digitValue? c = none := by
      rintro ⟨c, hc, hnone⟩
      simpa [hnone] using hdec c hc
    by_cases hlong : numeralDigitLimit < s.length
    · exact iff_of_true ⟨_, readInteger_of_tooMany hsign hdec hlong⟩ (.inr hlong)
    · rw [readInteger_of_takeSign hsign hne hdec (Nat.le_of_not_lt hlong)]
      exact iff_of_false (by simp) (not_or.2 ⟨hvalue, hlong⟩)
  · -- the first character without a value is left over, so nothing is read
    have hmark : '_' ∉ s := fun h => absurd (hall _ h) (by decide)
    have hrest : (s.dropWhile fun c => (Text.digitValue? c).isSome) ≠ [] :=
      fun h => hdec (List.dropWhile_eq_nil_iff.1 h)
    have hvalue : ∃ c ∈ s, Text.digitValue? c = none := by
      simpa using hdec
    refine iff_of_true ?_ (.inl hvalue)
    unfold readInteger
    rw [hsign]
    dsimp only
    rw [Numeral.takeDigits_eq Text.digitValue? hmark]
    dsimp only
    split_ifs with _ _ hbad
    · exact ⟨_, rfl⟩
    · exact ⟨_, rfl⟩
    · exact ⟨_, rfl⟩
    · simp [List.isEmpty_iff, hrest] at hbad

/-- If a run of digits is read, it is as what its digits denote. -/
theorem eq_ofDigits_of_readInteger {s : List Char} {n : Int} (hs : Text.isDigitRun s = true)
    (h : readInteger (String.ofList s) = .ok n) :
    n = Numeral.ofDigits (s.filterMap Text.digitValue?) := by
  obtain ⟨hne, hall⟩ := Text.isDigitRun_iff.1 hs
  have hread : ¬ ((∃ c ∈ s, Text.digitValue? c = none) ∨ numeralDigitLimit < s.length) := by
    rw [← readInteger_digitRun hs, h]
    simp
  obtain ⟨hvalue, hlength⟩ := not_or.1 hread
  have hvalues : ∀ c ∈ s, (Text.digitValue? c).isSome = true := by
    simpa [Option.isSome_iff_ne_none] using hvalue
  have hsign : Numeral.takeSign (Text.trim Text.isWhiteSpace (String.ofList s).toList) =
      (false, s) := by
    rw [String.toList_ofList]
    exact takeSign_digitRun hall
  rw [readInteger_of_takeSign hsign hne hvalues (Nat.le_of_not_lt hlength)] at h
  exact (Except.ok.inj h).symm

end Grounding
