import Grounding.Proofs.Number.DigitRun
import Mathlib.Data.List.Basic

/-!
# Reading what was written

The decimal text of an integer is read as that integer.  A text with a character that has no place in a
numeral is not read at all, wherever the character stands.
-/

namespace Grounding

/-! ## Decimal texts -/

namespace Text

theorem digitValue?_of_isDigit {c : Char} (h : c.isDigit = true) :
    digitValue? c = some (c.toNat - '0'.toNat) := by
  obtain ⟨hlow, hhigh⟩ : 48 ≤ c.toNat ∧ c.toNat ≤ 57 := by
    simpa [Char.isDigit, UInt32.le_iff_toNat_le] using h
  simp [digitValue?, digitZeros, hlow, hhigh]

theorem digitValue?_of_mem_toDigits {n : Nat} {c : Char} (h : c ∈ Nat.toDigits 10 n) :
    digitValue? c = some (c.toNat - '0'.toNat) :=
  digitValue?_of_isDigit (Nat.isDigit_of_mem_toDigits (by decide) (by decide) h)

theorem toList_toString_of_nonneg {n : Int} (h : 0 ≤ n) :
    (toString n).toList = Nat.toDigits 10 n.natAbs := by
  obtain ⟨m, rfl⟩ := Int.eq_ofNat_of_zero_le h
  change (toString m).toList = _
  simp

theorem toList_toString_of_neg {n : Int} (h : n < 0) :
    (toString n).toList = '-' :: Nat.toDigits 10 n.natAbs := by
  obtain ⟨m, rfl⟩ := Int.eq_negSucc_of_lt_zero h
  change ("-" ++ toString (m + 1)).toList = _
  simp

theorem minus_or_isDigit_of_mem_toString {n : Int} {c : Char} (h : c ∈ (toString n).toList) :
    c = '-' ∨ c.isDigit = true := by
  have hdigit : c ∈ Nat.toDigits 10 n.natAbs → c.isDigit = true :=
    Nat.isDigit_of_mem_toDigits (by decide) (by decide)
  by_cases hneg : n < 0
  · rw [toList_toString_of_neg hneg] at h
    exact (List.mem_cons.1 h).imp_right hdigit
  · rw [toList_toString_of_nonneg (Int.not_lt.1 hneg)] at h
    exact .inr (hdigit h)

end Text

namespace Numeral

/-- The digits of a number denote it. -/
theorem ofDigits_filterMap_toDigits (n : Nat) :
    ofDigits ((Nat.toDigits 10 n).filterMap Text.digitValue?) = n := by
  have hvalues : (Nat.toDigits 10 n).filterMap Text.digitValue? =
      (Nat.toDigits 10 n).map fun c => c.toNat - '0'.toNat :=
    List.filterMap_eq_map_iff_forall_eq_some.2 fun c hc => Text.digitValue?_of_mem_toDigits hc
  calc ofDigits ((Nat.toDigits 10 n).filterMap Text.digitValue?)
      = (Nat.toDigits 10 n).foldl (fun m c => 10 * m + (c.toNat - '0'.toNat)) 0 := by
        rw [hvalues, ofDigits, List.foldl_map]
    _ = n := by
        rw [← Nat.ofDigitChars_eq_foldl, Nat.ofDigitChars_ten_toDigits]

theorem length_toDigits_le {n : Nat} (h : n < Nat.pow 10 numeralDigitLimit) :
    (Nat.toDigits 10 n).length ≤ numeralDigitLimit := by
  have hlimit : 0 < numeralDigitLimit := by decide
  generalize numeralDigitLimit = limit at h hlimit ⊢
  exact (Nat.length_toDigits_le_iff (by decide) hlimit).2 h

/-- A sign, if the number is negative, and the digits of its size. -/
theorem takeSign_toString (n : Int) :
    takeSign (Text.trim Text.isWhiteSpace (toString n).toList) =
      (decide (n < 0), Nat.toDigits 10 n.natAbs) := by
  have hdigit : ∀ m, ∀ c ∈ Nat.toDigits 10 m, Text.isDigit c = true := by
    intro m c hc
    simp [Text.isDigit, Text.digitValue?_of_mem_toDigits hc]
  by_cases hneg : n < 0
  · have hblank : ∀ c ∈ '-' :: Nat.toDigits 10 n.natAbs, Text.isWhiteSpace c = false := by
      intro c hc
      rcases List.mem_cons.1 hc with rfl | hc
      · decide
      · exact Text.isWhiteSpace_of_isDigit (hdigit n.natAbs c hc)
    rw [Text.toList_toString_of_neg hneg, Text.trim_eq_self hblank, decide_eq_true hneg]
    rfl
  · rw [Text.toList_toString_of_nonneg (Int.not_lt.1 hneg), takeSign_digitRun (hdigit n.natAbs),
      decide_eq_false hneg]

theorem signed_natAbs (n : Int) : signed (decide (n < 0)) n.natAbs = n := by
  unfold signed
  by_cases h : n < 0
  · simp only [h, decide_true, if_true]
    omega
  · simp only [h, decide_false, Bool.false_eq_true, if_false]
    omega

end Numeral

/-- An integer that can be written is read from its text. -/
theorem readInteger_toString {n : Int} (h : n.natAbs < Nat.pow 10 numeralDigitLimit) :
    readInteger (toString n) = .ok n := by
  have hvalues : ∀ c ∈ Nat.toDigits 10 n.natAbs, (Text.digitValue? c).isSome = true := by
    intro c hc
    rw [Text.digitValue?_of_mem_toDigits hc, Option.isSome_some]
  rw [readInteger_of_takeSign (Numeral.takeSign_toString n) Nat.toDigits_ne_nil hvalues
    (Numeral.length_toDigits_le h), Numeral.ofDigits_filterMap_toDigits, Numeral.signed_natAbs]

/-- The text of any other integer is refused for the number of its digits. -/
theorem readInteger_toString_of_le {n : Int} (h : Nat.pow 10 numeralDigitLimit ≤ n.natAbs) :
    readInteger (toString n) = .error (.tooLong (Nat.toDigits 10 n.natAbs).length) := by
  have hvalues : ∀ c ∈ Nat.toDigits 10 n.natAbs, (Text.digitValue? c).isSome = true := by
    intro c hc
    rw [Text.digitValue?_of_mem_toDigits hc, Option.isSome_some]
  have hlong : numeralDigitLimit < (Nat.toDigits 10 n.natAbs).length := by
    have hlimit : 0 < numeralDigitLimit := by decide
    generalize numeralDigitLimit = limit at h hlimit ⊢
    apply Nat.lt_of_not_le
    intro hshort
    exact Nat.not_lt.2 h ((Nat.length_toDigits_le_iff (by decide) hlimit).1 hshort)
  exact readInteger_of_tooMany (Numeral.takeSign_toString n) hvalues hlong

/-! ## Characters that no numeral holds -/

namespace Numeral

/-- White space, signs, underscores and the digits with a value: what a numeral may be made of. -/
def hasPlace (c : Char) : Bool :=
  Text.isWhiteSpace c || c == '-' || c == '+' || c == '_' || (Text.digitValue? c).isSome

variable {c : Char} {s : List Char}

theorem mem_takeSign (hc : c ∈ s) (hminus : c ≠ '-') (hplus : c ≠ '+') :
    c ∈ (takeSign s).2 := by
  unfold takeSign
  split
  · exact (List.mem_cons.1 hc).resolve_left hminus
  · exact (List.mem_cons.1 hc).resolve_left hplus
  · exact hc

/-- A character without a value stays where digits are taken. -/
theorem mem_rest_of_takeDigits {value? : Char → Option Nat} (hc : c ∈ s) (hvalue : value? c = none)
    (hmark : c ≠ '_') (taken : List Nat) : c ∈ (takeDigits value? s taken).2 := by
  fun_induction takeDigits value? s taken with
  | case1 => exact hc
  | case2 first rest taken d hd ih =>
      rcases List.mem_cons.1 hc with rfl | hrest
      · rw [hvalue] at hd
        contradiction
      · exact ih hrest
  | case3 => exact hc
  | case4 first taken _ next rest hskip ih =>
      rcases List.mem_cons.1 hc with rfl | hrest
      · simp [hmark] at hskip
      · exact ih hrest
  | case5 => exact hc

end Numeral

theorem Text.mem_trim {p : Char → Bool} {s : List Char} {c : Char} (hc : c ∈ s)
    (hp : p c = false) : c ∈ trim p s := by
  have hdrop : ∀ l : List Char, c ∈ l → c ∈ l.dropWhile p := by
    intro l hl
    rw [← List.takeWhile_append_dropWhile (p := p) (l := l), List.mem_append] at hl
    rcases hl with htake | hkept
    · rw [List.mem_takeWhile_imp htake] at hp
      contradiction
    · exact hkept
  unfold trim
  rw [List.mem_reverse]
  apply hdrop
  rw [List.mem_reverse]
  exact hdrop s hc

theorem readInteger_of_mem {text : String} {c : Char} (hc : c ∈ text.toList)
    (hplace : Numeral.hasPlace c = false) : ∃ fault, readInteger text = .error fault := by
  simp only [Numeral.hasPlace, Bool.or_eq_false_iff, beq_eq_false_iff_ne] at hplace
  obtain ⟨⟨⟨⟨hblank, hminus⟩, hplus⟩, hmark⟩, hvalue⟩ := hplace
  have hvalue : Text.digitValue? c = none := by simpa using hvalue
  have hleft := Numeral.mem_rest_of_takeDigits
    (Numeral.mem_takeSign (Text.mem_trim hc hblank) hminus hplus) hvalue hmark []
  unfold readInteger
  dsimp only
  split_ifs with _ _ hbad
  · exact ⟨_, rfl⟩
  · exact ⟨_, rfl⟩
  · exact ⟨_, rfl⟩
  · -- everything was taken, the character too
    simp [List.isEmpty_iff, List.ne_nil_of_mem hleft] at hbad

end Grounding
