import Grounding.Number.Decimal
import Grounding.Proofs.Number.ReadBack
import Grounding.Proofs.Number.SignificantFigures

/-!
# Significant figures as text

A decimal text is a sign, digits, perhaps a point with digits behind it, and perhaps an exponent.  Read like
any decimal text it stands for its digits as one number, scaled by the place of the last one.  The layout of
significant figures is such a text: the zeros in front of the figures count for nothing, and those that it
drops behind the point leave the value as it is.
-/

namespace Grounding

/-! ## Rows of digits -/

namespace Numeral

/-- What a row of digits denotes. -/
def ofChars (digits : List Char) : Nat := ofDigits (digits.filterMap Text.digitValue?)

theorem filterMap_zeros (k : Nat) :
    (List.replicate k '0').filterMap Text.digitValue? = List.replicate k 0 :=
  List.filterMap_replicate_of_some (by decide)

theorem foldl_zeros (n k : Nat) :
    (List.replicate k 0).foldl (fun n d => 10 * n + d) n = n * 10 ^ k := by
  induction k generalizing n with
  | zero => simp
  | succ k ih =>
      rw [List.replicate_succ, List.foldl_cons, ih, Nat.pow_succ]
      ring

theorem ofChars_zeros_append (k : Nat) (digits : List Char) :
    ofChars (List.replicate k '0' ++ digits) = ofChars digits := by
  unfold ofChars ofDigits
  rw [List.filterMap_append, filterMap_zeros, List.foldl_append, foldl_zeros, Nat.zero_mul]

theorem ofChars_append_zeros (digits : List Char) (k : Nat) :
    ofChars (digits ++ List.replicate k '0') = ofChars digits * 10 ^ k := by
  unfold ofChars ofDigits
  rw [List.filterMap_append, filterMap_zeros, List.foldl_append, foldl_zeros]

section Taking

variable {value? : Char → Option Nat} {digits : List Char} {c : Char} (rest : List Char)

theorem takeDigits_append (hdigits : ∀ c ∈ digits, (value? c).isSome = true) (taken : List Nat) :
    takeDigits value? (digits ++ rest) taken =
      takeDigits value? rest ((digits.filterMap value?).reverse ++ taken) := by
  induction digits generalizing taken with
  | nil => rfl
  | cons c more ih =>
      obtain ⟨d, hd⟩ := Option.isSome_iff_exists.1 (hdigits c List.mem_cons_self)
      have hmore : ∀ c ∈ more, (value? c).isSome = true := fun c hc =>
        hdigits c (List.mem_cons_of_mem _ hc)
      simp [takeDigits, hd, ih hmore]

theorem takeDigits_stop (hvalue : value? c = none) (hmark : c ≠ '_') (taken : List Nat) :
    takeDigits value? (c :: rest) taken = (taken, c :: rest) := by
  cases rest <;> simp [takeDigits, hvalue, hmark]

end Taking

end Numeral

theorem Text.isSome_digitValue? {c : Char} (h : c.isDigit = true) :
    (digitValue? c).isSome = true := by
  rw [digitValue?_of_isDigit h, Option.isSome_some]

/-! ## Reading -/

namespace Decimal

/-- The number that a decimal text stands for, before it is rounded to a double. -/
def value? (text : String) : Option ℚ :=
  let (negative, body) := Numeral.takeSign text.toList
  (readMagnitude Text.digitValue? body).map fun (mantissa, exponent) =>
    (if negative then -1 else 1) * (mantissa * 10 ^ exponent)

/-- The digits behind the point of a text. -/
def fractionDigits (text : List Char) : List Char :=
  ((text.dropWhile (· != '.')).drop 1).takeWhile Char.isDigit

/-- If there is a point, there are digits behind it and the last of them is not zero. -/
def HasTrimmedFraction (text : List Char) : Prop :=
  '.' ∈ text → ∃ c, (fractionDigits text).getLast? = some c ∧ c ≠ '0'

section Magnitude

variable {digit? : Char → Option Nat} {text rest tail : List Char} {taken fraction : List Nat}

theorem readMagnitude_of_point (hwhole : Numeral.takeDigits digit? text [] = (taken, '.' :: rest))
    (hfraction : Numeral.takeDigits digit? rest [] = (fraction, tail)) (hne : taken ≠ []) :
    readMagnitude digit? text = (readExponent digit? tail).map fun exponent =>
      (Numeral.ofDigits (taken.reverse ++ fraction.reverse),
        exponent - (fraction.length : Int)) := by
  unfold readMagnitude
  rw [hwhole]
  simp [hfraction, hne]

theorem readMagnitude_of_no_point (hwhole : Numeral.takeDigits digit? text [] = (taken, tail))
    (hpoint : tail.head? ≠ some '.') (hne : taken ≠ []) :
    readMagnitude digit? text = (readExponent digit? tail).map fun exponent =>
      (Numeral.ofDigits taken.reverse, exponent) := by
  unfold readMagnitude
  rw [hwhole]
  split
  next whole rest h =>
    obtain ⟨rfl, rfl⟩ := Prod.mk.inj h
    split
    next fraction tail hmatch =>
      split at hmatch
      · exact absurd rfl hpoint
      · obtain ⟨rfl, rfl⟩ := Prod.mk.inj hmatch
        simp [hne]

end Magnitude

end Decimal

/-! ## The parts of a text -/

/-- A decimal text by its parts.  Without digits in the fraction there is no point. -/
structure DecimalText where
  negative : Bool
  whole : List Char
  fraction : List Char
  power? : Option Int
  whole_ne_nil : whole ≠ []
  isDigit : ∀ c ∈ whole ++ fraction, c.isDigit = true
  getLast?_ne : fraction.getLast? ≠ some '0'

namespace DecimalText

open Figures Numeral

def pointed : List Char → List Char
  | [] => []
  | c :: more => '.' :: c :: more

def tail (t : DecimalText) : List Char := t.power?.elim [] exponentText

/-- The text without its sign. -/
def body (t : DecimalText) : List Char := t.whole ++ (pointed t.fraction ++ t.tail)

def toList (t : DecimalText) : List Char := if t.negative then '-' :: t.body else t.body

def mantissa (t : DecimalText) : Nat := ofChars (t.whole ++ t.fraction)

/-- The place of the last digit. -/
def place (t : DecimalText) : Int := t.power?.getD 0 - t.fraction.length

def value (t : DecimalText) : ℚ :=
  (if t.negative then -1 else 1) * (t.mantissa * 10 ^ t.place)

def zero (negative : Bool) : DecimalText :=
  ⟨negative, ['0'], [], none, List.cons_ne_nil _ _, by simp, by simp⟩

theorem mantissa_zero (negative : Bool) : (zero negative).mantissa = 0 := by
  change ofChars ['0'] = 0
  decide

theorem isDigit_decimalDigits {n : Nat} {c : Char} (h : c ∈ decimalDigits n) : c.isDigit = true :=
  Nat.isDigit_of_mem_toDigits (by decide) (by decide) h

theorem ofChars_decimalDigits (n : Nat) : ofChars (decimalDigits n) = n :=
  ofDigits_filterMap_toDigits n

theorem exists_exponentText_eq (e : Int) :
    ∃ digits, exponentText e = 'e' :: (if e < 0 then '-' else '+') :: digits ∧ digits ≠ [] ∧
      (∀ c ∈ digits, c.isDigit = true) ∧ ofChars digits = e.natAbs := by
  have hdigit : ∀ c ∈ decimalDigits e.natAbs, c.isDigit = true := fun c => isDigit_decimalDigits
  refine ⟨_, rfl, ?_⟩
  split_ifs
  · refine ⟨by simp, ?_, ?_⟩
    · intro c hc
      rcases List.mem_cons.1 hc with rfl | hc
      · decide
      · exact hdigit c hc
    · rw [← List.singleton_append, ← List.replicate_one, ofChars_zeros_append,
        ofChars_decimalDigits]
  · exact ⟨Nat.toDigits_ne_nil, hdigit, ofChars_decimalDigits _⟩

theorem readExponent_exponentText (e : Int) :
    Decimal.readExponent Text.digitValue? (exponentText e) = some e := by
  obtain ⟨digits, htext, hne, hdigits, hvalue⟩ := exists_exponentText_eq e
  have hsign : takeSign ((if e < 0 then '-' else '+') :: digits) = (decide (e < 0), digits) := by
    by_cases h : e < 0 <;> simp [takeSign, h]
  have hvalues : ∀ c ∈ digits, (Text.digitValue? c).isSome = true := fun c hc =>
    Text.isSome_digitValue? (hdigits c hc)
  have htaken : (digits.filterMap Text.digitValue?).isEmpty = false := by
    rw [List.isEmpty_eq_false_iff, ← List.length_pos_iff, length_filterMap_values hvalues]
    exact List.length_pos_iff.2 hne
  unfold ofChars at hvalue
  rw [htext, Decimal.readExponent]
  simp only [beq_self_eq_true, Bool.true_or, if_true]
  rw [hsign]
  dsimp only
  rw [takeDigits_values hvalues]
  dsimp only
  rw [List.isEmpty_reverse, htaken, List.reverse_reverse, hvalue, signed_natAbs]
  rfl

section Parts

variable (t : DecimalText)

theorem readExponent_tail :
    Decimal.readExponent Text.digitValue? t.tail = some (t.power?.getD 0) := by
  unfold tail
  cases t.power? with
  | none => rfl
  | some e => exact readExponent_exponentText e

theorem takeDigits_tail (taken : List Nat) :
    takeDigits Text.digitValue? t.tail taken = (taken, t.tail) := by
  unfold tail
  cases t.power? with
  | none => rfl
  | some e => exact takeDigits_stop _ (by decide) (by decide) _

theorem head?_tail (c : Char) (hc : t.tail.head? = some c) : c = 'e' := by
  unfold tail at hc
  cases hpower : t.power? with
  | none => simp [hpower] at hc
  | some e =>
      rw [hpower] at hc
      exact (Option.some.inj hc).symm

theorem readMagnitude_body :
    Decimal.readMagnitude Text.digitValue? t.body = some (t.mantissa, t.place) := by
  have hwhole : ∀ c ∈ t.whole, (Text.digitValue? c).isSome = true := fun c hc =>
    Text.isSome_digitValue? (t.isDigit c (List.mem_append_left _ hc))
  have hfraction : ∀ c ∈ t.fraction, (Text.digitValue? c).isSome = true := fun c hc =>
    Text.isSome_digitValue? (t.isDigit c (List.mem_append_right _ hc))
  have htaken : (t.whole.filterMap Text.digitValue?).reverse ≠ [] := by
    rw [← List.length_pos_iff, List.length_reverse, length_filterMap_values hwhole]
    exact List.length_pos_iff.2 t.whole_ne_nil
  have hfront := takeDigits_append (pointed t.fraction ++ t.tail) hwhole []
  unfold body mantissa place ofChars
  rw [List.append_nil] at hfront
  rw [List.filterMap_append]
  cases hkept : t.fraction with
  | nil =>
      have hpoint : t.tail.head? ≠ some '.' := fun h => absurd (t.head?_tail '.' h) (by decide)
      rw [hkept, pointed, List.nil_append, t.takeDigits_tail] at hfront
      rw [pointed, List.nil_append, Decimal.readMagnitude_of_no_point hfront hpoint htaken,
        t.readExponent_tail]
      simp
  | cons c more =>
      rw [hkept] at hfraction
      have hbehind := takeDigits_append t.tail hfraction []
      rw [t.takeDigits_tail, List.append_nil] at hbehind
      rw [hkept, pointed, List.cons_append, takeDigits_stop _ (by decide) (by decide)] at hfront
      rw [pointed, List.cons_append, Decimal.readMagnitude_of_point hfront hbehind htaken,
        t.readExponent_tail, List.reverse_reverse, List.reverse_reverse, List.length_reverse,
        length_filterMap_values hfraction]
      rfl

theorem exists_body_eq : ∃ c rest, t.body = c :: rest ∧ c.isDigit = true := by
  obtain ⟨c, rest, hwhole⟩ := List.exists_cons_of_ne_nil t.whole_ne_nil
  refine ⟨c, rest ++ (pointed t.fraction ++ t.tail), ?_, t.isDigit c (by simp [hwhole])⟩
  rw [body, hwhole, List.cons_append]

theorem takeSign_toList : takeSign t.toList = (t.negative, t.body) := by
  obtain ⟨c, rest, hbody, hdigit⟩ := t.exists_body_eq
  unfold toList
  cases t.negative with
  | true => rfl
  | false =>
      rw [if_neg Bool.false_ne_true, hbody]
      unfold takeSign
      split
      next heq =>
        obtain ⟨rfl, -⟩ := List.cons.inj heq
        contradiction
      next heq =>
        obtain ⟨rfl, -⟩ := List.cons.inj heq
        contradiction
      next => rfl

/-- A text stands for its digits as one number, scaled by the place of the last one. -/
theorem value?_toList : Decimal.value? (String.ofList t.toList) = some t.value := by
  unfold Decimal.value?
  rw [String.toList_ofList, takeSign_toList]
  dsimp only
  rw [readMagnitude_body]
  rfl

/-! ## Marks in a text -/

theorem head?_toList : t.toList.head? = some '-' ↔ t.negative = true := by
  obtain ⟨c, rest, hbody, hdigit⟩ := t.exists_body_eq
  have hminus : c ≠ '-' := by
    rintro rfl
    contradiction
  unfold toList
  rw [hbody]
  cases t.negative <;> simp [hminus]

variable {t} in
theorem not_mem_digits {c : Char} (hc : c.isDigit = false) : c ∉ t.whole ∧ c ∉ t.fraction := by
  rw [← not_or, ← List.mem_append]
  intro hmem
  rw [t.isDigit c hmem] at hc
  contradiction

/-- Only the mark of the exponent is an `e`. -/
theorem mark_mem_toList : 'e' ∈ t.toList ↔ t.power?.isSome = true := by
  obtain ⟨hwhole, hfraction⟩ := not_mem_digits (t := t) (c := 'e') (by decide)
  have hpointed : 'e' ∉ pointed t.fraction := by
    cases h : t.fraction with
    | nil => simp [pointed]
    | cons c more => simpa [pointed, h] using hfraction
  have htail : 'e' ∈ t.tail ↔ t.power?.isSome = true := by
    unfold tail
    cases t.power? with
    | none => simp
    | some e => simp [exponentText]
  unfold toList body
  split_ifs <;> simp [hwhole, hpointed, htail]

theorem point_not_mem_tail : '.' ∉ t.tail := by
  unfold tail
  cases t.power? with
  | none => simp
  | some e =>
      obtain ⟨digits, htext, -, hdigits, -⟩ := exists_exponentText_eq e
      have hpoint : '.' ∉ digits := fun h => absurd (hdigits _ h) (by decide)
      rw [Option.elim_some, htext]
      split_ifs <;> simp [hpoint]

theorem point_mem_toList : '.' ∈ t.toList ↔ t.fraction ≠ [] := by
  obtain ⟨hwhole, -⟩ := not_mem_digits (t := t) (c := '.') (by decide)
  have hpointed : '.' ∈ pointed t.fraction ↔ t.fraction ≠ [] := by
    cases t.fraction <;> simp [pointed]
  have htail := t.point_not_mem_tail
  unfold toList body
  split_ifs <;> simp [hwhole, hpointed, htail]

theorem takeWhile_tail : t.tail.takeWhile Char.isDigit = [] := by
  cases htail : t.tail with
  | nil => rfl
  | cons c rest =>
      obtain rfl := t.head?_tail c (by rw [htail, List.head?_cons])
      exact List.takeWhile_cons_of_neg (by decide)

theorem fractionDigits_toList (hfraction : t.fraction ≠ []) :
    Decimal.fractionDigits t.toList = t.fraction := by
  obtain ⟨hwhole, -⟩ := not_mem_digits (t := t) (c := '.') (by decide)
  have hfront : ∀ c ∈ t.whole, (c != '.') = true := fun c hc =>
    bne_iff_ne.2 (ne_of_mem_of_not_mem hc hwhole)
  have hdigits : ∀ c ∈ t.fraction, c.isDigit = true := fun c hc =>
    t.isDigit c (List.mem_append_right _ hc)
  obtain ⟨c, more, hkept⟩ := List.exists_cons_of_ne_nil hfraction
  have hbody : t.body.dropWhile (· != '.') = '.' :: (t.fraction ++ t.tail) := by
    rw [body, List.dropWhile_append_of_pos hfront, hkept]
    rfl
  have htext : t.toList.dropWhile (· != '.') = '.' :: (t.fraction ++ t.tail) := by
    unfold toList
    split_ifs
    · rw [List.dropWhile_cons_of_pos (by decide), hbody]
    · exact hbody
  rw [Decimal.fractionDigits, htext, List.drop_one, List.tail_cons,
    List.takeWhile_append_of_pos hdigits, t.takeWhile_tail, List.append_nil]

theorem hasTrimmedFraction_toList : Decimal.HasTrimmedFraction t.toList := by
  intro hpoint
  have hfraction := t.point_mem_toList.1 hpoint
  rw [t.fractionDigits_toList hfraction]
  refine ⟨_, List.getLast?_eq_some_getLast hfraction, ?_⟩
  intro hzero
  apply t.getLast?_ne
  rw [List.getLast?_eq_some_getLast hfraction, hzero]

end Parts

/-! ## Zeros at the end -/

theorem exists_zeros (digits : List Char) :
    ∃ k, digits = dropTrailingZeros digits ++ List.replicate k '0' := by
  have hzeros : digits.reverse.takeWhile (· == '0') = List.replicate _ '0' :=
    List.eq_replicate_of_mem fun c hc => by simpa using List.mem_takeWhile_imp hc
  have hsplit := congrArg List.reverse
    (List.takeWhile_append_dropWhile (p := (· == '0')) (l := digits.reverse))
  rw [List.reverse_append, List.reverse_reverse, hzeros, List.reverse_replicate] at hsplit
  exact ⟨_, hsplit.symm⟩

theorem getLast?_dropTrailingZeros (digits : List Char) :
    (dropTrailingZeros digits).getLast? ≠ some '0' := by
  intro hlast
  unfold dropTrailingZeros at hlast
  rw [List.getLast?_reverse] at hlast
  have hkept := List.head?_dropWhile_not (· == '0') digits.reverse
  rw [hlast] at hkept
  simp at hkept

theorem fractionText_eq (digits : List Char) :
    fractionText digits = pointed (dropTrailingZeros digits) := by
  unfold fractionText
  cases dropTrailingZeros digits <;> rfl

/-- Zeros at the end of a fraction are dropped and leave the value as it is. -/
theorem exists_trimmed (negative : Bool) {whole fraction : List Char} (power? : Option Int)
    (hwhole : whole ≠ []) (hdigits : ∀ c ∈ whole ++ fraction, c.isDigit = true) :
    ∃ t : DecimalText, t.negative = negative ∧ t.power? = power? ∧
      t.body = whole ++ (fractionText fraction ++ power?.elim [] exponentText) ∧
      (t.mantissa : ℚ) * 10 ^ t.place =
        ofChars (whole ++ fraction) * 10 ^ (power?.getD 0 - (fraction.length : Int)) := by
  obtain ⟨k, hzeros⟩ := exists_zeros fraction
  have hkept : ∀ c ∈ whole ++ dropTrailingZeros fraction, c.isDigit = true := by
    intro c hc
    apply hdigits
    rw [hzeros, ← List.append_assoc]
    exact List.mem_append_left _ hc
  refine ⟨⟨negative, whole, _, power?, hwhole, hkept, getLast?_dropTrailingZeros fraction⟩,
    rfl, rfl, ?_, ?_⟩
  · rw [fractionText_eq]
    rfl
  · have hlength : fraction.length = (dropTrailingZeros fraction).length + k := by
      conv_lhs => rw [hzeros]
      simp
    have hdropped : ofChars (whole ++ fraction) =
        ofChars (whole ++ dropTrailingZeros fraction) * 10 ^ k := by
      conv_lhs => rw [hzeros, ← List.append_assoc, ofChars_append_zeros]
    have hplace : power?.getD 0 - ((dropTrailingZeros fraction).length : Int) =
        (k : Int) + (power?.getD 0 - (fraction.length : Int)) := by
      omega
    unfold mantissa place
    rw [hdropped, hplace, zpow_add₀ (by decide), zpow_natCast, Nat.cast_mul, Nat.cast_pow,
      Nat.cast_ofNat, mul_assoc]

/-- Digits behind the point, after so many zeros. -/
theorem exists_behind (negative : Bool) (zeros : Nat) {digits : List Char}
    (hdigits : ∀ c ∈ digits, c.isDigit = true) :
    ∃ t : DecimalText, t.negative = negative ∧ t.power? = none ∧
      t.body = '0' :: fractionText (List.replicate zeros '0' ++ digits) ∧
      (t.mantissa : ℚ) * 10 ^ t.place =
        ofChars digits * 10 ^ (-((zeros + digits.length : Nat) : Int)) := by
  have hall : ∀ c ∈ ['0'] ++ (List.replicate zeros '0' ++ digits), c.isDigit = true := by
    simp only [List.forall_mem_append, List.forall_mem_singleton, List.forall_mem_replicate]
    exact ⟨by decide, .inr (by decide), hdigits⟩
  obtain ⟨t, hnegative, hpower, hbody, hvalue⟩ :=
    exists_trimmed negative none (List.cons_ne_nil _ _) hall
  refine ⟨t, hnegative, hpower, ?_, ?_⟩
  · rw [hbody, Option.elim_none, List.append_nil, List.singleton_append]
  · rw [hvalue, ← List.replicate_one, ofChars_zeros_append, ofChars_zeros_append,
      List.length_append, List.length_replicate, Option.getD_none, Int.zero_sub]

/-- Digits with the point behind the first `n` of them. -/
theorem exists_cut (negative : Bool) {digits : List Char} (power? : Option Int) {n : Nat}
    (hn : 0 < n) (hne : digits ≠ []) (hdigits : ∀ c ∈ digits, c.isDigit = true) :
    ∃ t : DecimalText, t.negative = negative ∧ t.power? = power? ∧
      t.body = digits.take n ++
        (fractionText (digits.drop n) ++ power?.elim [] exponentText) ∧
      (t.mantissa : ℚ) * 10 ^ t.place =
        ofChars digits * 10 ^ (power?.getD 0 - ((digits.length - n : Nat) : Int)) := by
  have hwhole : digits.take n ≠ [] := by simp [hne, hn.ne']
  have hjoined : ∀ c ∈ digits.take n ++ digits.drop n, c.isDigit = true := by
    rwa [List.take_append_drop]
  have htrimmed := exists_trimmed negative power? hwhole hjoined
  rwa [List.take_append_drop, List.length_drop] at htrimmed

end DecimalText

/-! ## The layout of figures -/

namespace Figures

open DecimalText Numeral

variable {count : Nat} {f : Figures}

theorem IsNormal.length_decimalDigits (h : f.IsNormal count) (hcount : 0 < count) :
    (decimalDigits f.number).length = count := by
  have hpos : f.number ≠ 0 := (Nat.lt_of_lt_of_le (Nat.pow_pos (by decide)) h.le_number).ne'
  obtain ⟨hlow, hhigh⟩ := length_toDigits_bounds hpos
  have hupper : (decimalDigits f.number).length - 1 < count :=
    (Nat.pow_lt_pow_iff_right (by decide)).1 (hlow.trans_lt h.number_lt)
  have hlower : count - 1 < (decimalDigits f.number).length :=
    (Nat.pow_lt_pow_iff_right (by decide)).1 (h.le_number.trans_lt hhigh)
  omega

/-- Normal figures are laid out as a decimal text for what they stand for, with an exponent when theirs is
out of the positional range. -/
theorem IsNormal.exists_text (h : f.IsNormal count) (hcount : 0 < count) (negative : Bool) :
    ∃ t : DecimalText, t.negative = negative ∧ t.body = layout count f ∧
      (t.mantissa : ℚ) * 10 ^ t.place = f.value count ∧
      (t.power?.isSome = true ↔ f.exponent < -4 ∨ (count : Int) ≤ f.exponent) := by
  have hne : f.number ≠ 0 := (Nat.lt_of_lt_of_le (Nat.pow_pos (by decide)) h.le_number).ne'
  have hlength := h.length_decimalDigits hcount
  have hdigit : ∀ c ∈ decimalDigits f.number, c.isDigit = true := fun c => isDigit_decimalDigits
  have hdenoted : ofChars (decimalDigits f.number) = f.number := ofChars_decimalDigits f.number
  unfold layout value lastPlace
  rw [if_neg hne]
  have hempty : decimalDigits f.number ≠ [] := Nat.toDigits_ne_nil
  generalize decimalDigits f.number = digits at *
  dsimp only
  split_ifs with hrange hsmall
  · have hplace : -(((-f.exponent - 1).toNat + digits.length : Nat) : Int) =
        f.exponent - (count - 1) := by
      omega
    obtain ⟨t, hnegative, hpower, hbody, hvalue⟩ :=
      exists_behind negative (-f.exponent - 1).toNat hdigit
    refine ⟨t, hnegative, hbody, ?_, ?_⟩
    · rw [hvalue, hplace, hdenoted]
    · rw [hpower, Option.isSome_none]
      exact iff_of_false Bool.false_ne_true (by omega)
  · have hplace : (0 : Int) - ((digits.length - (f.exponent.toNat + 1) : Nat) : Int) =
        f.exponent - (count - 1) := by
      omega
    obtain ⟨t, hnegative, hpower, hbody, hvalue⟩ :=
      exists_cut negative none (Nat.succ_pos f.exponent.toNat) hempty hdigit
    refine ⟨t, hnegative, ?_, ?_, ?_⟩
    · rw [hbody, Option.elim_none, List.append_nil]
    · rw [hvalue, Option.getD_none, hplace, hdenoted]
    · rw [hpower, Option.isSome_none]
      exact iff_of_false Bool.false_ne_true (by omega)
  · have hplace : f.exponent - ((digits.length - 1 : Nat) : Int) = f.exponent - (count - 1) := by
      omega
    obtain ⟨t, hnegative, hpower, hbody, hvalue⟩ :=
      exists_cut negative (some f.exponent) Nat.one_pos hempty hdigit
    refine ⟨t, hnegative, ?_, ?_, ?_⟩
    · rw [hbody, Option.elim_some, List.append_assoc]
    · rw [hvalue, Option.getD_some, hplace, hdenoted]
    · rw [hpower, Option.isSome_some]
      exact iff_of_true rfl (by omega)

/-- Every magnitude is laid out as a decimal text for the nearest figures. -/
theorem exists_text_ofUnits (hcount : 0 < count) (units : Nat) (negative : Bool) :
    ∃ t : DecimalText, t.negative = negative ∧ t.body = layout count (ofUnits count units) ∧
      (t.mantissa : ℚ) * 10 ^ t.place = (ofUnits count units).value count ∧
      (t.power?.isSome = true ↔ Int.log 10 ((ofUnits count units).value count) < -4 ∨
        (count : Int) ≤ Int.log 10 ((ofUnits count units).value count)) := by
  by_cases hunits : units = 0
  · refine ⟨DecimalText.zero negative, rfl, ?_, ?_, ?_⟩
    · rw [hunits, ofUnits_zero]
      rfl
    · rw [hunits, value_ofUnits_zero, mantissa_zero, Nat.cast_zero, zero_mul]
    · rw [hunits, value_ofUnits_zero, Int.log_zero_right]
      exact iff_of_false Bool.false_ne_true (by omega)
  · have hnormal := isNormal_ofUnits hcount hunits
    rw [hnormal.log_value hcount]
    exact hnormal.exists_text hcount negative

end Figures

end Grounding
