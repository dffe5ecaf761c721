import Grounding.Number.Figures
import Grounding.Proofs.Number.Nearest
import Mathlib.Algebra.Order.Field.Power
import Mathlib.Data.Int.Log
import Mathlib.Data.Rat.Floor
import Mathlib.Data.Sign.Basic
import Mathlib.Tactic.FieldSimp
import Mathlib.Tactic.Linarith
import Mathlib.Tactic.Positivity

/-!
# Rounding to significant figures

The place of the leading figure gives the place of the last one, and rounding finds the nearest multiple of
that place.  Numbers with as few figures that are no multiples of it lie below the place of the leading
figure, which is a multiple itself and lies between.  So no number with as few figures is nearer.
-/

namespace Grounding

open Binary64

/-! ## Exact values -/

namespace Binary64

/-- A magnitude in units as a number. -/
def magnitude (units : Nat) : ℚ := (units : ℚ) / unitsPerOne

/-- The value of a finite double. -/
def value? (x : Binary64) : Option ℚ := x.units?.map fun u : Int => (u : ℚ) / unitsPerOne

theorem unitsPerOne_pos : 0 < unitsPerOne := by
  unfold unitsPerOne
  generalize 1074 = k
  exact Nat.pow_pos (by decide)

theorem magnitude_nonneg (units : Nat) : 0 ≤ magnitude units :=
  div_nonneg (Nat.cast_nonneg _) (Nat.cast_nonneg _)

theorem magnitude_zero : magnitude 0 = 0 := by
  rw [magnitude, Nat.cast_zero, zero_div]

theorem magnitude_pos {units : Nat} (h : units ≠ 0) : 0 < magnitude units :=
  div_pos (Nat.cast_pos.2 (Nat.pos_of_ne_zero h)) (Nat.cast_pos.2 unitsPerOne_pos)

end Binary64

/-- The number has at most so many significant figures, wherever its point is. -/
def HasFigures (count : Nat) (d : ℚ) : Prop :=
  ∃ (n : Nat) (place : Int), n < 10 ^ count ∧ |d| = n * 10 ^ place

/-! ## Rounding a quotient -/

theorem abs_div_sub_roundHalfEven_le (num : Nat) {den : Nat} (hden : 0 < den) (k : Nat) :
    |(num : ℚ) / den - roundHalfEven num den| ≤ |(num : ℚ) / den - k| := by
  have hpos : (0 : ℚ) < den := Nat.cast_pos.2 hden
  have hdist : ∀ m : Nat, |(num : ℚ) / den - m| =
      (((num : Int) - (den * m : Nat)).natAbs : ℚ) / den := by
    intro m
    have hsub : (num : ℚ) / den - m = (((num : Int) - (den * m : Nat) : Int) : ℚ) / den := by
      push_cast
      field_simp
    rw [hsub, abs_div, abs_of_pos hpos, Nat.cast_natAbs, Int.cast_abs]
  rw [hdist, hdist]
  gcongr
  exact roundHalfEven_nearest num hden k

namespace Figures

section Rounding

variable {units k : Nat} {place : Int}

theorem exists_scaled_eq (units : Nat) (place : Int) :
    ∃ num den, 0 < den ∧ scaled units place = roundHalfEven num den ∧
      (num : ℚ) / den = magnitude units / 10 ^ place := by
  have hunit := unitsPerOne_pos
  unfold scaled magnitude
  split_ifs with hplace
  · obtain ⟨j, rfl⟩ := Int.eq_ofNat_of_zero_le hplace
    refine ⟨_, _, Nat.mul_pos hunit (Nat.pow_pos (by decide)), rfl, ?_⟩
    rw [Int.toNat_natCast, zpow_natCast, Nat.cast_mul, Nat.cast_pow, div_div]
    rfl
  · obtain ⟨j, rfl⟩ : ∃ j : Nat, place = -(j : Int) := ⟨(-place).toNat, by omega⟩
    have hpower : Nat.pow 10 (- -(j : Int)).toNat = 10 ^ j := by
      rw [neg_neg, Int.toNat_natCast]
      rfl
    refine ⟨_, _, hunit, rfl, ?_⟩
    rw [hpower, zpow_neg, zpow_natCast, Nat.cast_mul, Nat.cast_pow, Nat.cast_ofNat, div_inv_eq_mul,
      mul_div_right_comm]

/-- No multiple of a place is nearer than the rounded one. -/
theorem scaled_nearest (units : Nat) (place : Int) (k : Nat) :
    |magnitude units - scaled units place * 10 ^ place| ≤ |magnitude units - k * 10 ^ place| := by
  obtain ⟨num, den, hden, hscaled, hquotient⟩ := exists_scaled_eq units place
  have hplace : (0 : ℚ) < 10 ^ place := by positivity
  have hdist : ∀ m : Nat, |magnitude units - m * 10 ^ place| =
      |(num : ℚ) / den - m| * 10 ^ place := by
    intro m
    have hsub : magnitude units - m * 10 ^ place = ((num : ℚ) / den - m) * 10 ^ place := by
      rw [hquotient]
      field_simp
    rw [hsub, abs_mul, abs_of_pos hplace]
  rw [hdist, hdist, hscaled]
  exact mul_le_mul_of_nonneg_right (abs_div_sub_roundHalfEven_le num hden k) hplace.le

theorem le_scaled (h : k * 10 ^ place ≤ magnitude units) : k ≤ scaled units place := by
  by_contra hlt
  have hstep : ((scaled units place : ℚ) + 1) * 10 ^ place ≤ k * 10 ^ place := by
    gcongr
    exact_mod_cast Nat.lt_of_not_le hlt
  have hplace : (0 : ℚ) < 10 ^ place := by positivity
  have hnear := scaled_nearest units place k
  rw [abs_of_nonneg (by linarith), abs_of_nonneg (by linarith)] at hnear
  linarith

theorem scaled_le (h : magnitude units ≤ k * 10 ^ place) : scaled units place ≤ k := by
  by_contra hlt
  have hstep : ((k : ℚ) + 1) * 10 ^ place ≤ scaled units place * 10 ^ place := by
    gcongr
    exact_mod_cast Nat.lt_of_not_le hlt
  have hplace : (0 : ℚ) < 10 ^ place := by positivity
  have hnear := scaled_nearest units place k
  rw [abs_of_nonpos (by linarith), abs_of_nonpos (by linarith)] at hnear
  linarith

end Rounding

/-! ## The leading place -/

theorem length_toDigits_bounds {n : Nat} (hn : n ≠ 0) :
    10 ^ ((Nat.toDigits 10 n).length - 1) ≤ n ∧ n < 10 ^ (Nat.toDigits 10 n).length := by
  have hlength : 0 < (Nat.toDigits 10 n).length := List.length_pos_iff.2 Nat.toDigits_ne_nil
  refine ⟨?_, (Nat.length_toDigits_le_iff (by decide) hlength).1 le_rfl⟩
  rcases Nat.eq_zero_or_pos ((Nat.toDigits 10 n).length - 1) with hzero | hpos
  · rw [hzero]
    omega
  · by_contra hlt
    have hshort := (Nat.length_toDigits_le_iff (by decide) hpos).2 (Nat.lt_of_not_le hlt)
    omega

/-- A quotient that is shifted to the left of the point has its leading figure where its first digit is. -/
theorem quotient_bounds {num den shift length : Nat} (hden : 0 < den)
    (hnum : den ≤ num * 10 ^ shift)
    (hlength : (Nat.toDigits 10 (num * 10 ^ shift / den)).length = length) :
    (10 : ℚ) ^ ((length : Int) - 1 - shift) ≤ num / den ∧
      (num : ℚ) / den < 10 ^ ((length : Int) - shift) := by
  have hpos : (0 : ℚ) < den := Nat.cast_pos.2 hden
  have hnonempty : 0 < length := hlength ▸ List.length_pos_iff.2 Nat.toDigits_ne_nil
  obtain ⟨hlow, hhigh⟩ := length_toDigits_bounds (Nat.div_pos hnum hden).ne'
  rw [hlength, Nat.le_div_iff_mul_le hden] at hlow
  rw [hlength, Nat.div_lt_iff_lt_mul hden] at hhigh
  have hlow : (10 : ℚ) ^ (length - 1) * den ≤ num * 10 ^ shift := by exact_mod_cast hlow
  have hhigh : (num : ℚ) * 10 ^ shift < 10 ^ length * den := by exact_mod_cast hhigh
  have hbefore : (length : Int) - 1 = ((length - 1 : Nat) : Int) := by omega
  rw [hbefore, zpow_sub₀ (by decide), zpow_sub₀ (by decide), zpow_natCast, zpow_natCast,
    zpow_natCast]
  constructor
  · rwa [div_le_div_iff₀ (by positivity) hpos]
  · rwa [div_lt_div_iff₀ hpos (by positivity)]

theorem unitsPerOne_le : unitsPerOne ≤ Nat.pow 10 324 := by
  decide +kernel

theorem leadingExponent_bounds {units : Nat} (hunits : units ≠ 0) :
    (10 : ℚ) ^ leadingExponent units ≤ magnitude units ∧
      magnitude units < (10 : ℚ) ^ (leadingExponent units + 1) := by
  have hone : unitsPerOne ≤ units * Nat.pow 10 324 :=
    unitsPerOne_le.trans (Nat.le_mul_of_pos_left _ (Nat.pos_of_ne_zero hunits))
  have hshift : (325 : Int) = 1 + (324 : Nat) := rfl
  unfold leadingExponent decimalDigits
  rw [hshift]
  -- with the shift as a variable nothing tries to compute the power
  generalize 324 = shift at *
  have hnext : ∀ n : Int, n - (1 + shift) + 1 = n - shift := by
    intro n
    omega
  rw [hnext, ← Int.sub_sub]
  exact quotient_bounds unitsPerOne_pos hone rfl

/-! ## Figures -/

/-- The place of the last of so many figures. -/
def lastPlace (count : Nat) (exponent : Int) : Int := exponent - (count - 1)

/-- What so many figures stand for. -/
def value (count : Nat) (f : Figures) : ℚ := f.number * 10 ^ lastPlace count f.exponent

/-- There are exactly so many figures, and the leading one is not zero. -/
structure IsNormal (count : Nat) (f : Figures) : Prop where
  le_number : 10 ^ (count - 1) ≤ f.number
  number_lt : f.number < 10 ^ count

section Choice

variable {count units : Nat} {f : Figures}

theorem zpow_exponent (hcount : 0 < count) (exponent : Int) :
    (10 : ℚ) ^ exponent = ((10 ^ (count - 1) : Nat) : ℚ) * 10 ^ lastPlace count exponent := by
  have hsum : exponent = ((count - 1 : Nat) : Int) + lastPlace count exponent := by
    unfold lastPlace
    omega
  rw [Nat.cast_pow, ← zpow_natCast, Nat.cast_ofNat, ← zpow_add₀ (by decide), ← hsum]

theorem zpow_exponent_add_one (exponent : Int) :
    (10 : ℚ) ^ (exponent + 1) = ((10 ^ count : Nat) : ℚ) * 10 ^ lastPlace count exponent := by
  have hsum : exponent + 1 = (count : Int) + lastPlace count exponent := by
    unfold lastPlace
    omega
  rw [Nat.cast_pow, ← zpow_natCast, Nat.cast_ofNat, ← zpow_add₀ (by decide), ← hsum]

theorem value_nonneg (count : Nat) (f : Figures) : 0 ≤ f.value count := by
  unfold value
  positivity

theorem hasFigures_value (h : f.number < 10 ^ count) : HasFigures count (f.value count) :=
  ⟨f.number, _, h, abs_of_nonneg (value_nonneg count f)⟩

/-- The exponent of normal figures is the decimal exponent of what they stand for. -/
theorem IsNormal.log_value (h : f.IsNormal count) (hcount : 0 < count) :
    Int.log 10 (f.value count) = f.exponent := by
  have hlow : ((10 : Nat) : ℚ) ^ f.exponent ≤ f.value count := by
    rw [Nat.cast_ofNat, zpow_exponent hcount, value]
    gcongr
    exact h.le_number
  have hhigh : f.value count < ((10 : Nat) : ℚ) ^ (f.exponent + 1) := by
    rw [Nat.cast_ofNat, zpow_exponent_add_one, value]
    gcongr
    exact h.number_lt
  have hpos : 0 < f.value count := lt_of_lt_of_le (by positivity) hlow
  have hle := (Int.zpow_le_iff_le_log (by decide) hpos).1 hlow
  have hlt := (Int.lt_zpow_iff_log_lt (by decide) hpos).1 hhigh
  omega

theorem IsNormal.value_pos (h : f.IsNormal count) : 0 < f.value count := by
  have hnumber : 0 < f.number := Nat.lt_of_lt_of_le (Nat.pow_pos (by decide)) h.le_number
  unfold value
  positivity

/-! ## The nearest figures -/

theorem ofUnits_zero (count : Nat) : ofUnits count 0 = ⟨0, 0⟩ := if_pos rfl

theorem value_ofUnits_zero (count : Nat) : (ofUnits count 0).value count = 0 := by
  rw [ofUnits_zero, value, Nat.cast_zero, zero_mul]

theorem scaled_bounds (hcount : 0 < count) (hunits : units ≠ 0) :
    10 ^ (count - 1) ≤ scaled units (lastPlace count (leadingExponent units)) ∧
      scaled units (lastPlace count (leadingExponent units)) ≤ 10 ^ count := by
  obtain ⟨hlow, hhigh⟩ := leadingExponent_bounds hunits
  rw [zpow_exponent hcount] at hlow
  rw [zpow_exponent_add_one] at hhigh
  exact ⟨le_scaled hlow, scaled_le hhigh.le⟩

/-- A carry moves the exponent and leaves the value. -/
theorem value_ofUnits (hcount : 0 < count) (hunits : units ≠ 0) :
    (ofUnits count units).value count =
      scaled units (lastPlace count (leadingExponent units)) *
        10 ^ lastPlace count (leadingExponent units) := by
  unfold ofUnits
  rw [if_neg hunits]
  dsimp only
  split_ifs with hcarry
  · have hscaled : scaled units (lastPlace count (leadingExponent units)) = 10 ^ count := hcarry
    rw [hscaled, ← zpow_exponent_add_one, zpow_exponent hcount]
    rfl
  · rfl

theorem isNormal_ofUnits (hcount : 0 < count) (hunits : units ≠ 0) :
    (ofUnits count units).IsNormal count := by
  obtain ⟨hlow, hhigh⟩ := scaled_bounds hcount hunits
  unfold ofUnits
  rw [if_neg hunits]
  dsimp only
  split_ifs with hcarry
  · exact ⟨le_rfl, Nat.pow_lt_pow_right (by decide) (by omega)⟩
  · exact ⟨hlow, lt_of_le_of_ne hhigh hcarry⟩

theorem hasFigures_ofUnits (hcount : 0 < count) (units : Nat) :
    HasFigures count ((ofUnits count units).value count) := by
  apply hasFigures_value
  by_cases hunits : units = 0
  · rw [hunits, ofUnits_zero]
    exact Nat.pow_pos (by decide)
  · exact (isNormal_ofUnits hcount hunits).number_lt

theorem sign_ofUnits (hcount : 0 < count) (units : Nat) :
    SignType.sign ((ofUnits count units).value count) = SignType.sign (magnitude units) := by
  by_cases hunits : units = 0
  · rw [hunits, value_ofUnits_zero, magnitude_zero]
  · rw [sign_pos (isNormal_ofUnits hcount hunits).value_pos, sign_pos (magnitude_pos hunits)]

/-- A number with at most so many figures is a multiple of the last place, or lies below the leading one. -/
theorem multiple_or_below {d : ℚ} (h : HasFigures count d) (exponent : Int) :
    (∃ k : Nat, |d| = k * 10 ^ lastPlace count exponent) ∨ |d| < 10 ^ exponent := by
  obtain ⟨n, place, hn, hd⟩ := h
  rcases le_or_gt (lastPlace count exponent) place with hge | hlt
  · left
    obtain ⟨j, rfl⟩ := Int.le.dest hge
    refine ⟨n * 10 ^ j, ?_⟩
    rw [hd, zpow_add₀ (by decide), zpow_natCast, Nat.cast_mul, Nat.cast_pow, Nat.cast_ofNat]
    ring
  · right
    have hn : (n : ℚ) < 10 ^ count := by exact_mod_cast hn
    calc |d| = n * 10 ^ place := hd
      _ < 10 ^ count * 10 ^ place := by gcongr
      _ = 10 ^ (count + place) := by rw [zpow_add₀ (by decide), zpow_natCast]
      _ ≤ 10 ^ exponent := by
          apply zpow_le_zpow_right₀ (by decide)
          unfold lastPlace at hlt
          omega

/-- No number with at most so many figures is nearer than the chosen one. -/
theorem ofUnits_nearest (hcount : 0 < count) (units : Nat) {d : ℚ} (h : HasFigures count d) :
    |magnitude units - (ofUnits count units).value count| ≤ |magnitude units - d| := by
  by_cases hunits : units = 0
  · rw [hunits, magnitude_zero, value_ofUnits_zero, sub_zero, abs_zero]
    exact abs_nonneg _
  have hnear := scaled_nearest units (lastPlace count (leadingExponent units))
  -- on the other side of zero nothing is nearer than here
  have hsign : |magnitude units - abs d| ≤ |magnitude units - d| := by
    have hpositive := abs_abs_sub_abs_le_abs_sub (magnitude units) d
    rwa [abs_of_nonneg (magnitude_nonneg units)] at hpositive
  rw [value_ofUnits hcount hunits]
  refine le_trans ?_ hsign
  rcases multiple_or_below h (leadingExponent units) with ⟨k, hk⟩ | hbelow
  · rw [hk]
    exact hnear k
  · have hlow := (leadingExponent_bounds hunits).1
    refine (hnear (10 ^ (count - 1))).trans ?_
    rw [← zpow_exponent hcount, abs_of_nonneg (by linarith), abs_of_nonneg (by linarith)]
    linarith

end Choice

end Figures

end Grounding
