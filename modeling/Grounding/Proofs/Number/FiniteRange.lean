import Grounding.Number.Binary64
import Mathlib.Tactic.Ring

/-!
# Integers that round to finite doubles

Rounding to a double stays finite as long as the exact value is nearer to the largest double than to
the next power of two.  For integers this is one bound, and the value halfway between the two is
already beyond it, because the tie goes to the even side.
-/

namespace Grounding

/-! ## Rounding a quotient -/

theorem div_le_roundHalfEven (num den : Nat) : num / den ≤ roundHalfEven num den := by
  unfold roundHalfEven
  dsimp only
  split_ifs <;> omega

theorem roundHalfEven_le_div_add_one (num den : Nat) :
    roundHalfEven num den ≤ num / den + 1 := by
  unfold roundHalfEven
  dsimp only
  split_ifs <;> omega

/-- A quotient rounds to less than an even number exactly when it is nearer to the number before; the
tie goes to the even one. -/
theorem roundHalfEven_lt_iff (num : Nat) {den k : Nat} (hden : 0 < den) (hk : k % 2 = 0) :
    roundHalfEven num den < k ↔ 2 * num + den < 2 * (den * k) := by
  have hsplit : den * (num / den) + num % den = num := Nat.div_add_mod num den
  have hrest : num % den < den := Nat.mod_lt num hden
  have hlower := div_le_roundHalfEven num den
  have hupper := roundHalfEven_le_div_add_one num den
  rcases Nat.lt_trichotomy (num / den + 1) k with hlt | heq | hgt
  · have hmul : den * (num / den + 2) ≤ den * k := Nat.mul_le_mul_left den hlt
    rw [Nat.mul_add] at hmul
    constructor <;> intro _ <;> omega
  · -- only here does the remainder decide, and `num / den` is odd
    have hodd : (num / den) % 2 = 1 := by omega
    have hmul : den * k = den * (num / den) + den := by rw [← heq]; ring
    unfold roundHalfEven
    dsimp only
    split_ifs <;> omega
  · have hmul : den * k ≤ den * (num / den) := Nat.mul_le_mul_left den (by omega)
    constructor <;> intro _ <;> omega

/-! ## The rank of an integer -/

namespace Binary64

theorem log2_mul_two_pow {n : Nat} (hn : n ≠ 0) (k : Nat) :
    (n * 2 ^ k).log2 = n.log2 + k := by
  have hpos : n * 2 ^ k ≠ 0 := Nat.mul_ne_zero hn (Nat.two_pow_pos k).ne'
  rw [Nat.log2_eq_iff hpos, Nat.pow_add, Nat.add_right_comm, Nat.pow_add]
  exact ⟨Nat.mul_le_mul_right _ (Nat.log2_self_le hn),
    Nat.mul_lt_mul_of_pos_right Nat.lt_log2_self (Nat.two_pow_pos k)⟩

section Rank

variable {n u s : Nat}

/-- The rank of a multiple of `2 ^ u`: the block of its size, and 53 rounded leading bits. -/
theorem rankOfUnits_eq (hn : n ≠ 0) (hs : s + 52 = n.log2 + u) :
    rankOfUnits (n * 2 ^ u) 1 = s * 2 ^ 52 + roundHalfEven (n * 2 ^ u) (2 ^ s) := by
  have hscale : n.log2 + u + 1 - 53 = s := by omega
  unfold rankOfUnits
  rw [Nat.div_one, log2_mul_two_pow hn, hscale, Nat.mul_comm s]
  simp

theorem rankOfUnits_le (hn : n ≠ 0) (hs : s + 52 = n.log2 + u) :
    rankOfUnits (n * 2 ^ u) 1 ≤ (s + 2) * 2 ^ 52 := by
  have hnum : n * 2 ^ u < 2 ^ s * 2 ^ 53 := by
    calc n * 2 ^ u < 2 ^ (n.log2 + 1) * 2 ^ u :=
          Nat.mul_lt_mul_of_pos_right Nat.lt_log2_self (Nat.two_pow_pos u)
      _ = 2 ^ s * 2 ^ 53 := by rw [← Nat.pow_add, ← Nat.pow_add]; congr 1; omega
  have hdiv : n * 2 ^ u / 2 ^ s < 2 ^ 53 := Nat.div_lt_of_lt_mul hnum
  have hround := roundHalfEven_le_div_add_one (n * 2 ^ u) (2 ^ s)
  rw [rankOfUnits_eq hn hs]
  omega

theorem le_rankOfUnits (hn : n ≠ 0) (hs : s + 52 = n.log2 + u) :
    (s + 1) * 2 ^ 52 ≤ rankOfUnits (n * 2 ^ u) 1 := by
  have hnum : 2 ^ 52 * 2 ^ s ≤ n * 2 ^ u := by
    calc 2 ^ 52 * 2 ^ s = 2 ^ n.log2 * 2 ^ u := by
          rw [← Nat.pow_add, ← Nat.pow_add]; congr 1; omega
      _ ≤ n * 2 ^ u := Nat.mul_le_mul_right _ (Nat.log2_self_le hn)
  have hdiv : 2 ^ 52 ≤ n * 2 ^ u / 2 ^ s :=
    (Nat.le_div_iff_mul_le (Nat.two_pow_pos s)).2 hnum
  have hround := div_le_roundHalfEven (n * 2 ^ u) (2 ^ s)
  rw [rankOfUnits_eq hn hs]
  omega

/-- In the last block the rounding may still carry over into the next one. -/
theorem rankOfUnits_lt_iff_of_log2_eq {t : Nat} (hn : n ≠ 0) (hlog : n.log2 = t + 53) :
    rankOfUnits (n * 2 ^ u) 1 < (t + u + 3) * 2 ^ 52 ↔ n + 2 ^ t < 2 ^ t * 2 ^ 54 := by
  have hround := roundHalfEven_lt_iff (n * 2 ^ u) (k := 2 ^ 53)
    (Nat.two_pow_pos (t + u + 1)) (by decide)
  have hscale : 2 ^ (t + u + 1) = 2 * (2 ^ t * 2 ^ u) := by ring
  have hcancel : n + 2 ^ t < 2 ^ t * 2 ^ 54 ↔
      (n + 2 ^ t) * 2 ^ u < 2 ^ t * 2 ^ 54 * 2 ^ u :=
    (Nat.mul_lt_mul_right (Nat.two_pow_pos u)).symm
  have hexpand : (n + 2 ^ t) * 2 ^ u = n * 2 ^ u + 2 ^ t * 2 ^ u := by ring
  have htop : 2 ^ t * 2 ^ 54 * 2 ^ u = 2 ^ 54 * (2 ^ t * 2 ^ u) := by ring
  rw [rankOfUnits_eq (s := t + u + 1) hn (by omega), hcancel, hexpand, htop]
  rw [hscale] at hround ⊢
  omega

/-- Ranks below a block belong to the integers below the middle of the step that leads there. -/
theorem rankOfUnits_lt_iff (n t : Nat) (hu : 52 ≤ u) :
    rankOfUnits (n * 2 ^ u) 1 < (t + u + 3) * 2 ^ 52 ↔ n < 2 ^ t * (2 ^ 54 - 1) := by
  have hpos := Nat.two_pow_pos t
  by_cases hn : n = 0
  · subst hn
    simp [rankOfUnits, roundHalfEven]
  obtain ⟨s, hs⟩ : ∃ s, s + 52 = n.log2 + u := ⟨n.log2 + u - 52, by omega⟩
  have hbelow : n < 2 ^ (n.log2 + 1) := Nat.lt_log2_self
  have habove : 2 ^ n.log2 ≤ n := Nat.log2_self_le hn
  rw [Nat.mul_sub]
  rcases Nat.lt_trichotomy n.log2 (t + 53) with hlt | heq | hgt
  · have hrank := rankOfUnits_le hn hs
    have hpow : 2 ^ (n.log2 + 1) ≤ 2 ^ t * 2 ^ 53 := by
      rw [← Nat.pow_add]
      exact Nat.pow_le_pow_right (by decide) hlt
    constructor <;> intro _ <;> omega
  · rw [rankOfUnits_lt_iff_of_log2_eq hn heq]
    omega
  · have hrank := le_rankOfUnits hn hs
    have hpow : 2 ^ t * 2 ^ 54 ≤ 2 ^ n.log2 := by
      rw [← Nat.pow_add]
      exact Nat.pow_le_pow_right (by decide) hgt
    constructor <;> intro _ <;> omega

end Rank

/-! ## Finite doubles -/

/-- The least natural number that is too large for a double: halfway between the largest double and
the next power of two. -/
def overflowBound : Nat := 2 ^ 970 * (2 ^ 54 - 1)

theorem overflowBound_pos : 0 < overflowBound := by
  unfold overflowBound
  generalize 970 = t
  exact Nat.mul_pos (Nat.pow_pos (by decide)) (by decide)

theorem isFinite_ofUnits (negative : Bool) (num den : Nat) :
    (ofUnits negative num den).isFinite = true ↔ rankOfUnits num den < rankBound := by
  unfold ofUnits
  split_ifs with h <;> simp [isFinite, h]

theorem isFinite_ofRatio_one (negative : Bool) (n : Nat) :
    (ofRatio negative n 1).isFinite = true ↔ n < overflowBound := by
  have hrank : rankBound = (970 + 1074 + 3) * 2 ^ 52 := by decide
  rw [ofRatio, isFinite_ofUnits, hrank, Nat.mul_comm]
  unfold unitsPerOne overflowBound
  -- with the exponents as variables nothing tries to compute the powers
  generalize hu : 1074 = u
  generalize 970 = t
  exact rankOfUnits_lt_iff n t (by omega)

theorem isFinite_ofNat (n : Nat) : (ofNat n).isFinite = true ↔ n < overflowBound :=
  isFinite_ofRatio_one false n

/-! ## Between finite doubles -/

/-- What lies between two finite doubles is finite; NaN lies nowhere. -/
theorem isFinite_of_atMost {low x high : Binary64} (hlow : low.isFinite = true)
    (hhigh : high.isFinite = true) (h₁ : low.atMost x = true) (h₂ : x.atMost high = true) :
    x.isFinite = true := by
  cases x with
  | finite negative rank => rfl
  | infinite negative =>
      cases negative with
      | false => cases high <;> simp [isFinite, atMost] at hhigh h₂
      | true => cases low <;> simp [isFinite, atMost] at hlow h₁
  | nan => cases high <;> simp [atMost] at h₂

theorem exists_units {x : Binary64} (h : x.isFinite = true) : ∃ u, x.units? = some u := by
  cases x with
  | finite negative rank => exact ⟨_, rfl⟩
  | _ => contradiction

/-- Finite doubles are ordered like what they count in units. -/
theorem atMost_eq_decide {x y : Binary64} {u v : Int} (hx : x.units? = some u)
    (hy : y.units? = some v) : x.atMost y = decide (u ≤ v) := by
  cases x with
  | finite s a =>
      cases y with
      | finite t b =>
          obtain rfl := Option.some.inj hx
          obtain rfl := Option.some.inj hy
          rfl
      | _ => contradiction
  | _ => contradiction

/-- From zero to one there are only numbers. -/
theorem atMost_zero_one_iff {x : Binary64} :
    (zero.atMost x = true ∧ x.atMost one = true) ↔
      ∃ u, x.units? = some u ∧ 0 ≤ u ∧ u ≤ (unitsPerOne : Int) := by
  have hzero : zero.units? = some 0 := by decide +kernel
  have hone : one.units? = some (unitsPerOne : Int) := by decide +kernel
  constructor
  · rintro ⟨hlow, hhigh⟩
    have hfinite : x.isFinite = true :=
      isFinite_of_atMost (by decide +kernel) (by decide +kernel) hlow hhigh
    obtain ⟨u, hu⟩ := exists_units hfinite
    rw [atMost_eq_decide hzero hu, decide_eq_true_iff] at hlow
    rw [atMost_eq_decide hu hone, decide_eq_true_iff] at hhigh
    exact ⟨u, hu, hlow, hhigh⟩
  · rintro ⟨u, hu, hlow, hhigh⟩
    rw [atMost_eq_decide hzero hu, atMost_eq_decide hu hone, decide_eq_true_iff,
      decide_eq_true_iff]
    exact ⟨hlow, hhigh⟩

end Binary64

end Grounding
