import Grounding.Proofs.Number.FiniteRange

/-!
# Rounding finds the nearest double

Ranks come in blocks: those of block `s` stand for the multiples of `2 ^ s` with 53 leading bits, and
those of block zero for all smaller numbers too.  A quotient is rounded inside its own block.  Lower
blocks hold nothing above the start of that block, and higher ones nothing but its multiples, so no
other rank is nearer.
-/

namespace Grounding

/-! ## Rounding to an integer -/

/-- No multiple is nearer than the rounded one. -/
theorem roundHalfEven_nearest (num : Nat) {den : Nat} (hden : 0 < den) (k : Nat) :
    ((num : Int) - (den * roundHalfEven num den : Nat)).natAbs ≤
      ((num : Int) - (den * k : Nat)).natAbs := by
  have hsplit : den * (num / den) + num % den = num := Nat.div_add_mod num den
  have hrest : num % den < den := Nat.mod_lt num hden
  have hnext : den * (num / den + 1) = den * (num / den) + den := by ring
  have hfar : den * k ≤ den * (num / den) ∨ den * (num / den) + den ≤ den * k := by
    rcases Nat.lt_or_ge (num / den) k with hlt | hge
    · exact .inr (hnext ▸ Nat.mul_le_mul_left den hlt)
    · exact .inl (Nat.mul_le_mul_left den hge)
  unfold roundHalfEven
  dsimp only
  split_ifs <;> omega

/-- A multiple that is as near as the rounded one leaves the even one to be chosen. -/
theorem roundHalfEven_even_of_tie {num den k : Nat} (hden : 0 < den)
    (htie : ((num : Int) - (den * k : Nat)).natAbs =
      ((num : Int) - (den * roundHalfEven num den : Nat)).natAbs)
    (hk : k ≠ roundHalfEven num den) : roundHalfEven num den % 2 = 0 := by
  have hsplit : den * (num / den) + num % den = num := Nat.div_add_mod num den
  have hrest : num % den < den := Nat.mod_lt num hden
  have hnext : den * (num / den + 1) = den * (num / den) + den := by ring
  have hafter : den * (num / den + 2) = den * (num / den) + 2 * den := by ring
  -- the two neighbours of the quotient are the only candidates
  have hfar : k = num / den ∨ k = num / den + 1 ∨
      den * k + den ≤ den * (num / den) ∨ den * (num / den) + 2 * den ≤ den * k := by
    rcases Nat.lt_trichotomy k (num / den) with hlt | heq | hgt
    · exact .inr (.inr (.inl (Nat.mul_le_mul_left den hlt)))
    · exact .inl heq
    · rcases Nat.lt_or_ge (num / den + 1) k with hlt | hge
      · exact .inr (.inr (.inr (hafter ▸ Nat.mul_le_mul_left den hlt)))
      · exact .inr (.inl (by omega))
  unfold roundHalfEven at *
  dsimp only at *
  rcases hfar with rfl | rfl | hfar | hfar <;> split_ifs at * <;> omega

namespace Binary64

/-! ## Blocks of ranks -/

/-- The rank with these leading bits in this block. -/
theorem unitsOfRank_block {s q : Nat} (hq : q ≤ 2 ^ 53) (hs : s = 0 ∨ 2 ^ 52 ≤ q) :
    unitsOfRank (2 ^ 52 * s + q) = q * 2 ^ s := by
  unfold unitsOfRank
  simp only [Nat.pow_eq]
  split_ifs with hsmall
  · obtain rfl : s = 0 := by omega
    simp
  · rcases Nat.lt_or_ge q (2 ^ 53) with hlt | hge
    · have hdiv : (2 ^ 52 * s + q) / 2 ^ 52 = s + 1 := by omega
      have hmod : 2 ^ 52 + (2 ^ 52 * s + q) % 2 ^ 52 = q := by omega
      rw [hdiv, hmod, Nat.add_sub_cancel]
    -- a carry out of the block is the start of the next one
    · obtain rfl : q = 2 ^ 53 := by omega
      have hdiv : (2 ^ 52 * s + 2 ^ 53) / 2 ^ 52 = s + 2 := by omega
      have hmod : (2 ^ 52 * s + 2 ^ 53) % 2 ^ 52 = 0 := by omega
      rw [hdiv, hmod, Nat.add_zero, Nat.add_succ_sub_one, Nat.pow_succ 2 s]
      ring

/-- Every rank lies in a block. -/
theorem exists_block (r : Nat) :
    ∃ s q, r = 2 ^ 52 * s + q ∧ q < 2 ^ 53 ∧ (s = 0 ∨ 2 ^ 52 ≤ q) := by
  rcases Nat.lt_or_ge r (2 ^ 52) with hlt | hge
  · exact ⟨0, r, by omega, by omega, .inl rfl⟩
  · exact ⟨r / 2 ^ 52 - 1, 2 ^ 52 + r % 2 ^ 52, by omega, by omega, .inr (by omega)⟩

section Rank

variable {num den : Nat}

/-- A quotient is rounded in the block of its size, to at most 53 leading bits and a carry. -/
theorem rankOfUnits_block (num : Nat) (hden : 0 < den) :
    ∃ s, rankOfUnits num den = 2 ^ 52 * s + roundHalfEven num (den * 2 ^ s) ∧
      roundHalfEven num (den * 2 ^ s) ≤ 2 ^ 53 ∧
      (s = 0 ∨ 2 ^ 52 * (den * 2 ^ s) ≤ num ∧ 2 ^ 52 ≤ roundHalfEven num (den * 2 ^ s)) := by
  refine ⟨(num / den).log2 + 1 - 53, rfl, ?_⟩
  generalize hscale : (num / den).log2 + 1 - 53 = s
  have hquotient : num / (den * 2 ^ s) = num / den / 2 ^ s :=
    (Nat.div_div_eq_div_mul num den (2 ^ s)).symm
  have hlower := div_le_roundHalfEven num (den * 2 ^ s)
  have hupper := roundHalfEven_le_div_add_one num (den * 2 ^ s)
  have hbelow : num / den / 2 ^ s < 2 ^ 53 := by
    refine Nat.div_lt_of_lt_mul (Nat.lt_of_lt_of_le Nat.lt_log2_self ?_)
    rw [← Nat.pow_add]
    exact Nat.pow_le_pow_right (by decide) (by omega)
  refine ⟨by omega, ?_⟩
  rcases Nat.eq_zero_or_pos s with hzero | hpos
  · exact .inl hzero
  · have hne : num / den ≠ 0 := by
      intro hnone
      rw [hnone, Nat.log2_zero] at hscale
      omega
    have habove : 2 ^ 52 ≤ num / den / 2 ^ s := by
      rw [Nat.le_div_iff_mul_le (Nat.two_pow_pos s), ← Nat.pow_add]
      have hlog : 52 + s = (num / den).log2 := by omega
      rw [hlog]
      exact Nat.log2_self_le hne
    have hstart : 2 ^ 52 * (den * 2 ^ s) ≤ num := by
      rw [← Nat.le_div_iff_mul_le (Nat.mul_pos hden (Nat.two_pow_pos s)), hquotient]
      exact habove
    exact .inr ⟨hstart, by omega⟩

/-- Seen from a block, another rank stands for one of its multiples or lies below its start. -/
theorem unitsOfRank_multiple_or_below (s r : Nat) :
    (∃ k, unitsOfRank r = k * 2 ^ s) ∨ (s ≠ 0 ∧ unitsOfRank r < 2 ^ 52 * 2 ^ s) := by
  obtain ⟨t, q, rfl, hq, ht⟩ := exists_block r
  rw [unitsOfRank_block hq.le ht]
  rcases Nat.lt_or_ge t s with hlt | hge
  · refine .inr ⟨by omega, ?_⟩
    have hpow : 2 ^ (t + 1) ≤ 2 ^ s := Nat.pow_le_pow_right (by decide) hlt
    have hbits : q * 2 ^ t < 2 ^ 53 * 2 ^ t := Nat.mul_lt_mul_of_pos_right hq (Nat.two_pow_pos t)
    rw [Nat.pow_succ] at hpow
    omega
  · refine .inl ⟨q * 2 ^ (t - s), ?_⟩
    rw [Nat.mul_assoc, ← Nat.pow_add, Nat.sub_add_cancel hge]

/-- Below the block of a quotient, its start is nearer than anything. -/
theorem start_nearer {s w : Nat} (hden : 0 < den) (hstart : 2 ^ 52 * (den * 2 ^ s) ≤ num)
    (hw : w < 2 ^ 52 * 2 ^ s) :
    ((num : Int) - (den * 2 ^ s * 2 ^ 52 : Nat)).natAbs < ((num : Int) - (den * w : Nat)).natAbs := by
  have hbelow : den * w < den * (2 ^ 52 * 2 ^ s) := Nat.mul_lt_mul_of_pos_left hw hden
  have hexpand : den * (2 ^ 52 * 2 ^ s) = den * 2 ^ s * 2 ^ 52 := by ring
  rw [hexpand] at hbelow
  omega

/-- No rank is nearer to a quotient than the one that it is rounded to. -/
theorem rankOfUnits_nearest (num : Nat) (hden : 0 < den) (r : Nat) :
    ((num : Int) - (den * unitsOfRank (rankOfUnits num den) : Nat)).natAbs ≤
      ((num : Int) - (den * unitsOfRank r : Nat)).natAbs := by
  obtain ⟨s, hrank, hcarry, hblock⟩ := rankOfUnits_block num hden
  have hstep : 0 < den * 2 ^ s := Nat.mul_pos hden (Nat.two_pow_pos s)
  rw [hrank, unitsOfRank_block hcarry (hblock.imp_right And.right), Nat.mul_left_comm, Nat.mul_comm]
  rcases unitsOfRank_multiple_or_below s r with ⟨k, hk⟩ | ⟨hs, hbelow⟩
  · rw [hk, Nat.mul_left_comm, Nat.mul_comm k]
    exact roundHalfEven_nearest num hstep k
  · have hstart := (hblock.resolve_left hs).1
    exact (roundHalfEven_nearest num hstep (2 ^ 52)).trans (start_nearer hden hstart hbelow).le

/-- Where a rank for another value is as near, the even one was chosen. -/
theorem rankOfUnits_even_of_tie (hden : 0 < den) {r : Nat}
    (htie : ((num : Int) - (den * unitsOfRank r : Nat)).natAbs =
      ((num : Int) - (den * unitsOfRank (rankOfUnits num den) : Nat)).natAbs)
    (hr : unitsOfRank r ≠ unitsOfRank (rankOfUnits num den)) : rankOfUnits num den % 2 = 0 := by
  obtain ⟨s, hrank, hcarry, hblock⟩ := rankOfUnits_block num hden
  have hstep : 0 < den * 2 ^ s := Nat.mul_pos hden (Nat.two_pow_pos s)
  have hunits := unitsOfRank_block hcarry (hblock.imp_right And.right)
  rw [hrank] at htie hr ⊢
  rw [hunits, Nat.mul_left_comm _ _ (2 ^ s), Nat.mul_comm _ (den * 2 ^ s)] at htie
  rw [hunits] at hr
  rcases unitsOfRank_multiple_or_below s r with ⟨k, hk⟩ | ⟨hs, hbelow⟩
  · rw [hk, Nat.mul_left_comm, Nat.mul_comm k] at htie
    have hother : k ≠ roundHalfEven num (den * 2 ^ s) := by
      rintro rfl
      exact hr hk
    have heven := roundHalfEven_even_of_tie hstep htie hother
    have hblockEven : 2 ∣ 2 ^ 52 * s := Dvd.dvd.mul_right (by decide) s
    rw [Nat.add_mod, Nat.mod_eq_zero_of_dvd hblockEven, heven]
  · have hstart := (hblock.resolve_left hs).1
    have hnear := roundHalfEven_nearest num hstep (2 ^ 52)
    exact absurd htie (hnear.trans_lt (start_nearer hden hstart hbelow)).ne'

end Rank

/-! ## The nearest double to an integer -/

/-- The last bit of the significand is zero. -/
def IsEven : Binary64 → Prop
  | .finite _ rank => rank.val % 2 = 0
  | _ => False

/-- No double is nearer to the integer, and where one of another value is as near, this is the even
one. -/
def IsNearest (x : Binary64) (n : Int) : Prop :=
  ∃ u, x.units? = some u ∧ ∀ y v, units? y = some v →
    (u - n * unitsPerOne).natAbs ≤ (v - n * unitsPerOne).natAbs ∧
      ((v - n * unitsPerOne).natAbs = (u - n * unitsPerOne).natAbs → v ≠ u → x.IsEven)

theorem isFinite_ofInt (n : Int) : (ofInt n).isFinite = true ↔ n.natAbs < overflowBound :=
  isFinite_ofRatio_one _ _

/-- An integer in range is converted to the nearest double. -/
theorem isNearest_ofInt {n : Int} (hn : n.natAbs < overflowBound) : (ofInt n).IsNearest n := by
  have hrank : rankOfUnits (unitsPerOne * n.natAbs) 1 < rankBound :=
    (isFinite_ofUnits _ _ _).1 ((isFinite_ofInt n).2 hn)
  have hscaled : n * unitsPerOne =
      if n < 0 then -((unitsPerOne * n.natAbs : Nat) : Int) else (unitsPerOne * n.natAbs : Nat) := by
    rw [Nat.cast_mul, Int.natCast_natAbs]
    split_ifs with hneg
    · rw [abs_of_neg hneg]
      ring
    · rw [abs_of_nonneg (not_lt.1 hneg)]
      ring
  unfold ofInt ofRatio ofUnits
  rw [dif_pos hrank]
  refine ⟨_, rfl, ?_⟩
  intro y v hy
  rw [hscaled, IsEven]
  clear hscaled hn
  generalize unitsPerOne * n.natAbs = num at *
  cases y with
  | infinite negative => contradiction
  | nan => contradiction
  | finite negative rank =>
      obtain rfl := Option.some.inj hy
      have hnear := rankOfUnits_nearest num Nat.one_pos rank
      have heven := @rankOfUnits_even_of_tie num 1 Nat.one_pos rank
      -- a double on the other side is as far as zero at least
      have hzero := rankOfUnits_nearest num Nat.one_pos 0
      simp only [Nat.one_mul] at hnear heven hzero
      have hnone : unitsOfRank 0 = 0 := rfl
      rw [hnone] at hzero
      dsimp only
      generalize unitsOfRank rank = w at *
      generalize unitsOfRank (rankOfUnits num 1) = m at *
      by_cases hneg : n < 0 <;> cases negative <;>
        simp only [hneg, decide_true, decide_false, if_true, if_false, Bool.false_eq_true] <;> omega

end Binary64

end Grounding
