import Grounding.Context.Basic
import Grounding.Proofs.Number.FigureText

/-!
# The relevance of a passage

The relevance that a block shows is the nearest number with six significant figures.  Whatever the double,
from the smallest to the largest, the text is read as a number that no other one with as few figures is
nearer to, and a carry in rounding moves the text to the other notation where the number is beyond its range.
-/

namespace Grounding

open Binary64

/-! ## Signed numbers -/

/-- The text shows the number `x` as `d`, in at most so many figures: it reads as `d`, and no number with as
few figures is nearer to `x`.  Behind a point there is no zero at the end, and there is an exponent exactly
when the one of `d` is out of the positional range; zero has the exponent zero. -/
structure ShowsNearest (count : Nat) (x d : ℚ) (text : String) : Prop where
  reads : Decimal.value? text = some d
  hasFigures : HasFigures count d
  nearest : ∀ other, HasFigures count other → |x - d| ≤ |x - other|
  sign_eq : SignType.sign d = SignType.sign x
  trimmed : Decimal.HasTrimmedFraction text.toList
  mark_iff : 'e' ∈ text.toList ↔ Int.log 10 |d| < -4 ∨ (count : Int) ≤ Int.log 10 |d|

section Signed

variable {count : Nat} {s : ℚ}

theorem abs_sign_mul (hs : |s| = 1) (q : ℚ) : |s * q| = |q| := by
  rw [abs_mul, hs, one_mul]

/-- The nearest figures with a sign are nearest to the magnitude with the same sign. -/
theorem signed_nearest (hcount : 0 < count) (hs : |s| = 1) (units : Nat) {other : ℚ}
    (hother : HasFigures count other) :
    |s * magnitude units - s * (Figures.ofUnits count units).value count| ≤
      |s * magnitude units - other| := by
  have hsquare : s * s = 1 := by
    rw [← abs_mul_abs_self, hs, one_mul]
  have hflipped : HasFigures count (s * other) := by
    rwa [HasFigures, abs_sign_mul hs]
  calc |s * magnitude units - s * (Figures.ofUnits count units).value count|
      = |magnitude units - (Figures.ofUnits count units).value count| := by
        rw [← mul_sub, abs_sign_mul hs]
    _ ≤ |magnitude units - s * other| := Figures.ofUnits_nearest hcount units hflipped
    _ = |s * (s * magnitude units - other)| := by
        rw [mul_sub, ← mul_assoc, hsquare, one_mul]
    _ = |s * magnitude units - other| := abs_sign_mul hs _

end Signed

theorem value?_finite (negative : Bool) (rank : Fin rankBound) :
    (finite negative rank).value? =
      some ((if negative then -1 else 1) * magnitude (unitsOfRank rank)) := by
  have hunits : (finite negative rank).units? =
      some (if negative then -(unitsOfRank rank : Int) else unitsOfRank rank) := rfl
  rw [value?, hunits, Option.map_some, magnitude]
  cases negative with
  | true => rw [if_pos rfl, if_pos rfl, Int.cast_neg, Int.cast_natCast, neg_div, neg_one_mul]
  | false => rw [if_neg Bool.false_ne_true, if_neg Bool.false_ne_true, Int.cast_natCast, one_mul]

section Text

variable {count : Nat} (hcount : 0 < count) (negative : Bool) (rank : Fin rankBound)
include hcount

theorem exists_significantText_eq :
    ∃ t : DecimalText, (finite negative rank).significantText count = String.ofList t.toList ∧
      t.negative = negative ∧
      t.value = (if negative then -1 else 1) * (Figures.ofUnits count (unitsOfRank rank)).value count ∧
      (t.power?.isSome = true ↔
        Int.log 10 ((Figures.ofUnits count (unitsOfRank rank)).value count) < -4 ∨
          (count : Int) ≤ Int.log 10 ((Figures.ofUnits count (unitsOfRank rank)).value count)) := by
  obtain ⟨t, hnegative, hbody, hmagnitude, hpower⟩ :=
    Figures.exists_text_ofUnits hcount (unitsOfRank rank) negative
  refine ⟨t, ?_, hnegative, ?_, hpower⟩
  · rw [significantText, signedText, DecimalText.toList, hbody, hnegative]
  · rw [DecimalText.value, hnegative, hmagnitude]

/-- Even a zero shows its sign. -/
theorem head?_significantText :
    ((finite negative rank).significantText count).toList.head? = some '-' ↔ negative = true := by
  obtain ⟨t, htext, hnegative, -, -⟩ := exists_significantText_eq hcount negative rank
  rw [htext, String.toList_ofList, t.head?_toList, hnegative]

theorem showsNearest_significantText :
    ∃ x d, (finite negative rank).value? = some x ∧
      ShowsNearest count x d ((finite negative rank).significantText count) := by
  obtain ⟨t, htext, -, hvalue, hpower⟩ := exists_significantText_eq hcount negative rank
  have hs : |if negative then (-1 : ℚ) else 1| = 1 := by
    split_ifs <;> simp
  have habs : |t.value| = (Figures.ofUnits count (unitsOfRank rank)).value count := by
    rw [hvalue, abs_sign_mul hs, abs_of_nonneg (Figures.value_nonneg count _)]
  refine ⟨_, t.value, value?_finite negative rank, ?_⟩
  rw [htext]
  constructor
  case reads => exact t.value?_toList
  case hasFigures =>
    have hmagnitude := Figures.hasFigures_ofUnits hcount (unitsOfRank rank)
    rw [hvalue]
    rwa [HasFigures, abs_sign_mul hs]
  case nearest =>
    intro other hother
    rw [hvalue]
    exact signed_nearest hcount hs _ hother
  case sign_eq => rw [hvalue, sign_mul, sign_mul, Figures.sign_ofUnits hcount]
  case trimmed =>
    rw [String.toList_ofList]
    exact t.hasTrimmedFraction_toList
  case mark_iff => rw [String.toList_ofList, t.mark_mem_toList, hpower, habs]

end Text

/-! ## Relevances -/

namespace Context

/-- The relevance in an entry shows a finite similarity in six figures, with a minus in front exactly when its
sign is set. -/
theorem relevance_nearest {p : Passage} {negative : Bool} {rank : Fin rankBound}
    (hp : p.similarity = .finite negative rank) :
    (∀ number, entry number p = "\n[Source " ++ toString number ++ ": " ++ p.source ++
      " (relevance: " ++ relevance p ++ ")]\n" ++ p.content ++ "\n") ∧
    ((relevance p).toList.head? = some '-' ↔ negative = true) ∧
    ∃ x d, p.similarity.value? = some x ∧ ShowsNearest 6 x d (relevance p) := by
  have hsix : 0 < 6 := by decide
  refine ⟨fun number => rfl, ?_, ?_⟩
  · rw [relevance, hp]
    exact head?_significantText hsix negative rank
  · rw [relevance, hp]
    exact showsNearest_significantText hsix negative rank

/-- A similarity halfway between the last number of six figures with none behind the point and the first that
needs an exponent. -/
def midway : Passage := { similarity := .finite false ⟨4696837142389719040, by decide⟩ }

theorem relevance_nearest_midway :
    midway.similarity.value? = some (1999999 / 2) ∧ relevance midway = "1e+06" ∧
      ShowsNearest 6 (1999999 / 2) 1000000 "1e+06" := by
  have hvalue : midway.similarity.value? = some (1999999 / 2) := by decide +kernel
  have htext : relevance midway = "1e+06" := by decide +kernel
  have hread : Decimal.value? "1e+06" = some 1000000 := by decide +kernel
  obtain ⟨-, -, x, d, hx, hshows⟩ := relevance_nearest (p := midway) rfl
  rw [htext] at hshows
  obtain rfl := Option.some.inj (hx.symm.trans hvalue)
  obtain rfl := Option.some.inj (hshows.reads.symm.trans hread)
  exact ⟨hvalue, htext, hshows⟩

end Context

end Grounding
