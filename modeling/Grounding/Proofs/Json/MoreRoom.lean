import Grounding.Json.Encoding
import Grounding.Proofs.Json.Grammar

/-!
# Readers with more room

How deep containers may nest decides about nothing but whether a text nests too deep.  A text that one reader
gets through is the same to every reader with more room, and what is wrong with it is the same too.
-/

namespace Grounding.Json

variable {less more : Nat} (h : less ≤ more)
include h

/-- The induction is on the rounds of the reader with less room; the other one makes the same rounds. -/
theorem decodeLoop_of_le {digits : Option Nat} {fuel depth : Nat} {c : Cursor} {frames : List Frame}
    {next : Awaiting}
    (hfits : ∀ container,
      decodeLoop ⟨less, digits⟩ fuel c frames depth next ≠ .error (.tooDeep container)) :
    decodeLoop ⟨more, digits⟩ fuel c frames depth next =
      decodeLoop ⟨less, digits⟩ fuel c frames depth next := by
  -- Where the one opens a container, the other one has room for it.
  have hopens : ∀ depth, ¬ less ≤ depth → ¬ more ≤ depth := fun depth hless => by omega
  fun_induction decodeLoop ⟨less, digits⟩ fuel c frames depth next
  case case3 | case6 => exact absurd rfl (hfits _)
  all_goals simp_all +zetaDelta only [decodeLoop, not_false_eq_true, if_false, if_true,
    Bool.false_eq_true]
  all_goals
    next ih => exact ih hfits

theorem decodeWithin_of_le {body : List UInt8}
    (hfits : ∀ container, decodeWithin (.within less) body ≠ .error (.tooDeep container)) :
    decodeWithin (.within more) body = decodeWithin (.within less) body := by
  unfold decodeWithin at hfits ⊢
  split
  · rfl
  · next text htext =>
    rw [htext] at hfits
    simp only [decodeText, Limits.within] at hfits ⊢
    rw [decodeLoop_of_le h]
    intro container hdeep
    apply hfits container
    rw [hdeep]

end Grounding.Json
