import Grounding.Text.Blank
import Mathlib.Data.List.DropRight

/-!
# Trimmed texts

A trimmed text begins and ends with a character that is kept.  Trimming gives such a text, and such a text
is not changed by it.
-/

namespace Grounding.Text

/-- No character of the class stands at either end. -/
structure IsTrimmed (p : Char → Bool) (s : List Char) : Prop where
  head : ∀ c, s.head? = some c → p c = false
  last : ∀ c, s.getLast? = some c → p c = false

variable {p : Char → Bool} {s : List Char}

theorem head?_of_prefix {l : List Char} {c : Char} (h : s <+: l) (hs : s.head? = some c) :
    l.head? = some c := by
  obtain ⟨behind, rfl⟩ := h
  rw [List.head?_append, hs]
  rfl

theorem prefix_of_trim (p : Char → Bool) (s : List Char) : trim p s <+: s.dropWhile p :=
  List.rdropWhile_prefix p _

theorem isTrimmed_trim (p : Char → Bool) (s : List Char) : IsTrimmed p (trim p s) where
  head := by
    intro c hc
    -- what is cut off at the end leaves the first character in its place
    have hhead := head?_of_prefix (prefix_of_trim p s) hc
    have hkept := List.head?_dropWhile_not p s
    rw [hhead] at hkept
    simpa using hkept
  last := by
    intro c hc
    unfold trim at hc
    rw [List.getLast?_reverse] at hc
    have hkept := List.head?_dropWhile_not p (s.dropWhile p).reverse
    rw [hc] at hkept
    simpa using hkept

theorem dropWhile_of_head {l : List Char} (h : ∀ c, l.head? = some c → p c = false) :
    l.dropWhile p = l := by
  cases l with
  | nil => rfl
  | cons c rest =>
      have hc : p c = false := h c rfl
      simp [hc]

theorem IsTrimmed.trim_eq_self (h : IsTrimmed p s) : trim p s = s := by
  have hback : ∀ c, s.reverse.head? = some c → p c = false := by
    intro c hc
    rw [List.head?_reverse] at hc
    exact h.last c hc
  unfold trim
  rw [dropWhile_of_head h.head, dropWhile_of_head hback, List.reverse_reverse]

end Grounding.Text
