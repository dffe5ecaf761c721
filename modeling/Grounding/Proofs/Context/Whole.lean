import Grounding.Context.Basic
import Grounding.Conversation.Basic
import Grounding.Text.Point
import Mathlib.Tactic.SplitIfs

/-!
# Contexts that can be encoded

A block holds sources and contents as they are, and nothing else in it is beyond ASCII.  So it can be encoded
if they can, and so can a query with the block in front.
-/

namespace Grounding

/-! ## Texts within ASCII -/

namespace Text

def IsAscii (s : List Char) : Prop := ∀ c ∈ s, c.toNat < 128

section

variable {s t : List Char} {c : Char}

@[simp] theorem isAscii_nil : IsAscii [] := by simp [IsAscii]

@[simp] theorem isAscii_cons : IsAscii (c :: s) ↔ c.toNat < 128 ∧ IsAscii s := by simp [IsAscii]

@[simp] theorem isAscii_append : IsAscii (s ++ t) ↔ IsAscii s ∧ IsAscii t := by
  simp [IsAscii, or_imp, forall_and]

theorem IsAscii.sublist (h : IsAscii t) (hsub : s.Sublist t) : IsAscii s :=
  fun c hc => h c (hsub.mem hc)

theorem isAscii_toDigits (n : Nat) : IsAscii (Nat.toDigits 10 n) := by
  intro c hc
  have hdigit := Nat.isDigit_of_mem_toDigits (by decide) (by decide) hc
  have hrange : 48 ≤ c.toNat ∧ c.toNat ≤ 57 := by
    simpa [Char.isDigit, UInt32.le_iff_toNat_le] using hdigit
  omega

end

theorem isWhole_of_isAscii {s : String} (h : IsAscii s.toList) : isWhole s = true := by
  unfold isWhole
  rw [Bool.not_eq_true', List.any_eq_false]
  intro c hc
  have hascii := h c hc
  rw [standsForHalf_iff, halvesStart]
  omega

theorem isWhole_toString (n : Nat) : isWhole (toString n) = true := by
  apply isWhole_of_isAscii
  have hdigits : (toString n).toList = Nat.toDigits 10 n := by simp
  rw [hdigits]
  exact isAscii_toDigits n

end Text

/-! ## Figures and dates -/

namespace Figures

open Text (IsAscii)

theorem isAscii_fractionText {digits : List Char} (h : IsAscii digits) :
    IsAscii (fractionText digits) := by
  have hkept : IsAscii (dropTrailingZeros digits) := by
    intro c hc
    exact h c (List.mem_reverse.1 ((List.dropWhile_sublist _).mem (List.mem_reverse.1 hc)))
  unfold fractionText
  split
  · simp
  · exact Text.isAscii_cons.2 ⟨by decide, hkept⟩

theorem isAscii_exponentText (exponent : Int) : IsAscii (exponentText exponent) := by
  have hdigits := Text.isAscii_toDigits exponent.natAbs
  unfold exponentText
  dsimp only
  split_ifs <;> simp [decimalDigits, hdigits]

theorem isAscii_layout (count : Nat) (f : Figures) : IsAscii (layout count f) := by
  have hdigits : IsAscii (decimalDigits f.number) := Text.isAscii_toDigits f.number
  have hzeros (n : Nat) : IsAscii (List.replicate n '0') := by
    intro c hc
    rw [List.eq_of_mem_replicate hc]
    decide
  unfold layout
  dsimp only
  split_ifs
  · simp
  · exact Text.isAscii_cons.2
      ⟨by decide, isAscii_fractionText (Text.isAscii_append.2 ⟨hzeros _, hdigits⟩)⟩
  · exact Text.isAscii_append.2 ⟨hdigits.sublist (List.take_sublist _ _),
      isAscii_fractionText (hdigits.sublist (List.drop_sublist _ _))⟩
  · refine Text.isAscii_append.2 ⟨Text.isAscii_append.2 ⟨?_, ?_⟩, isAscii_exponentText _⟩
    · exact hdigits.sublist (List.take_sublist _ _)
    · exact isAscii_fractionText (hdigits.sublist (List.drop_sublist _ _))

end Figures

theorem Binary64.isWhole_significantText (count : Nat) (x : Binary64) :
    Text.isWhole (x.significantText count) = true := by
  cases x with
  | finite negative rank =>
      apply Text.isWhole_of_isAscii
      have htext := Figures.isAscii_layout count (Figures.ofUnits count (unitsOfRank rank))
      unfold significantText signedText
      dsimp only
      rw [String.toList_ofList]
      split_ifs
      · exact Text.isAscii_cons.2 ⟨by decide, htext⟩
      · exact htext
  | infinite negative =>
      change Text.isWhole (if negative then "-inf" else "inf") = true
      cases negative <;> decide +kernel
  | nan =>
      change Text.isWhole "nan" = true
      decide +kernel

theorem Date.isWhole_text (d : Date) : Text.isWhole d.text = true := by
  have hdigits (n : Nat) : Text.isWhole (twoDigits n) = true := by
    unfold twoDigits
    split_ifs
    · rw [Text.isWhole_append, Text.isWhole_toString]
      decide
    · exact Text.isWhole_toString n
  simp only [text, Text.isWhole_append, Text.isWhole_toString, hdigits]
  decide

/-! ## Contexts -/

/-- The texts of a passage can be encoded. -/
structure Passage.IsWhole (p : Passage) : Prop where
  content : Text.isWhole p.content = true
  source : Text.isWhole p.source = true

namespace Context

theorem isWhole_entry (number : Nat) {p : Passage} (h : p.IsWhole) :
    Text.isWhole (entry number p) = true := by
  have hnumber := Text.isWhole_toString number
  have hrelevance : Text.isWhole (relevance p) = true := Binary64.isWhole_significantText _ _
  unfold entry
  simp only [Text.isWhole_append, hnumber, h.content, h.source, hrelevance]
  decide

theorem isWhole_entries {passages : List Passage} (h : ∀ p ∈ passages, p.IsWhole) (first : Nat) :
    Text.isWhole (entries first passages) = true := by
  induction passages generalizing first with
  | nil => exact (by decide : Text.isWhole "" = true)
  | cons p rest ih =>
      obtain ⟨hp, hrest⟩ := List.forall_mem_cons.1 h
      rw [entries, Text.isWhole_append, isWhole_entry first hp, ih hrest]
      rfl

/-- A block can be encoded if all sources and contents can. -/
theorem isWhole_render {passages : List Passage} (h : ∀ p ∈ passages, p.IsWhole) :
    Text.isWhole (render passages) = true := by
  cases passages with
  | nil => decide
  | cons p rest =>
      rw [render]
      · simp only [Text.isWhole_append, isWhole_entries h]
        decide
      · simp

end Context

/-- A context that can be encoded makes a preface that can. -/
theorem Conversation.isWhole_preface {context : String} (h : Text.isWhole context = true)
    (today : Date) : Text.isWhole (preface context today) = true := by
  have hmark : Text.isWhole queryMark = true := by decide +kernel
  have hnote : Text.isWhole (dateNote today) = true := by
    have hfront : Text.isWhole "[System Note] Current date: " = true := by decide +kernel
    unfold dateNote
    rw [Text.isWhole_append, hfront, Date.isWhole_text]
    rfl
  rw [preface, Text.isWhole_append, hmark, Bool.and_true]
  split_ifs
  · exact hnote
  · exact h

end Grounding
