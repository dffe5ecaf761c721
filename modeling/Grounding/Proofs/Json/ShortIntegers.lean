import Grounding.Json.Encoding
import Grounding.Proofs.Json.Grammar
import Grounding.Proofs.Json.Scalars

/-!
# Integers that are read

A reader refuses an integer of too many digits, so none is in what it has read, however deep.  So what was
read can be written again, unless a number in it is not finite.
-/

namespace Grounding.Json

/-! ## Properties of all that is read -/

/-- All scalars in a phrase have a property. -/
def Phrase.Every (p : Json → Prop) : Phrase → Prop
  | .value v => v.Every p
  | .moreItems items => (Json.arr items).Every p
  | .object written | .moreMembers written => (Json.obj written).Every p

/-- What all scalars of a text have in common, all scalars that are read have in common. -/
theorem Spans.every {limits : Limits} {depth : Nat} {c c' : Cursor} {phrase : Phrase}
    {p : Json → Prop} (h : Spans limits depth c phrase c')
    (hscalar : ∀ c c' v, scanScalar limits.digits c = .ok (v, c') → v.Every p)
    (hstring : ∀ s, p (.str s)) : phrase.Every p := by
  induction h with
  | scalar hscan => exact hscalar _ _ _ hscan
  | string => exact hstring _
  | emptyArray => exact every_arr.2 (by simp)
  | array _ _ _ _ hfirst hmore => exact every_arr.2 (List.forall_mem_cons.2 ⟨hfirst, every_arr.1 hmore⟩)
  | closeArray => exact every_arr.2 (by simp)
  | nextItem _ _ _ hnext hmore => exact every_arr.2 (List.forall_mem_cons.2 ⟨hnext, every_arr.1 hmore⟩)
  | ofObject _ hobject => exact hobject.settle
  | emptyObject => exact every_obj.2 (by simp)
  | object _ _ _ _ _ hfirst hmore =>
      exact every_obj.2 (List.forall_mem_cons.2 ⟨hfirst, every_obj.1 hmore⟩)
  | closeObject => exact every_obj.2 (by simp)
  | nextMember _ _ _ _ hnext hmore =>
      exact every_obj.2 (List.forall_mem_cons.2 ⟨hnext, every_obj.1 hmore⟩)

/-! ## Integers -/

/-- An integer has no more digits than the reader allows. -/
theorem shortIntegers_of_scanNumber {c c' : Cursor} {v : Json}
    (h : scanNumber (some numeralDigitLimit) c = .ok (v, c')) : v.HasShortIntegers := by
  unfold scanNumber at h
  generalize hlimit : numeralDigitLimit = limit at h
  split at h
  next negative body _ =>
  split at h
  next whole afterWhole _ =>
  split at h
  · contradiction
  · split at h
    next fraction afterFraction _ =>
    dsimp only at h
    split at h
    · obtain ⟨rfl, -⟩ := Prod.mk.inj (Except.ok.inj h)
      trivial
    · split at h
      · obtain ⟨rfl, -⟩ := Prod.mk.inj (Except.ok.inj h)
        trivial
      · split at h
        · contradiction
        · next hlong =>
          obtain ⟨rfl, -⟩ := Prod.mk.inj (Except.ok.inj h)
          change (Numeral.signed negative (digitsValue whole)).natAbs < Nat.pow 10 numeralDigitLimit
          rw [Numeral.natAbs_signed, hlimit]
          exact Nat.lt_of_lt_of_le (Numeral.ofDigits_ascii_lt _)
            (Nat.pow_le_pow_right (by decide) (Nat.le_of_not_lt hlong))

theorem shortIntegers_of_scanScalar {c c' : Cursor} {v : Json}
    (h : scanScalar (some numeralDigitLimit) c = .ok (v, c')) : v.HasShortIntegers := by
  unfold scanScalar at h
  split at h
  · next word value hword =>
    obtain ⟨rfl, -⟩ := Prod.mk.inj (Except.ok.inj h)
    have hall : ∀ w ∈ words, w.2.HasShortIntegers := by simp [words]
    exact hall _ (List.mem_of_find?_eq_some hword)
  · exact shortIntegers_of_scanNumber h

/-- What was read can be written again, unless a number in it is not finite. -/
theorem shortIntegers_of_decodeWithin {nesting : Nat} {body : List UInt8} {v : Json}
    (h : decodeWithin (.within nesting) body = .ok v) : v.HasShortIntegers := by
  unfold decodeWithin at h
  split at h
  · contradiction
  · obtain ⟨c, hspans, -⟩ := decodeText_eq_ok_iff.1 h
    exact hspans.every (fun _ _ _ => shortIntegers_of_scanScalar) fun _ => trivial

end Grounding.Json
