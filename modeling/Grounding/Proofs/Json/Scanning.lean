import Grounding.Json.Decode
import Mathlib.Data.List.TakeWhile
import Mathlib.Tactic.SplitIfs

/-!
# What the scanners take

Separators, strings, names and scalars are scanned without looking at what is open around them.  Every
scanner but that of separators takes something from the text if it succeeds, and the first character tells
which of them it is.
-/

namespace Grounding.Json

/-! ## Separators, strings and names -/

theorem length_skip_le (c : Cursor) : c.skip.rest.length ≤ c.rest.length := by
  obtain ⟨rest, offset⟩ := c
  unfold Cursor.skip
  dsimp only
  fun_induction skipFrom rest offset with
  | case1 => exact Nat.le_refl _
  | case2 offset first rest _ ih =>
      rw [List.length_cons]
      omega
  | case3 => exact Nat.le_refl _

theorem length_skip_mk_le (rest : List Char) (offset : Nat) :
    (Cursor.skip ⟨rest, offset⟩).rest.length ≤ rest.length :=
  length_skip_le ⟨rest, offset⟩

theorem length_lt_of_skip {c : Cursor} {first : Char} {rest : List Char}
    (h : c.skip.rest = first :: rest) : rest.length < c.rest.length := by
  have hskip := length_skip_le c
  rwa [h] at hskip

/-- A string ends with its closing quote, which is not part of what is left. -/
theorem length_lt_of_scanString {start offset : Nat} {rest taken : List Char} {stage : Stage}
    {high : Option Nat} {s : String} {c' : Cursor}
    (h : scanString start rest offset stage high taken = .ok (s, c')) :
    c'.rest.length < rest.length := by
  fun_induction scanString start rest offset stage high taken with
  | case1 => contradiction
  | case2 => contradiction
  | case3 first rest offset high taken mark left value d _ _ high' taken' _ ih =>
      exact Nat.lt_succ_of_lt (ih h)
  | case4 first rest offset high taken mark left value d _ _ ih =>
      exact Nat.lt_succ_of_lt (ih h)
  | case5 first rest offset high taken _ ih => exact Nat.lt_succ_of_lt (ih h)
  | case6 => contradiction
  | case7 first rest offset high taken _ letter _ ih => exact Nat.lt_succ_of_lt (ih h)
  | case8 first rest offset high taken _ =>
      obtain ⟨-, rfl⟩ := Prod.mk.inj (Except.ok.inj h)
      exact Nat.lt_succ_self _
  | case9 first rest offset high taken _ _ ih => exact Nat.lt_succ_of_lt (ih h)
  | case10 => contradiction
  | case11 first rest offset high taken _ _ _ ih => exact Nat.lt_succ_of_lt (ih h)
  | case12 first rest offset high taken mark _ =>
      obtain ⟨-, rfl⟩ := Prod.mk.inj (Except.ok.inj h)
      exact Nat.lt_succ_self _
  | case13 first rest offset high taken mark _ _ ih => exact Nat.lt_succ_of_lt (ih h)
  | case14 => contradiction
  | case15 first rest offset high taken mark _ _ _ ih => exact Nat.lt_succ_of_lt (ih h)

theorem length_lt_of_scanName {c c' : Cursor} {name : String}
    (h : scanName c = .ok (name, c')) : c'.rest.length < c.rest.length := by
  unfold scanName at h
  split at h
  · contradiction
  · next quote rest hrest =>
    split_ifs at h with hquote
    cases hscan : scanString c.offset rest (c.offset + 1) .plain none [] with
    | error fault =>
        rw [hscan] at h
        contradiction
    | ok scanned =>
        obtain ⟨s, c₁⟩ := scanned
        have hstring := length_lt_of_scanString hscan
        rw [hscan] at h
        dsimp only [bind, Except.bind] at h
        split at h
        · next more hcolon =>
          obtain ⟨-, rfl⟩ := Prod.mk.inj (Except.ok.inj h)
          have hmore := length_skip_mk_le more (c₁.skip.offset + 1)
          have hbefore := length_lt_of_skip hcolon
          rw [hrest, List.length_cons]
          omega
        · contradiction

/-- A name begins with a quote and not with a closing brace. -/
theorem head_ne_of_scanName {c c' : Cursor} {name : String} (h : scanName c = .ok (name, c'))
    (rest : List Char) : c.rest ≠ '}' :: rest := by
  intro hrest
  rw [scanName, hrest] at h
  dsimp only at h
  rw [if_neg (by decide)] at h
  contradiction

/-! ## Numbers and words -/

/-- What numbers and words begin with. -/
def beginsScalar (c : Char) : Bool := Text.isAsciiDigit c || "-ntfNI".toList.contains c

theorem length_takeDigits_le (s : List Char) : (takeDigits s).2.length ≤ s.length :=
  (List.dropWhile_suffix _).length_le

theorem length_takeFraction_le (s : List Char) : (takeFraction s).2.length ≤ s.length := by
  unfold takeFraction
  split
  · next more =>
    split_ifs
    · exact Nat.le_refl _
    · exact Nat.le_succ_of_le (length_takeDigits_le more)
  · exact Nat.le_refl _

theorem length_takeSign_le (s : List Char) : (Numeral.takeSign s).2.length ≤ s.length := by
  unfold Numeral.takeSign
  split
  · exact Nat.le_succ _
  · exact Nat.le_succ _
  · exact Nat.le_refl _

theorem length_le_of_takeExponent {s rest : List Char} {exponent : Int} {width : Nat}
    (h : takeExponent s = some (exponent, width, rest)) : rest.length ≤ s.length := by
  unfold takeExponent at h
  split at h
  · next mark more =>
    dsimp only at h
    split_ifs at h
    obtain ⟨-, hrest⟩ := Prod.mk.inj (Option.some.inj h)
    obtain ⟨-, rfl⟩ := Prod.mk.inj hrest
    have hsign := length_takeSign_le more
    have htaken := length_takeDigits_le (Numeral.takeSign more).2
    rw [List.length_cons]
    omega
  · contradiction

/-- A number has digits for its whole part, and is no object. -/
theorem scanNumber_eq_ok {digits : Option Nat} {c c' : Cursor} {v : Json}
    (h : scanNumber digits c = .ok (v, c')) :
    ∃ body, (c.rest = body ∨ c.rest = '-' :: body) ∧ (takeWhole body).1 ≠ [] ∧
      c'.rest.length ≤ (takeWhole body).2.length ∧ ∀ members, v ≠ .obj members := by
  unfold scanNumber at h
  split at h
  next negative body hsign =>
  have hbody : c.rest = body ∨ c.rest = '-' :: body := by
    split at hsign
    · next more hrest =>
      obtain ⟨-, rfl⟩ := Prod.mk.inj hsign
      exact .inr hrest
    · exact .inl (Prod.mk.inj hsign).2
  split at h
  next whole afterWhole hwhole =>
  split at h
  · contradiction
  · next hempty =>
    refine ⟨body, hbody, ?_⟩
    rw [hwhole]
    refine ⟨by simpa using hempty, ?_⟩
    have hfraction := length_takeFraction_le afterWhole
    split at h
    next fraction afterFraction htake =>
    rw [htake] at hfraction
    dsimp only at h
    split at h
    · next exponent width rest hexponent =>
      obtain ⟨rfl, rfl⟩ := Prod.mk.inj (Except.ok.inj h)
      exact ⟨Nat.le_trans (length_le_of_takeExponent hexponent) hfraction, by simp⟩
    · split at h
      · obtain ⟨rfl, rfl⟩ := Prod.mk.inj (Except.ok.inj h)
        exact ⟨hfraction, by simp⟩
      · split at h
        · split at h
          · contradiction
          · obtain ⟨rfl, rfl⟩ := Prod.mk.inj (Except.ok.inj h)
            exact ⟨Nat.le_refl _, by simp⟩
        · obtain ⟨rfl, rfl⟩ := Prod.mk.inj (Except.ok.inj h)
          exact ⟨Nat.le_refl _, by simp⟩

/-- The whole part is taken from the front of the digits. -/
theorem takeWhole_append (s : List Char) : (takeWhole s).1 ++ (takeWhole s).2 = s := by
  unfold takeWhole
  split
  · rfl
  · exact List.takeWhile_append_dropWhile

theorem isAsciiDigit_of_takeWhole {s : List Char} {c : Char} (h : c ∈ (takeWhole s).1) :
    Text.isAsciiDigit c = true := by
  unfold takeWhole at h
  split at h
  · obtain rfl := List.mem_singleton.1 h
    decide
  · exact List.mem_takeWhile_imp h

/-- What is known of a scalar and where it stands. -/
structure IsScalarAt (c c' : Cursor) (v : Json) : Prop where
  begins : ∃ first rest, c.rest = first :: rest ∧ beginsScalar first = true
  length_lt : c'.rest.length < c.rest.length
  not_object : ∀ members, v ≠ .obj members

theorem isScalarAt_of_scanNumber {digits : Option Nat} {c c' : Cursor} {v : Json}
    (h : scanNumber digits c = .ok (v, c')) : IsScalarAt c c' v := by
  obtain ⟨body, hbody, hwhole, hlength, hobject⟩ := scanNumber_eq_ok h
  obtain ⟨digit, more, hdigits⟩ := List.exists_cons_of_ne_nil hwhole
  have hdigit : Text.isAsciiDigit digit = true := by
    apply isAsciiDigit_of_takeWhole (s := body)
    rw [hdigits]
    exact List.mem_cons_self
  have hsplit := takeWhole_append body
  rw [hdigits, List.cons_append] at hsplit
  have hshort : c'.rest.length < body.length := by
    rw [← hsplit, List.length_cons, List.length_append]
    omega
  rcases hbody with hrest | hrest
  · refine ⟨⟨digit, _, hrest.trans hsplit.symm, ?_⟩, by rwa [hrest], hobject⟩
    rw [beginsScalar, hdigit, Bool.true_or]
  · refine ⟨⟨'-', body, hrest, by decide⟩, ?_, hobject⟩
    rw [hrest, List.length_cons]
    omega

theorem isScalarAt_of_scanScalar {digits : Option Nat} {c c' : Cursor} {v : Json}
    (h : scanScalar digits c = .ok (v, c')) : IsScalarAt c c' v := by
  unfold scanScalar at h
  split at h
  · next word value hword =>
    obtain ⟨rfl, rfl⟩ := Prod.mk.inj (Except.ok.inj h)
    have hmem := List.mem_of_find?_eq_some hword
    have hheads : ∀ w ∈ words, w.1.toList.head?.map beginsScalar = some true := by decide
    obtain ⟨first, hhead, hbegins⟩ := Option.map_eq_some_iff.1 (hheads _ hmem)
    obtain ⟨rest, hfirst⟩ := List.head?_eq_some_iff.1 hhead
    have hobject : ∀ w ∈ words, ∀ members, w.2 ≠ .obj members := by simp [words]
    have hprefix : word.toList <+: c.rest := by
      simpa using List.find?_some hword
    obtain ⟨after, hafter⟩ := hprefix
    have hlength : 0 < word.length := by
      rw [← String.length_toList]
      simp [hfirst]
    refine ⟨⟨first, rest ++ after, ?_, hbegins⟩, ?_, hobject _ hmem⟩
    · rw [← hafter, hfirst, List.cons_append]
    · rw [List.length_drop, ← hafter, List.length_append, String.length_toList]
      omega
  · exact isScalarAt_of_scanNumber h

end Grounding.Json
