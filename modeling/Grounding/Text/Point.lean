/-!
# Code points in texts

A text from outside is a row of code points, and a half of a surrogate pair may be one of them even where
its partner is missing.  The characters of a `String` are code points without the halves.  So a half stands
in a text as one of the last 2048 characters, and a code point of that private range itself as two
characters: a mark, which is the character before them, and a stand-in.
-/

namespace Grounding.Text

/-- The first half of a surrogate pair. -/
def isHighHalf (n : Nat) : Bool := 0xD800 ≤ n && n ≤ 0xDBFF

/-- The second half of a surrogate pair. -/
def isLowHalf (n : Nat) : Bool := 0xDC00 ≤ n && n ≤ 0xDFFF

def isHalf (n : Nat) : Bool := 0xD800 ≤ n && n ≤ 0xDFFF

/-- The code point of a pair of halves. -/
def joined (high low : Nat) : Nat := 0x10000 + (high - 0xD800) * 0x400 + (low - 0xDC00)

/-- Where the characters that stand for halves begin. -/
def halvesStart : Nat := 0x10F800

/-- Goes before the stand-in of a code point that has no character of its own. -/
def mark : Char := Char.ofNat 0x10F7FF

/-- How far a stand-in is below the code point that it stands for. -/
def standInShift : Nat := 0x1000

/-- The characters that a code point is written with. -/
def ofPoint (n : Nat) : List Char :=
  if isHalf n then [Char.ofNat (n - 0xD800 + halvesStart)]
  else if mark.toNat ≤ n then [mark, Char.ofNat (n - standInShift)]
  else [Char.ofNat n]

def standsForHalf (c : Char) : Bool := halvesStart ≤ c.toNat

/-- The code point of a character that no mark goes before. -/
def pointOf (c : Char) : Nat :=
  if standsForHalf c then c.toNat - halvesStart + 0xD800 else c.toNat

def pointsFrom (marked : Bool) : List Char → List Nat
  | [] => if marked then [mark.toNat] else []
  | c :: rest =>
    if marked then (c.toNat + standInShift) :: pointsFrom false rest
    else if c == mark then pointsFrom true rest
    else pointOf c :: pointsFrom false rest

/-- The code points that characters are written for. -/
def points (s : List Char) : List Nat := pointsFrom false s

/-- How many code points a character adds to a text. -/
def width (c : Char) : Nat := if c == mark then 0 else 1

/-- Whether a text holds no half without its partner, so that it has an encoding. -/
def isWhole (s : String) : Bool := !s.toList.any standsForHalf

@[simp] theorem isWhole_append (s t : String) : isWhole (s ++ t) = (isWhole s && isWhole t) := by
  simp [isWhole]

/-- The text of characters that stand for themselves. -/
def ofCharacters (s : String) : String := String.ofList (s.toList.flatMap fun c => ofPoint c.toNat)

/-- The characters of a text without halves. -/
def characters (s : String) : String := String.ofList ((points s.toList).map Char.ofNat)

section RoundTrip

variable {n : Nat} {ps : List Nat}

theorem toNat_mark : mark.toNat = 0x10F7FF := rfl

theorem isHalf_iff : isHalf n = true ↔ 0xD800 ≤ n ∧ n ≤ 0xDFFF := by
  rw [isHalf, Bool.and_eq_true, decide_eq_true_eq, decide_eq_true_eq]

theorem standsForHalf_iff {c : Char} : standsForHalf c = true ↔ halvesStart ≤ c.toNat :=
  decide_eq_true_iff

theorem toNat_ofNat (h : ¬ isHalf n = true) (hn : n < 0x110000) : (Char.ofNat n).toNat = n := by
  have hvalid : n.isValidChar := by
    rw [isHalf_iff] at h
    rcases Nat.lt_or_ge n 0xD800 with hlt | hge
    · exact .inl hlt
    · exact .inr ⟨by omega, hn⟩
  rw [Char.ofNat, dif_pos hvalid]
  rfl

/-- What the characters of one code point are, case by case. -/
theorem ofPoint_cases (hn : n < 0x110000) :
    (isHalf n = true ∧ ∃ c, ofPoint n = [c] ∧ c.toNat = n - 0xD800 + halvesStart) ∨
      (¬ isHalf n = true ∧ mark.toNat ≤ n ∧
        ∃ c, ofPoint n = [mark, c] ∧ c.toNat = n - standInShift) ∨
      (¬ isHalf n = true ∧ n < mark.toNat ∧ ∃ c, ofPoint n = [c] ∧ c.toNat = n) := by
  have hmark := toNat_mark
  by_cases hhalf : isHalf n = true
  · refine .inl ⟨hhalf, _, if_pos hhalf, toNat_ofNat ?_ ?_⟩ <;>
      simp only [isHalf_iff, halvesStart] at hhalf ⊢ <;> omega
  · by_cases hhigh : mark.toNat ≤ n
    · have htwo : ofPoint n = [mark, Char.ofNat (n - standInShift)] := by
        rw [ofPoint, if_neg hhalf, if_pos hhigh]
      refine .inr (.inl ⟨hhalf, hhigh, _, htwo, toNat_ofNat ?_ ?_⟩) <;>
        simp only [isHalf_iff, standInShift] at hhalf ⊢ <;> omega
    · exact .inr (.inr ⟨hhalf, Nat.lt_of_not_le hhigh, _, by rw [ofPoint, if_neg hhalf, if_neg hhigh],
        toNat_ofNat hhalf hn⟩)

theorem pointsFrom_cons_of_ne {c : Char} (h : c.toNat ≠ mark.toNat) (rest : List Char) :
    pointsFrom false (c :: rest) = pointOf c :: pointsFrom false rest := by
  have hne : ¬ (c == mark) = true := fun heq => h (congrArg Char.toNat (eq_of_beq heq))
  rw [pointsFrom, if_neg Bool.false_ne_true, if_neg hne]

theorem pointsFrom_ofPoint (hn : n < 0x110000) (rest : List Char) :
    pointsFrom false (ofPoint n ++ rest) = n :: pointsFrom false rest := by
  have hmark := toNat_mark
  rcases ofPoint_cases hn with ⟨hhalf, c, hc, hval⟩ | ⟨hhalf, hhigh, c, hc, hval⟩ |
    ⟨hhalf, hlow, c, hc, hval⟩
  · have hpoint : pointOf c = n := by
      rw [isHalf_iff] at hhalf
      rw [pointOf, if_pos (standsForHalf_iff.2 (by omega)), hval]
      omega
    have hother : c.toNat ≠ mark.toNat := by
      rw [hval, hmark, halvesStart]
      omega
    rw [hc, List.singleton_append, pointsFrom_cons_of_ne hother, hpoint]
  · have hpoint : c.toNat + standInShift = n := by
      rw [hval, standInShift]
      omega
    rw [hc, List.cons_append, List.singleton_append, pointsFrom, if_neg Bool.false_ne_true,
      if_pos BEq.rfl, pointsFrom, if_pos rfl, hpoint]
  · have hpoint : pointOf c = n := by
      have hplain : ¬ standsForHalf c = true := by
        rw [standsForHalf_iff, halvesStart]
        omega
      rw [pointOf, if_neg hplain, hval]
    rw [hc, List.singleton_append, pointsFrom_cons_of_ne (by omega), hpoint]

/-- Every row of code points is the row of some text. -/
theorem points_flatMap_ofPoint (h : ∀ n ∈ ps, n < 0x110000) : points (ps.flatMap ofPoint) = ps := by
  induction ps with
  | nil => rfl
  | cons n rest ih =>
      rw [List.flatMap_cons, points, pointsFrom_ofPoint (h n List.mem_cons_self)]
      exact congrArg (n :: ·) (ih fun m hm => h m (List.mem_cons_of_mem n hm))

theorem any_standsForHalf_ofPoint (hn : n < 0x110000) :
    (ofPoint n).any standsForHalf = isHalf n := by
  have hmark := toNat_mark
  rcases ofPoint_cases hn with ⟨hhalf, c, hc, hval⟩ | ⟨hhalf, -, c, hc, hval⟩ |
    ⟨hhalf, hlow, c, hc, hval⟩
  · have hc' : standsForHalf c = true := standsForHalf_iff.2 (by omega)
    rw [hc, List.any_cons, hc', hhalf, Bool.true_or]
  · have hm : ¬ standsForHalf mark = true := by decide
    have hc' : ¬ standsForHalf c = true := by
      rw [standsForHalf_iff, hval, halvesStart, standInShift]
      omega
    rw [Bool.not_eq_true] at hm hc' hhalf
    rw [hc, List.any_cons, List.any_cons, hm, hc', hhalf, List.any_nil, Bool.false_or, Bool.false_or]
  · have hc' : ¬ standsForHalf c = true := by
      rw [standsForHalf_iff, hval, halvesStart]
      omega
    rw [Bool.not_eq_true] at hc' hhalf
    rw [hc, List.any_cons, hc', hhalf, List.any_nil, Bool.false_or]

/-- A text is whole exactly if none of its code points is a half. -/
theorem any_standsForHalf_flatMap_ofPoint (h : ∀ n ∈ ps, n < 0x110000) :
    (ps.flatMap ofPoint).any standsForHalf = ps.any isHalf := by
  induction ps with
  | nil => rfl
  | cons n rest ih =>
      rw [List.flatMap_cons, List.any_append, List.any_cons,
        any_standsForHalf_ofPoint (h n List.mem_cons_self),
        ih fun m hm => h m (List.mem_cons_of_mem n hm)]

end RoundTrip

end Grounding.Text
