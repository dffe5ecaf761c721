import Grounding.Proofs.Network.HostName
import Mathlib.Algebra.Order.BigOperators.Group.List

/-!
# The texts of IPv6 addresses

An IPv6 address is written with hexadecimal digits, colons and points alone.  It has at least two colons, and
since each group is short and there are at most eight of them, so is the text.
-/

namespace Grounding

namespace Text

variable {mark c : Char} {s : List Char}

/-- There is one part more than there are marks. -/
theorem length_splitAtEach (mark : Char) (s : List Char) :
    (splitAtEach mark s).length = s.count mark + 1 := by
  induction s with
  | nil => rfl
  | cons first rest ih =>
      obtain ⟨part, parts, hsplit⟩ := List.exists_cons_of_ne_nil (splitAtEach_ne_nil mark rest)
      rw [hsplit] at ih
      rw [splitAtEach, hsplit]
      dsimp only
      split_ifs with hfirst
      · simp [List.count_cons, hfirst] at ih ⊢
        omega
      · simpa [List.count_cons, hfirst] using ih

/-- A text is as long as its parts and the marks between them. -/
theorem sum_length_splitAtEach (mark : Char) (s : List Char) :
    ((splitAtEach mark s).map (·.length + 1)).sum = s.length + 1 := by
  induction s with
  | nil => rfl
  | cons first rest ih =>
      obtain ⟨part, parts, hsplit⟩ := List.exists_cons_of_ne_nil (splitAtEach_ne_nil mark rest)
      rw [hsplit] at ih
      rw [splitAtEach, hsplit]
      dsimp only
      split_ifs
      · simp at ih ⊢
        omega
      · simp at ih ⊢
        omega

end Text

namespace Address

variable {s part before after : List Char} {parts : List (List Char)} {dotted : Bool} {n : Nat}
  {c : Char}

/-! ## Single parts -/

/-- What the text of an address is made of. -/
def isNumeric (c : Char) : Bool := c == ':' || c == '.' || (Text.hexDigitValue? c).isSome

theorem isNumeric_of_isAsciiDigit (h : Text.isAsciiDigit c = true) : isNumeric c = true := by
  simp only [Text.isAsciiDigit, Text.asciiDigitValue?] at h
  split_ifs at h with hrange
  · simp [isNumeric, Text.hexDigitValue?, hrange]
  · contradiction

theorem isNumeric_of_isGroup (h : isGroup part = true) (hc : c ∈ part) : isNumeric c = true := by
  simp only [isGroup, Bool.and_eq_true, List.all_eq_true] at h
  simp [isNumeric, h.2 c hc]

theorem length_of_isGroup (h : isGroup part = true) : part.length ≤ 4 := by
  simp only [isGroup, Bool.and_eq_true, decide_eq_true_eq] at h
  exact h.1.2

theorem isNumeric_of_isIPv4 (h : isIPv4 part = true) (hc : c ∈ part) : isNumeric c = true := by
  by_cases hdot : c = '.'
  · simp [isNumeric, hdot]
  · obtain ⟨octet, hoctet, hmem⟩ := Text.exists_part_of_mem hc hdot
    simp only [isIPv4, Bool.and_eq_true, List.all_eq_true] at h
    have hoctet := h.2 octet hoctet
    simp only [isOctet, Bool.and_eq_true, List.all_eq_true] at hoctet
    exact isNumeric_of_isAsciiDigit (hoctet.1.1.1.2 c hmem)

theorem length_of_isIPv4 (h : isIPv4 part = true) : part.length ≤ 15 := by
  simp only [isIPv4, Bool.and_eq_true, beq_iff_eq, List.all_eq_true] at h
  obtain ⟨hfour, hoctets⟩ := h
  have hshort : ∀ octet ∈ Text.splitAtEach '.' part, octet.length + 1 ≤ 4 := by
    intro octet hoctet
    have hoctet := hoctets octet hoctet
    simp only [isOctet, Bool.and_eq_true, decide_eq_true_eq] at hoctet
    have := hoctet.1.1.2
    omega
  have hsum := Text.sum_length_splitAtEach '.' part
  have hbound := List.sum_le_card_nsmul ((Text.splitAtEach '.' part).map (·.length + 1)) 4 <| by
    simpa using hshort
  rw [hsum, List.length_map, hfour] at hbound
  simp at hbound
  omega

/-! ## Rows of parts -/

/-- Only a dotted part counts for two. -/
theorem groupCount?_le (h : groupCount? dotted parts = some n) : n ≤ parts.length + 1 := by
  fun_induction groupCount? dotted parts generalizing n with
  | case1 =>
      obtain rfl := Option.some.inj h
      omega
  | case2 =>
      obtain rfl := Option.some.inj h
      simp
  | case3 =>
      obtain rfl := Option.some.inj h
      simp
  | case4 => contradiction
  | case5 part rest _ hgroup ih =>
      obtain ⟨m, hm, rfl⟩ := Option.map_eq_some_iff.1 h
      have hrest := ih hm
      rw [List.length_cons]
      omega
  | case6 => contradiction

theorem sum_length_of_groupCount? (h : groupCount? dotted parts = some n) :
    (parts.map (·.length + 1)).sum ≤ 8 * n := by
  fun_induction groupCount? dotted parts generalizing n with
  | case1 => simp
  | case2 part hgroup =>
      obtain rfl := Option.some.inj h
      have hlength := length_of_isGroup hgroup
      simp
      omega
  | case3 part hgroup hdotted =>
      obtain rfl := Option.some.inj h
      have hlength := length_of_isIPv4 (Bool.and_eq_true _ _ ▸ hdotted).2
      simp
      omega
  | case4 => contradiction
  | case5 part rest _ hgroup ih =>
      obtain ⟨m, hm, rfl⟩ := Option.map_eq_some_iff.1 h
      have hrest := ih hm
      have hlength := length_of_isGroup hgroup
      simp at hrest ⊢
      omega
  | case6 => contradiction

theorem isNumeric_of_groupCount? (h : groupCount? dotted parts = some n) (hpart : part ∈ parts)
    (hc : c ∈ part) : isNumeric c = true := by
  fun_induction groupCount? dotted parts generalizing n with
  | case1 => contradiction
  | case2 only hgroup =>
      obtain rfl := List.mem_singleton.1 hpart
      exact isNumeric_of_isGroup hgroup hc
  | case3 only hgroup hdotted =>
      obtain rfl := List.mem_singleton.1 hpart
      exact isNumeric_of_isIPv4 (Bool.and_eq_true _ _ ▸ hdotted).2 hc
  | case4 => contradiction
  | case5 first rest _ hgroup ih =>
      obtain ⟨m, hm, rfl⟩ := Option.map_eq_some_iff.1 h
      rcases List.mem_cons.1 hpart with rfl | hrest
      · exact isNumeric_of_isGroup hgroup hc
      · exact ih hm hrest
  | case6 => contradiction

/-! ## Texts between colons -/

theorem groupCount?_of_groupsOf? (hne : s ≠ []) (h : groupsOf? dotted s = some n) :
    groupCount? dotted (Text.splitAtEach ':' s) = some n := by
  unfold groupsOf? at h
  rwa [if_neg (by simpa using hne)] at h

theorem isNumeric_of_groupsOf? (h : groupsOf? dotted s = some n) (hc : c ∈ s) :
    isNumeric c = true := by
  by_cases hcolon : c = ':'
  · simp [isNumeric, hcolon]
  · obtain ⟨part, hpart, hmem⟩ := Text.exists_part_of_mem hc hcolon
    have hcount := groupCount?_of_groupsOf? (List.ne_nil_of_mem hc) h
    exact isNumeric_of_groupCount? hcount hpart hmem

theorem length_of_groupsOf? (h : groupsOf? dotted s = some n) : s.length ≤ 8 * n := by
  by_cases hempty : s = []
  · simp [hempty]
  · have hsum := sum_length_of_groupCount? (groupCount?_of_groupsOf? hempty h)
    rw [Text.sum_length_splitAtEach] at hsum
    omega

theorem le_count_of_groupsOf? (hne : s ≠ []) (h : groupsOf? dotted s = some n) :
    n ≤ s.count ':' + 2 := by
  have hcount := groupCount?_le (groupCount?_of_groupsOf? hne h)
  rw [Text.length_splitAtEach] at hcount
  omega

/-! ## Whole addresses -/

theorem eq_of_splitGap (h : splitGap s = some (before, after)) :
    s = before ++ ':' :: ':' :: after := by
  fun_induction splitGap s generalizing before with
  | case1 rest =>
      obtain ⟨rfl, rfl⟩ := Prod.mk.inj (Option.some.inj h)
      rfl
  | case2 first rest _ ih =>
      obtain ⟨⟨front, behind⟩, hsplit, hpair⟩ := Option.map_eq_some_iff.1 h
      obtain ⟨rfl, rfl⟩ := Prod.mk.inj hpair
      rw [ih hsplit, List.cons_append]
  | case3 => contradiction

/-- An address has eight groups, or two rows of them with a double colon between. -/
theorem exists_groups_of_isIPv6Groups (h : isIPv6Groups s = true) :
    groupsOf? true s = some 8 ∨ ∃ before after m n, s = before ++ ':' :: ':' :: after ∧
      groupsOf? false before = some m ∧ groupsOf? true after = some n ∧ m + n ≤ 7 := by
  unfold isIPv6Groups at h
  split at h
  · exact .inl (by simpa using h)
  · next before after hgap =>
    split at h
    · next m n hbefore hafter =>
      exact .inr ⟨before, after, m, n, eq_of_splitGap hgap, hbefore, hafter, by simpa using h⟩
    · contradiction

theorem isNumeric_of_isIPv6Groups (h : isIPv6Groups s = true) (hc : c ∈ s) :
    isNumeric c = true := by
  rcases exists_groups_of_isIPv6Groups h with hgroups | ⟨before, after, m, n, rfl, hbefore, hafter, -⟩
  · exact isNumeric_of_groupsOf? hgroups hc
  · simp only [List.mem_append, List.mem_cons] at hc
    rcases hc with hc | rfl | rfl | hc
    · exact isNumeric_of_groupsOf? hbefore hc
    · rfl
    · rfl
    · exact isNumeric_of_groupsOf? hafter hc

theorem two_le_count_colon (h : isIPv6Groups s = true) : 2 ≤ s.count ':' := by
  rcases exists_groups_of_isIPv6Groups h with hgroups | ⟨before, after, m, n, rfl, -, -, -⟩
  · have hne : s ≠ [] := by
      rintro rfl
      contradiction
    have hcount := le_count_of_groupsOf? hne hgroups
    omega
  · simp
    omega

theorem length_of_isIPv6Groups (h : isIPv6Groups s = true) : s.length ≤ 64 := by
  rcases exists_groups_of_isIPv6Groups h with hgroups | ⟨before, after, m, n, rfl, hbefore, hafter, hle⟩
  · exact length_of_groupsOf? hgroups
  · have hfront := length_of_groupsOf? hbefore
    have hbehind := length_of_groupsOf? hafter
    simp
    omega

end Address

end Grounding
