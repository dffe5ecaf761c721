import Grounding.Proofs.Network.Authority

/-!
# Names as URLs write them

A URL writes a name in lower case, with escapes for the few printable characters that have no place in it.
An IPv6 address in brackets stands there as it is, and in what looks like an IPv4 address there is nothing
to be written otherwise.
-/

namespace Grounding

namespace Text

variable {mark c : Char} {s : List Char}

theorem splitAtEach_of_not_mem (h : mark ∉ s) : splitAtEach mark s = [s] := by
  induction s with
  | nil => rfl
  | cons first rest ih =>
      obtain ⟨hfirst, hrest⟩ := List.ne_and_not_mem_of_not_mem_cons h
      rw [splitAtEach, ih hrest]
      dsimp only
      rw [if_neg (by simpa using hfirst.symm)]

theorem splitAtEach_ne_nil (mark : Char) (s : List Char) : splitAtEach mark s ≠ [] := by
  cases s with
  | nil => simp [splitAtEach]
  | cons first rest =>
      rw [splitAtEach]
      split
      · simp
      · split_ifs <;> simp

/-- Nothing but the marks is lost between the parts. -/
theorem exists_part_of_mem (hc : c ∈ s) (hmark : c ≠ mark) :
    ∃ part ∈ splitAtEach mark s, c ∈ part := by
  induction s with
  | nil => simp at hc
  | cons first rest ih =>
      obtain ⟨part, parts, hsplit⟩ :=
        List.exists_cons_of_ne_nil (splitAtEach_ne_nil mark rest)
      rw [hsplit] at ih
      rw [splitAtEach, hsplit]
      dsimp only
      rcases List.mem_cons.1 hc with rfl | hrest
      · rw [if_neg (by simpa using hmark)]
        exact ⟨c :: part, by simp, by simp⟩
      · obtain ⟨other, hother, hmem⟩ := ih hrest
        split_ifs
        · exact ⟨other, List.mem_cons_of_mem _ hother, hmem⟩
        · rcases List.mem_cons.1 hother with rfl | hparts
          · exact ⟨first :: other, by simp, by simp [hmem]⟩
          · exact ⟨other, List.mem_cons_of_mem _ hparts, hmem⟩

end Text

namespace Address

/-- The printable characters that a name may hold and a URL may not. -/
def marksToEscape : List Char := " <>[]^".toList

/-- How a URL writes one character of a name. -/
def spelling (c : Char) : List Char :=
  if c ∈ marksToEscape then Path.escapedByte c.toNat else [c.toLower]

/-- How a URL writes a name; brackets and what is in them stay. -/
def spelled (name : String) : String :=
  if IsBracketed name.toList then name else String.ofList (name.toList.flatMap spelling)

/-- The characters that the parts of a URL begin with. -/
def delimiters : List Char := ['@', '?', '#', '/', ':']

variable {name host : List Char} {c : Char}

/-! ## Characters -/

/-- What holds of the characters by number holds of all ASCII characters. -/
theorem forall_ascii {p : Char → Prop} (h : ∀ n < 128, p (Char.ofNat n)) (hc : c.toNat < 128) :
    p c := by
  have hnumber := h c.toNat hc
  rwa [Char.ofNat_toNat] at hnumber

theorem encodedChar_toLower (hascii : c.toNat < 128) (hcontrol : isControl c = false)
    (hdelimiter : c ∉ delimiters) : encodedChar c.toLower = spelling c := by
  have hall : ∀ n < 128, isControl (Char.ofNat n) = false → Char.ofNat n ∉ delimiters →
      encodedChar (Char.ofNat n).toLower = spelling (Char.ofNat n) := by
    decide +kernel
  exact forall_ascii (p := fun c => isControl c = false → c ∉ delimiters →
    encodedChar c.toLower = spelling c) hall hascii hcontrol hdelimiter

theorem colon_not_mem_spelling (hascii : c.toNat < 128) (hc : c ≠ ':') : ':' ∉ spelling c := by
  have hall : ∀ n < 128, Char.ofNat n ≠ ':' → ':' ∉ spelling (Char.ofNat n) := by
    decide +kernel
  exact forall_ascii (p := fun c => c ≠ ':' → ':' ∉ spelling c) hall hascii hc

theorem spelling_of_isAsciiDigit (h : c = '.' ∨ Text.isAsciiDigit c = true) :
    spelling c = [c] := by
  have hascii : c.toNat < 128 := by
    rcases h with rfl | hdigit
    · decide
    · simp only [Text.isAsciiDigit, Text.asciiDigitValue?] at hdigit
      split_ifs at hdigit with hrange
      · simp only [Bool.and_eq_true, decide_eq_true_eq] at hrange
        omega
      · simp at hdigit
  have hall : ∀ n < 128, Char.ofNat n = '.' ∨ Text.isAsciiDigit (Char.ofNat n) = true →
      spelling (Char.ofNat n) = [Char.ofNat n] := by
    decide +kernel
  exact forall_ascii (p := fun c => c = '.' ∨ Text.isAsciiDigit c = true → spelling c = [c])
    hall hascii h

/-! ## Addresses in numbers -/

/-- Only digits and points look like an IPv4 address. -/
theorem mem_of_looksIPv4 (h : looksIPv4 name = true) (hc : c ∈ name) :
    c = '.' ∨ Text.isAsciiDigit c = true := by
  by_cases hdot : c = '.'
  · exact .inl hdot
  · obtain ⟨part, hpart, hmem⟩ := Text.exists_part_of_mem hc hdot
    simp only [looksIPv4, Bool.and_eq_true, List.all_eq_true] at h
    exact .inr ((h.2 part hpart).2 c hmem)

theorem splitGap_of_not_mem {s : List Char} (h : ':' ∉ s) : splitGap s = none := by
  fun_induction splitGap s with
  | case1 => simp at h
  | case2 first rest _ ih =>
      rw [ih fun hrest => h (List.mem_cons_of_mem _ hrest)]
      rfl
  | case3 => rfl

/-- An IPv6 address has more than one group, and a colon between two of them. -/
theorem colon_mem_of_isIPv6 {s : List Char} (h : isIPv6 s = true) : ':' ∈ s := by
  by_contra hcolon
  simp only [isIPv6, Bool.and_eq_true] at h
  have hgroups := h.1
  have hno : ':' ∉ s.takeWhile (· != '%') := fun hmem =>
    hcolon ((List.takeWhile_sublist _).mem hmem)
  unfold isIPv6Groups at hgroups
  rw [splitGap_of_not_mem hno] at hgroups
  dsimp only at hgroups
  rw [groupsOf?, Text.splitAtEach_of_not_mem hno, groupCount?, beq_iff_eq] at hgroups
  split_ifs at hgroups <;> simp at hgroups

/-! ## Hosts -/

/-- What is in brackets has to be an IPv6 address, and stays as it is. -/
theorem encodeHost_brackets (inner : List Char) :
    encodeHost ('[' :: inner ++ [']']) =
      if isIPv6 inner then .ok inner
      else .error (.notIPv6 (String.ofList ('[' :: inner ++ [']']))) := by
  have hnumber : looksIPv4 ('[' :: inner ++ [']']) = false := by
    rw [Bool.eq_false_iff]
    intro hlooks
    exact absurd (mem_of_looksIPv4 (c := '[') hlooks (by simp)) (by decide)
  have hinner : ('[' :: inner ++ [']']).tail.dropLast = inner := by
    rw [List.cons_append, List.tail_cons, List.dropLast_concat]
  have hends : (('[' :: inner ++ [']']).head? == some '[' &&
      ('[' :: inner ++ [']']).getLast? == some ']') = true := by
    rw [List.getLast?_concat]
    rfl
  unfold encodeHost
  rw [hnumber, if_neg Bool.false_ne_true, hends, if_pos rfl]
  dsimp only
  rw [hinner]

/-- In brackets there is an IPv6 address or nothing that a URL can be made of. -/
theorem encodeHost_bracketed (h : IsBracketed name) (hok : encodeHost name = .ok host) :
    name = '[' :: host ++ [']'] ∧ ':' ∈ host := by
  obtain ⟨hhead, hlast⟩ := h
  obtain ⟨front, rfl⟩ := List.getLast?_eq_some_iff.1 hlast
  obtain ⟨inner, rfl⟩ := List.head?_eq_some_iff.1 (head?_front (by decide) hhead)
  rw [encodeHost_brackets] at hok
  split_ifs at hok with haddress
  obtain rfl := Except.ok.inj hok
  exact ⟨rfl, colon_mem_of_isIPv6 haddress⟩

/-- Any other host is spelled letter by letter. -/
theorem encodeHost_unbracketed (h : ¬ IsBracketed name) (hascii : ∀ c ∈ name, c.toNat < 128)
    (hcontrol : ∀ c ∈ name, isControl c = false) (hdelimiter : ∀ c ∈ name, c ∉ delimiters)
    (hok : encodeHost name = .ok host) : host = name.flatMap spelling := by
  have hbracket : (name.head? == some '[' && name.getLast? == some ']') = false := by
    rw [Bool.eq_false_iff]
    intro hboth
    rw [Bool.and_eq_true, beq_iff_eq, beq_iff_eq] at hboth
    exact h hboth
  unfold encodeHost at hok
  rw [hbracket, if_neg Bool.false_ne_true] at hok
  split_ifs at hok with hlooks hvalid
  · obtain rfl := Except.ok.inj hok
    have hsame : ∀ c ∈ name, spelling c = [c] := fun c hc =>
      spelling_of_isAsciiDigit (mem_of_looksIPv4 hlooks hc)
    rw [List.flatMap_congr hsame, List.flatMap_singleton']
  · obtain rfl := Except.ok.inj hok
    rw [List.flatMap_map]
    apply List.flatMap_congr
    intro c hc
    exact encodedChar_toLower (hascii c hc) (hcontrol c hc) (hdelimiter c hc)

/-- The name in a URL is the whole name as URLs spell it. -/
theorem hostText_of_encodeHost {a : Address} {name : String} (hruns : ¬ RunsOn name.toList)
    (hascii : ∀ c ∈ name.toList, c.toNat < 128)
    (hcontrol : ∀ c ∈ name.toList, isControl c = false)
    (hdelimiter : ∀ c ∈ name.toList, c ∈ delimiters → c = ':')
    (hok : encodeHost name.toList = .ok a.host.toList) : a.hostText = spelled name := by
  unfold hostText spelled
  by_cases hbracketed : IsBracketed name.toList
  · obtain ⟨hname, hcolon⟩ := encodeHost_bracketed hbracketed hok
    rw [if_pos (List.contains_iff_mem.2 hcolon), if_pos hbracketed]
    apply String.toList_injective
    rw [hname]
    simp
  · have hno : ':' ∉ name.toList := fun hmem => hruns ⟨hbracketed, .inl hmem⟩
    have hne : ∀ c ∈ name.toList, c ≠ ':' := fun c hc => ne_of_mem_of_not_mem hc hno
    have hhost := encodeHost_unbracketed hbracketed hascii hcontrol
      (fun c hc hmem => hne c hc (hdelimiter c hc hmem)) hok
    have hcolon : a.host.toList.contains ':' = false := by
      rw [Bool.eq_false_iff]
      intro hmem
      rw [List.contains_iff_mem, hhost] at hmem
      obtain ⟨c, hc, hspelled⟩ := List.mem_flatMap.1 hmem
      exact colon_not_mem_spelling (hascii c hc) (hne c hc) hspelled
    rw [hcolon, if_neg Bool.false_ne_true, if_neg hbracketed, ← hhost, String.ofList_toList]

end Address

end Grounding
