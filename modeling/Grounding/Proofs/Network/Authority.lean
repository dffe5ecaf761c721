import Grounding.Proofs.Network.HostText

/-!
# Names before a port

The endpoint is put together as a name, a colon and a port, and the client takes that text apart again
by a rule of its own.  The client finds the same name if it is in brackets or holds no colon.  From any
other name with a colon or a closing bracket something is left that runs on into the port, and that is no
numeral.
-/

namespace Grounding.Address

/-- A name that begins with an opening bracket and ends with a closing one. -/
def IsBracketed (name : List Char) : Prop := name.head? = some '[' ∧ name.getLast? = some ']'

instance (name : List Char) : Decidable (IsBracketed name) :=
  inferInstanceAs (Decidable (_ ∧ _))

/-- A name with a colon outside brackets, or with more text after the brackets that it begins with. -/
def RunsOn (name : List Char) : Prop :=
  ¬ IsBracketed name ∧ (':' ∈ name ∨ (name.head? = some '[' ∧ ']' ∈ name))

instance (name : List Char) : Decidable (RunsOn name) := inferInstanceAs (Decidable (_ ∧ _))

/-! ## The host part -/

section HostPart

variable {name front behind port : List Char}

/-- Brackets end at the last closing one. -/
theorem splitHost_of_bracket (hhead : front.head? = some '[') (hbehind : ']' ∉ behind) :
    splitHost (front ++ ']' :: behind) = (front ++ [']'], behind) := by
  have hne : front ≠ [] := by
    rintro rfl
    simp at hhead
  have hcond : ((front ++ ']' :: behind).head? == some '[' &&
      (front ++ ']' :: behind).contains ']') = true := by
    rw [List.head?_append_of_ne_nil _ hne, hhead]
    simp
  have hother : ∀ c ∈ behind.reverse, (c != ']') = true := fun c hc =>
    bne_iff_ne.2 (ne_of_mem_of_not_mem (List.mem_reverse.1 hc) hbehind)
  have htail : ((front ++ ']' :: behind).reverse.takeWhile (· != ']')).reverse = behind := by
    calc ((front ++ ']' :: behind).reverse.takeWhile (· != ']')).reverse
        = ((behind.reverse ++ ']' :: front.reverse).takeWhile (· != ']')).reverse := by simp
      _ = behind := by
        rw [List.takeWhile_append_of_pos hother, List.takeWhile_cons_of_neg (by simp),
          List.append_nil, List.reverse_reverse]
  have hlength : (front ++ ']' :: behind).length - behind.length = (front ++ [']']).length := by
    simp only [List.length_append, List.length_cons, List.length_nil]
    omega
  have htake : (front ++ ']' :: behind).take (front ++ [']']).length = front ++ [']'] := by
    rw [List.append_cons front _ behind]
    exact List.take_left
  rw [splitHost, if_pos hcond]
  dsimp only
  rw [htail, hlength, htake]

/-- Without brackets the host ends at the first colon. -/
theorem splitHost_of_colon (hbracket : ¬ (front.head? = some '[' ∧ ']' ∈ front ++ behind))
    (hfront : ':' ∉ front) : splitHost (front ++ ':' :: behind) = (front, ':' :: behind) := by
  have hcond : ((front ++ ':' :: behind).head? == some '[' &&
      (front ++ ':' :: behind).contains ']') = false := by
    rw [Bool.eq_false_iff]
    intro h
    rw [Bool.and_eq_true, beq_iff_eq, List.contains_iff_mem] at h
    cases front with
    | nil => simp at h
    | cons first more => exact hbracket (by simpa using h)
  have hother : ∀ c ∈ front, (c != ':') = true := fun c hc =>
    bne_iff_ne.2 (ne_of_mem_of_not_mem hc hfront)
  rw [splitHost, hcond, if_neg Bool.false_ne_true, List.takeWhile_append_of_pos hother,
    List.dropWhile_append_of_pos hother, List.takeWhile_cons_of_neg (by simp),
    List.dropWhile_cons_of_neg (by simp), List.append_nil]

/-- A text with a mark ends in what is behind the last one. -/
theorem exists_last_mark {mark : Char} {s : List Char} (h : mark ∈ s) :
    ∃ front behind, s = front ++ mark :: behind ∧ mark ∉ behind := by
  obtain ⟨before, after, hsplit, hbefore⟩ :=
    List.eq_append_cons_of_mem (List.mem_reverse.2 h)
  refine ⟨after.reverse, before.reverse, ?_, by simpa using hbefore⟩
  rw [← List.reverse_reverse s, hsplit]
  simp

theorem head?_front {mark first : Char} (hmark : mark ≠ first)
    (h : (front ++ mark :: behind).head? = some first) : front.head? = some first := by
  cases front with
  | nil => exact absurd (Option.some.inj h) hmark
  | cons c rest => exact h

/-- The name of an endpoint is found again, whatever follows its colon. -/
theorem splitHost_whole (h : ¬ RunsOn name) (hport : ']' ∉ port) :
    splitHost (name ++ ':' :: port) = (name, ':' :: port) := by
  by_cases hbracketed : IsBracketed name
  · obtain ⟨hhead, hlast⟩ := hbracketed
    obtain ⟨front, rfl⟩ := List.getLast?_eq_some_iff.1 hlast
    rw [← List.append_cons]
    exact splitHost_of_bracket (head?_front (by decide) hhead) (by simpa using hport)
  · obtain ⟨hcolon, hbracket⟩ := not_or.1 fun hruns => h ⟨hbracketed, hruns⟩
    refine splitHost_of_colon ?_ hcolon
    rintro ⟨hhead, hmem⟩
    exact hbracket ⟨hhead, (List.mem_append.1 hmem).resolve_right hport⟩

/-- Of a name that runs on something is left before the port. -/
theorem splitHost_runsOn (h : RunsOn name) (hport : ']' ∉ port) :
    ∃ left, left ≠ [] ∧ (splitHost (name ++ ':' :: port)).2 = left ++ ':' :: port := by
  obtain ⟨hnot, hruns⟩ := h
  by_cases hbracket : name.head? = some '[' ∧ ']' ∈ name
  · obtain ⟨hhead, hmem⟩ := hbracket
    obtain ⟨front, left, rfl, hleft⟩ := exists_last_mark hmem
    have hbehind : ']' ∉ left ++ ':' :: port := by simp [hleft, hport]
    refine ⟨left, ?_, ?_⟩
    · rintro rfl
      exact hnot ⟨hhead, List.getLast?_concat⟩
    · rw [List.append_assoc, List.cons_append,
        splitHost_of_bracket (head?_front (by decide) hhead) hbehind]
  · obtain ⟨front, behind, rfl, hfront⟩ :=
      List.eq_append_cons_of_mem (hruns.resolve_right hbracket)
    have hopen : ¬ (front.head? = some '[' ∧ ']' ∈ front ++ (behind ++ ':' :: port)) := by
      rintro ⟨hhead, hmem⟩
      refine hbracket ⟨?_, ?_⟩
      · rw [List.head?_append, hhead]
        rfl
      · simpa [hport] using hmem
    refine ⟨':' :: behind, List.cons_ne_nil _ _, ?_⟩
    rw [List.append_assoc, List.cons_append, splitHost_of_colon hopen hfront]

end HostPart

/-! ## The port part -/

/-- What follows a host, without the colon between the two. -/
def afterColon (rest : List Char) : List Char :=
  match rest with
  | ':' :: more => more
  | _ => rest

/-- What the text of a port says.  It may be empty. -/
def portOf (text : List Char) : Except Fault (Option Int) :=
  if text.isEmpty then .ok none
  else
    match readInteger (String.ofList text) with
    | .ok port => .ok (some port)
    | .error _ => .error (.badPort (String.ofList text))

theorem readPort_eq (rest : List Char) : readPort rest = portOf (afterColon rest) := by
  unfold readPort portOf afterColon
  rfl

theorem readPort_toString {port : Int} (h : port.natAbs < Nat.pow 10 numeralDigitLimit) :
    readPort (':' :: (toString port).toList) = .ok (some port) := by
  have hread := readInteger_toString h
  have hne : (toString port).toList.isEmpty = false := by
    rw [List.isEmpty_eq_false_iff]
    intro hnil
    have hempty : readInteger "" = .error (.notInteger "") := by decide
    rw [String.toList_eq_nil_iff.1 hnil, hempty] at hread
    cases hread
  have hafter : afterColon (':' :: (toString port).toList) = (toString port).toList := rfl
  rw [readPort_eq, hafter, portOf, hne, if_neg Bool.false_ne_true, String.ofList_toList, hread]

theorem portOf_of_mem {text : List Char} (h : ':' ∈ text) :
    portOf text = .error (.badPort (String.ofList text)) := by
  have hcolon : ':' ∈ (String.ofList text).toList := by rwa [String.toList_ofList]
  obtain ⟨fault, hfault⟩ := readInteger_of_mem hcolon (by decide)
  have hne : text.isEmpty = false := List.isEmpty_eq_false_iff.2 (List.ne_nil_of_mem h)
  rw [portOf, hne, if_neg Bool.false_ne_true, hfault]

theorem colon_mem_afterColon {left : List Char} (port : List Char) (hleft : left ≠ []) :
    ':' ∈ afterColon (left ++ ':' :: port) := by
  obtain ⟨first, more, rfl⟩ := List.exists_cons_of_ne_nil hleft
  unfold afterColon
  split
  · next rest heq =>
    obtain ⟨-, rfl⟩ := List.cons.inj heq
    simp
  · simp

/-- What is left of a name makes the port unreadable, since a colon is in it. -/
theorem readPort_runsOn {left : List Char} (port : List Char) (hleft : left ≠ []) :
    ∃ text, readPort (left ++ ':' :: port) = .error (.badPort text) := by
  rw [readPort_eq, portOf_of_mem (colon_mem_afterColon port hleft)]
  exact ⟨_, rfl⟩

/-! ## Both parts -/

variable {scheme : Scheme} {name : List Char} {a : Address}

theorem scheme_and_path_of_ofAuthority {authority : List Char}
    (h : ofAuthority scheme authority = .ok a) : a.scheme = scheme ∧ a.path = "" := by
  unfold ofAuthority at h
  dsimp only at h
  split at h
  · contradiction
  · split at h
    · contradiction
    · obtain rfl := Except.ok.inj h
      exact ⟨rfl, rfl⟩

/-- No address has a name that runs on. -/
theorem ofAuthority_runsOn (scheme : Scheme) (h : RunsOn name) {port : List Char} (hport : ']' ∉ port) :
    ∃ fault, ofAuthority scheme (name ++ ':' :: port) = .error fault := by
  obtain ⟨left, hleft, hsplit⟩ := splitHost_runsOn h hport
  obtain ⟨text, hbad⟩ := readPort_runsOn port hleft
  unfold ofAuthority
  dsimp only
  rw [hsplit, hbad]
  cases encodeHost (splitHost (name ++ ':' :: port)).1 with
  | error fault => exact ⟨fault, rfl⟩
  | ok host => exact ⟨_, rfl⟩

/-- The address of any other name has the name encoded, and the port unless the scheme implies it. -/
theorem ofAuthority_whole (h : ¬ RunsOn name) {port : Int}
    (hport : port.natAbs < Nat.pow 10 numeralDigitLimit)
    (hok : ofAuthority scheme (name ++ ':' :: (toString port).toList) = .ok a) :
    ∃ host, encodeHost name = .ok host ∧
      a = ⟨scheme, String.ofList host,
        if port = scheme.defaultPort then none else some port, ""⟩ := by
  have hbracket : ']' ∉ (toString port).toList := by
    intro hmem
    obtain ⟨fault, hfault⟩ := readInteger_of_mem hmem (by decide)
    rw [readInteger_toString hport] at hfault
    cases hfault
  unfold ofAuthority at hok
  dsimp only at hok
  rw [splitHost_whole h hbracket, readPort_toString hport] at hok
  dsimp only at hok
  cases hhost : encodeHost name with
  | error fault =>
      rw [hhost] at hok
      cases hok
  | ok host =>
      rw [hhost] at hok
      refine ⟨host, rfl, ?_⟩
      simpa [eq_comm] using hok

end Grounding.Address
