import Grounding.Proofs.Network.CanonicalForm
import Grounding.Proofs.Network.Destination
import Grounding.Proofs.Network.NumericAddress

/-!
# IPv6 addresses as hosts

An IPv6 address is read as a host rightly, whether it is in brackets or not: none of its groups is taken for
a port.  But the endpoint is written with the name as it stands, and without brackets that is no URL.  So an
address in brackets always gets a client and a bare one never does.
-/

namespace Grounding

/-! ## Characters of addresses -/

namespace Address

variable {c : Char} {s : List Char}

theorem toNat_lt_of_isNumeric (h : isNumeric c = true) : c.toNat < 128 := by
  simp only [isNumeric, Bool.or_eq_true, beq_iff_eq] at h
  rcases h with (rfl | rfl) | hhex
  · decide
  · decide
  · simp only [Text.hexDigitValue?] at hhex
    split_ifs at hhex with hdigit hupper hlower
    · simp only [Bool.and_eq_true, decide_eq_true_eq] at hdigit
      omega
    · simp only [Bool.and_eq_true, decide_eq_true_eq] at hupper
      omega
    · simp only [Bool.and_eq_true, decide_eq_true_eq] at hlower
      omega
    · contradiction

/-- The characters by which a host text or a URL is taken apart, and those a prefix begins with. -/
def boundaries : List Char := "[]/%@?#h".toList

/-- Nothing in an address has another meaning in a host text or in a URL. -/
theorem neutral_of_isNumeric (h : isNumeric c = true) :
    isControl c = false ∧ Text.isBlank c = false ∧ c ∉ boundaries := by
  have hall : ∀ n < 128, isNumeric (Char.ofNat n) = true →
      isControl (Char.ofNat n) = false ∧ Text.isBlank (Char.ofNat n) = false ∧
        Char.ofNat n ∉ boundaries := by
    decide
  exact forall_ascii (p := fun c => isNumeric c = true → isControl c = false ∧
    Text.isBlank c = false ∧ c ∉ boundaries) hall (toNat_lt_of_isNumeric h) h

theorem isNumeric_of_mem_toString {port : Int} (hport : 0 ≤ port) (hc : c ∈ (toString port).toList) :
    isNumeric c = true := by
  rw [Text.toList_toString_of_nonneg hport] at hc
  have hdigit := Nat.isDigit_of_mem_toDigits (by decide) (by decide) hc
  have hrange : 48 ≤ c.toNat ∧ c.toNat ≤ 57 := by
    simpa [Char.isDigit, UInt32.le_iff_toNat_le] using hdigit
  apply isNumeric_of_isAsciiDigit
  simp [Text.isAsciiDigit, Text.asciiDigitValue?, hrange]

/-- An address with or without a zone begins like one without. -/
theorem isIPv6Groups_of_isIPv6 (h : isIPv6 s = true) :
    isIPv6Groups (s.takeWhile (· != '%')) = true := by
  simp only [isIPv6, Bool.and_eq_true] at h
  exact h.1

theorem isIPv6_of_isIPv6Groups (h : isIPv6Groups s = true) : isIPv6 s = true := by
  have hzone : ∀ c ∈ s, (c != '%') = true := by
    intro c hc
    have hneutral := (neutral_of_isNumeric (isNumeric_of_isIPv6Groups h hc)).2.2
    rw [bne_iff_ne]
    rintro rfl
    exact hneutral (by decide)
  simp [isIPv6, List.takeWhile_eq_self_iff.2 hzone, List.dropWhile_eq_nil_iff.2 hzone, h]

/-! ## Bare addresses -/

theorem head_of_isIPv6 (h : isIPv6 s = true) : ∃ c rest, s = c :: rest ∧ isNumeric c = true := by
  have hgroups := isIPv6Groups_of_isIPv6 h
  cases s with
  | nil => contradiction
  | cons c rest =>
      refine ⟨c, rest, rfl, ?_⟩
      by_cases hc : c = '%'
      · subst hc
        contradiction
      · apply isNumeric_of_isIPv6Groups hgroups
        rw [List.takeWhile_cons_of_pos (by simpa using hc)]
        exact List.mem_cons_self

theorem two_le_count_colon_of_isIPv6 (h : isIPv6 s = true) : 2 ≤ s.count ':' := by
  have hgroups := two_le_count_colon (isIPv6Groups_of_isIPv6 h)
  exact hgroups.trans ((List.takeWhile_sublist _).count_le ':')

end Address

namespace Endpoint

variable {s name digits : List Char}

/-! ## Names and ports -/

theorem takesPort_of_splitPort? (h : splitPort? s = some (name, digits)) : TakesPort name := by
  unfold splitPort? at h
  split at h
  · next front behind hsplit =>
    split_ifs at h with hcond
    obtain ⟨rfl, rfl⟩ := Prod.mk.inj (Option.some.inj h)
    simp only [Bool.and_eq_true] at hcond
    simpa [TakesPort] using hcond.2
  · contradiction

/-- A port ends in a digit. -/
theorem splitPort?_of_getLast? {c : Char} (h : s.getLast? = some c) (hc : Text.isDigit c = false) :
    splitPort? s = none := by
  rw [Option.eq_none_iff_forall_ne_some]
  rintro ⟨name, digits⟩ hsplit
  obtain ⟨hne, hall⟩ := Text.isDigitRun_iff.1 (isDigitRun_of_splitPort? hsplit)
  rw [eq_of_splitPort? hsplit, List.getLast?_append_of_ne_nil _ (List.cons_ne_nil _ _),
    List.getLast?_cons, List.getLast?_eq_some_getLast hne] at h
  obtain rfl := Option.some.inj h
  exact Bool.false_ne_true (hc.symm.trans (hall _ (List.getLast_mem hne)))

/-- What is before a port keeps all colons but one. -/
theorem count_colon_of_splitPort? (h : splitPort? s = some (name, digits)) :
    s.count ':' = name.count ':' + 1 := by
  have hcolon : ':' ∉ digits :=
    Text.not_mem_of_isDigitRun (isDigitRun_of_splitPort? h) (by decide)
  rw [eq_of_splitPort? h, List.count_append, List.count_cons_self, List.count_eq_zero.2 hcolon]

/-- Between several colons without a bracket there is no port. -/
theorem splitPort?_of_colons (hcount : 2 ≤ s.count ':') (hbracket : ']' ∉ s) :
    splitPort? s = none := by
  rw [Option.eq_none_iff_forall_ne_some]
  rintro ⟨name, digits⟩ hsplit
  have hname := count_colon_of_splitPort? hsplit
  rcases takesPort_of_splitPort? hsplit with hcolon | hlast
  · rw [List.count_eq_zero.2 hcolon] at hname
    omega
  · apply hbracket
    rw [eq_of_splitPort? hsplit]
    exact List.mem_append_left _ (List.mem_of_getLast? hlast)

theorem count_colon_of_hostAndPort {port : Option Int} (h : hostAndPort none s = .ok (name, port)) :
    s.count ':' ≤ name.count ':' + 1 := by
  unfold hostAndPort at h
  dsimp only at h
  split at h
  · obtain ⟨rfl, -⟩ := Prod.mk.inj (Except.ok.inj h)
    omega
  · next front own hsplit =>
    split at h
    · contradiction
    · obtain ⟨rfl, -⟩ := Prod.mk.inj (Except.ok.inj h)
      rw [count_colon_of_splitPort? hsplit]

theorem count_dropSlash {c : Char} (hc : c ≠ '/') (s : List Char) :
    (dropSlash s).count c = s.count c := by
  unfold dropSlash
  split_ifs with hlast
  · obtain ⟨front, rfl⟩ := List.getLast?_eq_some_iff.1 hlast
    rw [List.dropLast_concat, List.count_append, List.count_singleton, if_neg (by simpa using hc.symm),
      Nat.add_zero]
  · rfl

end Endpoint

theorem Text.count_dropWhile {p : Char → Bool} {c : Char} (hc : p c = false) (s : List Char) :
    (s.dropWhile p).count c = s.count c := by
  have hfront : c ∉ s.takeWhile p := by
    intro hmem
    have hdropped := List.mem_takeWhile_imp hmem
    rw [hc] at hdropped
    contradiction
  calc (s.dropWhile p).count c
      = (s.takeWhile p).count c + (s.dropWhile p).count c := by
        rw [List.count_eq_zero.2 hfront, Nat.zero_add]
    _ = s.count c := by rw [← List.count_append, List.takeWhile_append_dropWhile]

theorem Text.count_trim {p : Char → Bool} {c : Char} (hc : p c = false) (s : List Char) :
    (trim p s).count c = s.count c := by
  unfold trim
  rw [List.count_reverse, count_dropWhile hc, List.count_reverse, count_dropWhile hc]

namespace Address

variable {host : String} {site : Site} {port : Int}

/-- A bare address has no prefix, and its name begins as it does. -/
theorem prefix_of_isIPv6 (h : isIPv6 host.toList = true) :
    Endpoint.IsBare host ∧ Text.trim Text.isBlank host.toList <+: host.toList := by
  obtain ⟨first, rest, hfirst, hnumeric⟩ := head_of_isIPv6 h
  obtain ⟨-, hblank, hneutral⟩ := neutral_of_isNumeric hnumeric
  have hprefix : Text.trim Text.isBlank host.toList <+: host.toList := by
    have htrim := Text.prefix_of_trim Text.isBlank host.toList
    rwa [hfirst, List.dropWhile_cons_of_neg (by simpa using hblank), ← hfirst] at htrim
  refine ⟨?_, hprefix⟩
  intro scheme hlead
  have hhead : scheme.lead.head? = some 'h' := by cases scheme <;> decide
  have hsame := Text.head?_of_prefix (hlead.trans hprefix) hhead
  rw [hfirst] at hsame
  obtain rfl := Option.some.inj hsame
  exact hneutral (by decide)

/-- What a bare address is read as begins as it does, and still has a colon in it. -/
theorem name_of_isIPv6 (h : isIPv6 host.toList = true) (hsite : Site.ofHost host = .ok site) :
    site.host.toList <+: host.toList ∧ ':' ∈ site.host.toList := by
  obtain ⟨hbare, htrim⟩ := prefix_of_isIPv6 h
  refine ⟨(Site.of_bare hbare hsite).2.trans htrim, ?_⟩
  have hcount := two_le_count_colon_of_isIPv6 h
  obtain ⟨scheme, after, name, own, htake, hown, -, -, rfl⟩ := Site.ofHost_eq_ok_iff.1 hsite
  rw [Endpoint.takeScheme_of_not_prefix hbare] at htake
  obtain ⟨rfl, rfl⟩ := Prod.mk.inj htake
  have hcolons := Endpoint.count_colon_of_hostAndPort hown
  rw [Endpoint.count_dropSlash (by decide), Text.count_trim (by decide)] at hcolons
  rw [String.toList_ofList]
  exact List.count_pos_iff.1 (by omega)

theorem head_ne_bracket_of_isIPv6 (h : isIPv6 host.toList = true)
    (hsite : Site.ofHost host = .ok site) : site.host.toList.head? ≠ some '[' := by
  intro hbracket
  obtain ⟨first, rest, hfirst, hnumeric⟩ := head_of_isIPv6 h
  have hsame := Text.head?_of_prefix (name_of_isIPv6 h hsite).1 hbracket
  rw [hfirst] at hsame
  obtain rfl := Option.some.inj hsame
  exact (neutral_of_isNumeric hnumeric).2.2 (by decide)

/-- What a bare address is read as, with or without a zone, runs on into the port. -/
theorem runsOn_of_isIPv6 (h : isIPv6 host.toList = true) (hsite : Site.ofHost host = .ok site) :
    RunsOn site.host.toList :=
  ⟨fun hbracketed => head_ne_bracket_of_isIPv6 h hsite hbracketed.1,
    .inl (name_of_isIPv6 h hsite).2⟩

/-- An address is numeric up to its first colon, since a zone comes later. -/
theorem isNumeric_of_mem_front {front behind : List Char} (h : isIPv6 (front ++ ':' :: behind) = true)
    (hfront : ':' ∉ front) (hc : c ∈ front) : isNumeric c = true := by
  have hgroups := isIPv6Groups_of_isIPv6 h
  have hcolon : ':' ∈ (front ++ ':' :: behind).takeWhile (· != '%') :=
    List.count_pos_iff.1 (Nat.lt_of_lt_of_le Nat.zero_lt_two (two_le_count_colon hgroups))
  apply isNumeric_of_isIPv6Groups hgroups
  rw [List.takeWhile_append] at hcolon ⊢
  split_ifs at hcolon ⊢ with hwhole
  · exact List.mem_append_left _ hc
  · exact absurd ((List.takeWhile_sublist _).mem hcolon) hfront

/-- Up to its first colon a bare address is ASCII, so its URL is plain unless there is a mark in its zone. -/
theorem isPlain_of_isIPv6 (h : isIPv6 host.toList = true) (hsite : Site.ofHost host = .ok site)
    (hplain : ∀ c ∈ host.toList, isPlainChar c = true)
    (hport : port.natAbs < Nat.pow 10 numeralDigitLimit) :
    isPlain (site.host ++ ":" ++ toString port) = true := by
  obtain ⟨hname, hcolon⟩ := name_of_isIPv6 h hsite
  have hslash := slash_not_mem_authority hport (Site.name_of_ofHost hsite).2
  have hother : ∀ c ∈ (site.host ++ ":" ++ toString port).toList, (c != '/') = true := fun c hc =>
    bne_iff_ne.2 (ne_of_mem_of_not_mem hc hslash)
  unfold isPlain
  rw [Bool.and_eq_true, List.all_eq_true, List.all_eq_true, List.takeWhile_eq_self_iff.2 hother,
    toList_authority]
  constructor
  · intro c hc
    rcases List.mem_append.1 hc with hhost | hbehind
    · exact hplain c (hname.mem hhost)
    · rcases List.mem_cons.1 hbehind with rfl | hdigit
      · decide
      · exact isPlainChar_of_ascii (Endpoint.isPlain_toString port c hdigit)
  · obtain ⟨front, behind, hsplit, hfront⟩ := List.eq_append_cons_of_mem hcolon
    obtain ⟨more, hwhole⟩ := hname
    rw [hsplit, List.append_assoc, List.cons_append] at hwhole
    rw [← hwhole] at h
    have hopen :
        ¬ (front.head? = some '[' ∧ ']' ∈ front ++ (behind ++ ':' :: (toString port).toList)) := by
      rintro ⟨hhead, -⟩
      apply head_ne_bracket_of_isIPv6 (hwhole ▸ h) hsite
      rw [hsplit, List.head?_append, hhead]
      rfl
    rw [hsplit, List.append_assoc, List.cons_append, splitHost_of_colon hopen hfront]
    intro c hc
    exact decide_eq_true (toNat_lt_of_isNumeric (isNumeric_of_mem_front h hfront hc))

end Address

/-! ## Addresses as hosts -/

/-- A text from which nothing is taken is the name of a site. -/
theorem Site.ofHost_whole {host : String} (hne : host.toList ≠ [])
    (htrimmed : Text.IsTrimmed Text.isBlank host.toList) (hslash : '/' ∉ host.toList)
    (hport : Endpoint.splitPort? host.toList = none) : ofHost host = .ok ⟨.http, host, none⟩ := by
  rw [ofHost_of_slash_not_mem htrimmed hslash, Endpoint.hostAndPort, hport]
  dsimp only
  rw [if_neg (by simpa using hne), if_neg (by simpa using hslash), String.ofList_toList]

namespace Address

theorem urlFault?_eq_none {url : List Char} (hshort : url.length ≤ longestUrl)
    (hcontrol : ∀ c ∈ url, isControl c = false) : urlFault? url = none := by
  have hnone : firstControl? url = none := by
    unfold firstControl?
    rw [Option.map_eq_none_iff, List.find?_eq_none]
    simpa using hcontrol
  unfold urlFault?
  rw [if_neg (Nat.not_lt.2 hshort), hnone]
  rfl

/-- The text in brackets. -/
def bracketed (literal : String) : String := "[" ++ literal ++ "]"

theorem toList_bracketed (literal : String) :
    (bracketed literal).toList = '[' :: literal.toList ++ [']'] := by
  simp [bracketed]

theorem isBracketed_bracketed (literal : String) : IsBracketed (bracketed literal).toList := by
  rw [toList_bracketed]
  exact ⟨rfl, List.getLast?_concat⟩

variable {literal : String} {port : Int} (h : isIPv6Groups literal.toList = true)
include h

theorem isTrimmed_literal : Text.IsTrimmed Text.isBlank literal.toList where
  head := fun _ hc =>
    (neutral_of_isNumeric (isNumeric_of_isIPv6Groups h (List.mem_of_head? hc))).2.1
  last := fun _ hc =>
    (neutral_of_isNumeric (isNumeric_of_isIPv6Groups h (List.mem_of_getLast? hc))).2.1

theorem not_mem_literal {c : Char} (hc : c ∈ boundaries) : c ∉ literal.toList := fun hmem =>
  (neutral_of_isNumeric (isNumeric_of_isIPv6Groups h hmem)).2.2 hc

theorem literal_ne_nil : literal.toList ≠ [] := by
  intro hempty
  rw [hempty] at h
  contradiction

/-- No group of a bare address is taken for a port. -/
theorem ofHost_literal : Site.ofHost literal = .ok ⟨.http, literal, none⟩ := by
  apply Site.ofHost_whole (literal_ne_nil h) (isTrimmed_literal h)
  · exact not_mem_literal h (by decide)
  · apply Endpoint.splitPort?_of_colons (two_le_count_colon h)
    exact not_mem_literal h (by decide)

theorem slash_not_mem_bracketed : '/' ∉ (bracketed literal).toList := by
  have hslash := not_mem_literal h (c := '/') (by decide)
  simpa [toList_bracketed] using hslash

theorem ofHost_bracketed :
    Site.ofHost (bracketed literal) = .ok ⟨.http, bracketed literal, none⟩ := by
  have hlast : (bracketed literal).toList.getLast? = some ']' := (isBracketed_bracketed literal).2
  have htrimmed : Text.IsTrimmed Text.isBlank (bracketed literal).toList := by
    constructor
    · intro c hc
      obtain rfl := Option.some.inj ((isBracketed_bracketed literal).1.symm.trans hc)
      decide
    · intro c hc
      obtain rfl := Option.some.inj (hlast.symm.trans hc)
      decide
  apply Site.ofHost_whole ?_ htrimmed (slash_not_mem_bracketed h)
  · exact Endpoint.splitPort?_of_getLast? hlast (by decide)
  · simp [toList_bracketed]

theorem isPlain_literal : Endpoint.IsPlain literal := by
  intro c hc
  have hnumeric := isNumeric_of_isIPv6Groups h hc
  refine ⟨toNat_lt_of_isNumeric hnumeric, fun hmark => ?_⟩
  apply (neutral_of_isNumeric hnumeric).2.2
  simp only [List.mem_cons, List.not_mem_nil, or_false] at hmark
  rcases hmark with rfl | rfl | rfl <;> decide

theorem isPlain_bracketed : Endpoint.IsPlain (bracketed literal) := by
  intro c hc
  simp only [toList_bracketed, List.mem_append, List.mem_cons, List.not_mem_nil, or_false] at hc
  rcases hc with (rfl | hc) | rfl
  · decide
  · exact isPlain_literal h c hc
  · decide

/-- Nothing is wrong with the URL of an address in brackets. -/
theorem urlFault?_bracketed (hnonneg : 0 ≤ port)
    (hport : port.natAbs < Nat.pow 10 numeralDigitLimit) :
    urlFault? (Scheme.http.name ++ "://" ++ (bracketed literal ++ ":" ++ toString port)).toList =
      none := by
  have htext : (Scheme.http.name ++ "://" ++ (bracketed literal ++ ":" ++ toString port)).toList =
      "http://[".toList ++ literal.toList ++ "]:".toList ++ (toString port).toList := by
    simp [bracketed, Scheme.name]
  have hmarks : ("http://[".toList ++ "]:".toList).all (isControl · == false) := by decide
  rw [htext]
  apply urlFault?_eq_none
  · have hdigits := (Text.length_toString_le_iff hnonneg).2 hport
    rw [← String.length_toList] at hdigits
    have hliteral := length_of_isIPv6Groups h
    have hfront : "http://[".toList.length = 8 := by decide
    have hbehind : "]:".toList.length = 2 := by decide
    have hlimit : 8 + 64 + 2 + numeralDigitLimit ≤ longestUrl := by decide
    simp only [List.length_append]
    omega
  · intro c hc
    simp only [List.mem_append] at hc
    simp only [List.all_eq_true, List.mem_append, beq_iff_eq] at hmarks
    rcases hc with ((hc | hc) | hc) | hc
    · exact hmarks c (.inl hc)
    · exact (neutral_of_isNumeric (isNumeric_of_isIPv6Groups h hc)).1
    · exact hmarks c (.inr hc)
    · exact (neutral_of_isNumeric (isNumeric_of_mem_toString hnonneg hc)).1

/-- The URL of an address in brackets is that of a client. -/
theorem exists_ofUrl_bracketed (hnonneg : 0 ≤ port)
    (hport : port.natAbs < Nat.pow 10 numeralDigitLimit) :
    ∃ a, ofUrl .http (bracketed literal ++ ":" ++ toString port) = .ok a := by
  have hwhole : ¬ RunsOn (bracketed literal).toList := fun hruns =>
    hruns.1 (isBracketed_bracketed literal)
  have hbracket : ']' ∉ (toString port).toList := not_mem_toString hport (by decide)
  have hhost : encodeHost (bracketed literal).toList = .ok literal.toList := by
    rw [toList_bracketed, encodeHost_brackets, if_pos (isIPv6_of_isIPv6Groups h)]
  rw [ofUrl_of_slash_not_mem (slash_not_mem_authority hport (slash_not_mem_bracketed h)),
    urlFault?_bracketed h hnonneg hport, toList_authority]
  dsimp only
  unfold ofAuthority
  dsimp only
  rw [splitHost_whole hwhole hbracket, readPort_toString hport, hhost]
  exact ⟨_, rfl⟩

end Address

namespace Link

variable {platform : Platform} {s : Settings} {number : Nat}

/-- No link is built for a bare address, with or without a zone, unless a mark in the zone cuts the
address out of the host of its URL. -/
theorem build_ne_ok_of_isIPv6 (hs : s.Valid) (h : Address.isIPv6 s.host.toList = true)
    (hplain : ∀ c ∈ s.host.toList, Address.isPlainChar c = true) (link : Link) :
    (build platform s.values number).value ≠ .ok link := by
  intro hbuild
  obtain ⟨site, hsite, hhost, -, hport, -⟩ := ofUrl_of_build hs hbuild
  have hruns := Address.runsOn_of_isIPv6 h hsite
  have hurl := Address.isPlain_of_isIPv6 h hsite hplain hport
  rw [← hhost] at hruns hurl
  exact not_runsOn_of_build hs hbuild hurl hruns

/-- Where the host is a name on the configured port, building is up to the client. -/
theorem build_of_ofHost (hs : s.Valid) (htimeout : ¬ s.HasOverlongTimeout)
    (hsite : Site.ofHost s.host = .ok ⟨.http, s.host, none⟩) (platform : Platform) (number : Nat) :
    ∃ timeout, (build platform s.values number).value =
      dial platform s.host ⟨.http, s.host, none⟩ s.port number timeout := by
  have hmillis : timeoutOfMillis s.timeoutMs ≠ none := by
    rwa [ne_eq, timeoutOfMillis_eq_none_iff]
  obtain ⟨timeout, hsome⟩ := Option.ne_none_iff_exists'.1 hmillis
  refine ⟨timeout, ?_⟩
  rw [build_valid platform hs, hsite, hsome]
  rfl

theorem endpoint?_of_ofHost {tls : Bool} (hsite : Site.ofHost s.host = .ok ⟨.http, s.host, none⟩) :
    s.endpoint? tls = some ⟨.http, s.host, s.port⟩ := by
  unfold Settings.endpoint? Endpoint.ofHost
  rw [hsite]
  rfl

/-- Valid settings with an IPv6 address for the host resolve to that address on the configured port, in
brackets or without.  But a link that leads there is built exactly if the brackets are there; a bare address
is refused by the client, and so is a bare address with a zone that is free of the marks of a URL. -/
theorem usable_iff_bracketed (platform : Platform) (hs : s.Valid) (number : Nat) :
    (∀ literal : String, Address.isIPv6Groups literal.toList = true → ¬ s.HasOverlongTimeout →
      s.host = literal ∨ s.host = Address.bracketed literal →
      s.endpoint? platform.tls = some ⟨.http, s.host, s.port⟩ ∧
      ((∃ link, (build platform s.values number).value = .ok link ∧
          link.client.binding.LeadsTo ⟨.http, Address.bracketed literal, s.port⟩) ↔
        s.host = Address.bracketed literal) ∧
      (s.host = literal → ∃ fault,
        (build platform s.values number).value = .error (.host (.address literal fault)))) ∧
    (Address.isIPv6 s.host.toList = true →
      (∀ c ∈ s.host.toList, Address.isPlainChar c = true) →
      ∀ link, (build platform s.values number).value ≠ .ok link) := by
  refine ⟨?_, build_ne_ok_of_isIPv6 hs⟩
  intro literal h htimeout hhost
  have hsite : Site.ofHost s.host = .ok ⟨.http, s.host, none⟩ := by
    rcases hhost with hhost | hhost
    · rw [hhost]
      exact Address.ofHost_literal h
    · rw [hhost]
      exact Address.ofHost_bracketed h
  obtain ⟨timeout, hbuild⟩ := build_of_ofHost hs htimeout hsite platform number
  have hurl : Address.isPlain (authority ⟨.http, s.host, none⟩ s.port) = true := by
    apply Address.isPlain_of_ascii
    refine Endpoint.isPlain_authority ?_ (Endpoint.isPlain_toString s.port)
    rcases hhost with hhost | hhost
    · rw [hhost]
      exact Address.isPlain_literal h
    · rw [hhost]
      exact Address.isPlain_bracketed h
  have hbare : s.host = literal → ∀ link, (build platform s.values number).value ≠ .ok link := by
    rintro rfl
    refine build_ne_ok_of_isIPv6 hs (Address.isIPv6_of_isIPv6Groups h) fun c hc => ?_
    exact Address.isPlainChar_of_ascii (Address.isPlain_literal h c hc)
  refine ⟨endpoint?_of_ofHost hsite, ⟨?_, ?_⟩, ?_⟩
  · rintro ⟨link, hlink, -⟩
    exact hhost.resolve_left fun hliteral => hbare hliteral link hlink
  · intro hbrackets
    have hnonneg : 0 ≤ s.port := by
      have hlow := hs.one_le_port
      omega
    obtain ⟨address, haddress⟩ := Address.exists_ofUrl_bracketed h hnonneg hs.natAbs_port_lt
    have hleads := Address.leadsTo_of_ofUrl (e := ⟨.http, Address.bracketed literal, s.port⟩)
      (Address.isPlain_bracketed h) hs.natAbs_port_lt (Address.slash_not_mem_bracketed h) haddress
    rw [hbuild, dial, Binding.ofUrl_of_isPlain platform _ hurl, authority, hbrackets, haddress]
    exact ⟨_, rfl, address, rfl, hleads⟩
  · intro hliteral
    rw [hbuild, dial, Binding.ofUrl_of_isPlain platform _ hurl]
    dsimp only
    cases hread : Address.ofUrl .http (authority ⟨.http, s.host, none⟩ s.port) with
    | error fault => exact ⟨fault, by rw [hliteral]; rfl⟩
    | ok address =>
        rw [dial, Binding.ofUrl_of_isPlain platform _ hurl] at hbuild
        dsimp only at hbuild
        rw [hread] at hbuild
        exact absurd hbuild (hbare hliteral _)

theorem usable_iff_bracketed_documentation :
    Address.isIPv6Groups "2001:db8::5".toList = true ∧
      (({ host := "2001:db8::5" } : Settings).Valid ∧
        ({ host := "2001:db8::5" } : Settings).endpoint? true = some ⟨.http, "2001:db8::5", 8001⟩ ∧
        ∃ fault, (build .usual ({ host := "2001:db8::5" } : Settings).values 0).value =
          .error (.host (.address "2001:db8::5" fault))) ∧
      (({ host := "[2001:db8::5]" } : Settings).Valid ∧
        ∃ link, (build .usual ({ host := "[2001:db8::5]" } : Settings).values 0).value = .ok link ∧
          link.client.binding.LeadsTo ⟨.http, "[2001:db8::5]", 8001⟩) ∧
      Address.isIPv6 "fe80::1%eth0".toList = true ∧
        ∀ link, (build .usual ({ host := "fe80::1%eth0" } : Settings).values 0).value ≠ .ok link := by
  have haddress : Address.isIPv6Groups "2001:db8::5".toList = true := by decide
  have hzoned : Address.isIPv6 "fe80::1%eth0".toList = true := by decide
  have hplain : "fe80::1%eth0".toList.all Address.isPlainChar = true := by decide
  have hbrackets : Address.bracketed "2001:db8::5" = "[2001:db8::5]" := by decide
  have htimeout : ¬ ({} : Settings).HasOverlongTimeout := by
    unfold Settings.HasOverlongTimeout
    decide +kernel
  have hvalid : ∀ host, ({ host } : Settings).Valid := fun host => Settings.valid_default host false
  have hbare := (usable_iff_bracketed .usual (hvalid "2001:db8::5") 0).1 _ haddress htimeout (.inl rfl)
  have hlinked := (usable_iff_bracketed .usual (hvalid "[2001:db8::5]") 0).1 _ haddress htimeout
    (.inr hbrackets.symm)
  rw [hbrackets] at hlinked
  refine ⟨haddress, ⟨hvalid _, hbare.1, hbare.2.2 rfl⟩, ⟨hvalid _, hlinked.2.1.2 rfl⟩, hzoned, ?_⟩
  exact (usable_iff_bracketed .usual (hvalid "fe80::1%eth0") 0).2 hzoned
    (List.all_eq_true.1 hplain)

/-- The loopback address as it is usually written. -/
theorem not_usable_loopback :
    ({ host := "::1" } : Settings).Valid ∧ Address.isIPv6Groups "::1".toList = true ∧
      ({ host := "::1" } : Settings).endpoint? true = some ⟨.http, "::1", 8001⟩ ∧
      (build .usual ({ host := "::1" } : Settings).values 0).value =
        .error (.host (.address "::1" (.badPort ":1:8001"))) ∧
      ¬ ∃ link, (build .usual ({ host := "::1" } : Settings).values 0).value = .ok link ∧
        link.client.binding.LeadsTo ⟨.http, Address.bracketed "::1", 8001⟩ := by
  have hbuild : (build .usual ({ host := "::1" } : Settings).values 0).value =
      .error (.host (.address "::1" (.badPort ":1:8001"))) := by
    decide +kernel
  refine ⟨Settings.valid_default _ _, by decide, by decide, hbuild, ?_⟩
  rintro ⟨link, hlink, -⟩
  rw [hbuild] at hlink
  cases hlink

end Link

end Grounding
