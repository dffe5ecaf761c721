import Grounding.Proofs.Network.Ports
import Grounding.Proofs.Text.Trimming

/-!
# An endpoint as name and port

A bare host resolves to a name and a port.  Put together again with a colon between the two they resolve to
the same endpoint, whatever port is configured, if the last colon of that text is the one before the port:
the name has none, or ends in a bracket.  The one exception is a configured port with more digits than a
numeral may have.
-/

namespace Grounding

/-! ## The text of a port -/

namespace Text

theorem isBlank_of_isDigit {c : Char} (h : isDigit c = true) : isBlank c = false := by
  have hdisjoint : ∀ r ∈ digitRanges, ∀ s ∈ [(0x1C, 0x1F)], r.2 < s.1 ∨ s.2 < r.1 := by
    decide
  have hseparator : inRanges [(0x1C, 0x1F)] c.toNat = false :=
    not_inRanges_of_disjoint hdisjoint (by rwa [← isDigit_eq_inRanges])
  have hspace := isWhiteSpace_of_isDigit h
  simpa [isBlank, hspace, inRanges] using hseparator

theorem length_toString_le_iff {n : Int} (h : 0 ≤ n) :
    (toString n).length ≤ numeralDigitLimit ↔ n.natAbs < Nat.pow 10 numeralDigitLimit := by
  have hlimit : 0 < numeralDigitLimit := by decide
  rw [← String.length_toList, toList_toString_of_nonneg h]
  generalize numeralDigitLimit = limit at hlimit ⊢
  exact Nat.length_toDigits_le_iff (by decide) hlimit

theorem isDigitRun_toString {n : Int} (h : 0 ≤ n) : isDigitRun (toString n).toList = true := by
  rw [toList_toString_of_nonneg h, isDigitRun_iff]
  refine ⟨Nat.toDigits_ne_nil, fun c hc => ?_⟩
  simp [isDigit, digitValue?_of_mem_toDigits hc]

end Text

namespace Endpoint

variable {s name digits : List Char}

/-! ## Putting a port behind a name -/

/-- A name that is told from a port behind it: without a colon, or with a bracket at its end. -/
def TakesPort (name : List Char) : Prop := ':' ∉ name ∨ name.getLast? = some ']'

instance (name : List Char) : Decidable (TakesPort name) := inferInstanceAs (Decidable (_ ∨ _))

theorem splitLastColon?_append (h : ':' ∉ digits) :
    splitLastColon? (name ++ ':' :: digits) = some (name, digits) := by
  have hcolon : (name ++ ':' :: digits).contains ':' = true := by simp
  have hreverse : (name ++ ':' :: digits).reverse = digits.reverse ++ ':' :: name.reverse := by
    simp
  have hother : ∀ c ∈ digits.reverse, (c != ':') = true := fun c hc =>
    bne_iff_ne.2 (ne_of_mem_of_not_mem (List.mem_reverse.1 hc) h)
  rw [splitLastColon?, if_pos hcolon, hreverse, List.takeWhile_append_of_pos hother,
    List.dropWhile_append_of_pos hother, List.takeWhile_cons_of_neg (by simp),
    List.dropWhile_cons_of_neg (by simp), List.tail_cons, List.append_nil, List.reverse_reverse,
    List.reverse_reverse]

theorem splitPort?_append (hne : name ≠ []) (htakes : TakesPort name)
    (hdigits : Text.isDigitRun digits = true) :
    splitPort? (name ++ ':' :: digits) = some (name, digits) := by
  have hcolon : ':' ∉ digits := Text.not_mem_of_isDigitRun hdigits (by decide)
  have hname : (Text.isDigitRun digits && !name.isEmpty &&
      (!name.contains ':' || name.getLast? == some ']')) = true := by
    rw [hdigits]
    simpa [hne, TakesPort] using htakes
  unfold splitPort?
  rw [splitLastColon?_append hcolon]
  dsimp only
  rw [if_pos hname]

theorem dropSlash_of_not_mem (h : '/' ∉ s) : dropSlash s = s := by
  unfold dropSlash
  rw [if_neg fun hlast => h (List.mem_of_getLast? hlast)]

/-! ## Bare hosts -/

/-- The host text has no URL prefix. -/
def IsBare (host : String) : Prop :=
  ∀ scheme : Scheme, ¬ scheme.lead <+: Text.trim Text.isBlank host.toList

theorem takeScheme_of_not_prefix (h : ∀ scheme : Scheme, ¬ scheme.lead <+: s) :
    takeScheme s = (none, s) := by
  unfold takeScheme
  rw [if_neg fun hhttps => h .https (List.isPrefixOf_iff_prefix.1 hhttps),
    if_neg fun hhttp => h .http (List.isPrefixOf_iff_prefix.1 hhttp)]

/-- Every prefix has slashes. -/
theorem takeScheme_of_slash_not_mem (h : '/' ∉ s) : takeScheme s = (none, s) := by
  apply takeScheme_of_not_prefix
  intro scheme hlead
  have hslash : '/' ∈ scheme.lead := by cases scheme <;> decide
  exact h (hlead.mem hslash)

theorem prefix_of_hostAndPort {port : Option Int} (h : hostAndPort none s = .ok (name, port)) :
    name <+: s := by
  unfold hostAndPort at h
  dsimp only at h
  split at h
  · obtain ⟨rfl, -⟩ := Prod.mk.inj (Except.ok.inj h)
    exact List.prefix_rfl
  · next host own hsplit =>
    split at h
    · contradiction
    · obtain ⟨rfl, -⟩ := Prod.mk.inj (Except.ok.inj h)
      rw [eq_of_splitPort? hsplit]
      exact List.prefix_append _ _

theorem prefix_of_dropSlash (s : List Char) : dropSlash s <+: s := by
  unfold dropSlash
  split_ifs
  · exact List.dropLast_prefix s
  · exact List.prefix_rfl

end Endpoint

/-- The site of a bare host is plain HTTP, and the trimmed text begins with its name. -/
theorem Site.of_bare {host : String} {site : Site} (hbare : Endpoint.IsBare host)
    (h : ofHost host = .ok site) :
    site.scheme = .http ∧ site.host.toList <+: Text.trim Text.isBlank host.toList := by
  obtain ⟨scheme, rest, name, port, htake, hname, -, -, rfl⟩ := ofHost_eq_ok_iff.1 h
  rw [Endpoint.takeScheme_of_not_prefix hbare] at htake
  obtain ⟨rfl, rfl⟩ := Prod.mk.inj htake
  rw [String.toList_ofList]
  exact ⟨rfl, (Endpoint.prefix_of_hostAndPort hname).trans (Endpoint.prefix_of_dropSlash _)⟩

/-- Nothing is taken from a trimmed text without a slash but its port. -/
theorem Site.ofHost_of_slash_not_mem {host : String}
    (htrimmed : Text.IsTrimmed Text.isBlank host.toList) (hslash : '/' ∉ host.toList) :
    ofHost host =
      match Endpoint.hostAndPort none host.toList with
      | .error fault => .error fault
      | .ok (name, port) =>
        if name.isEmpty then .error .empty
        else if name.contains '/' then .error .path
        else .ok ⟨.http, String.ofList name, port⟩ := by
  unfold ofHost
  rw [htrimmed.trim_eq_self, Endpoint.takeScheme_of_slash_not_mem hslash]
  dsimp only
  rw [Endpoint.dropSlash_of_not_mem hslash]
  rfl

/-- What becomes of a name with a port behind it. -/
theorem Site.ofHost_append {name : String} {port : Int} (hport : 0 ≤ port)
    (hne : name.toList ≠ []) (hslash : '/' ∉ name.toList)
    (hhead : ∀ c, name.toList.head? = some c → Text.isBlank c = false)
    (htakes : Endpoint.TakesPort name.toList) :
    ofHost (name ++ ":" ++ toString port) =
      match readInteger (toString port) with
      | .error fault => .error (.port fault)
      | .ok n => .ok ⟨.http, name, some n⟩ := by
  have hrun := Text.isDigitRun_toString hport
  obtain ⟨hdigits, hall⟩ := Text.isDigitRun_iff.1 hrun
  have htext : (name ++ ":" ++ toString port).toList =
      name.toList ++ ':' :: (toString port).toList := by simp
  have htrimmed : Text.IsTrimmed Text.isBlank (name ++ ":" ++ toString port).toList := by
    rw [htext]
    constructor
    · intro c hc
      rw [List.head?_append_of_ne_nil _ hne] at hc
      exact hhead c hc
    · intro c hc
      rw [List.getLast?_append_of_ne_nil _ (List.cons_ne_nil _ _), List.getLast?_cons,
        List.getLast?_eq_some_getLast hdigits] at hc
      obtain rfl := Option.some.inj hc
      exact Text.isBlank_of_isDigit (hall _ (List.getLast_mem hdigits))
  have hno : '/' ∉ (name ++ ":" ++ toString port).toList := by
    rw [htext, List.mem_append, List.mem_cons]
    rintro (hname | hcolon | hdigit)
    · exact hslash hname
    · simp at hcolon
    · exact Text.not_mem_of_isDigitRun hrun (by decide) hdigit
  rw [ofHost_of_slash_not_mem htrimmed hno, htext, Endpoint.hostAndPort,
    Endpoint.splitPort?_append hne htakes hrun]
  dsimp only
  rw [String.ofList_toList]
  cases readInteger (toString port) with
  | error fault => rfl
  | ok n =>
      dsimp only
      rw [if_neg (by simpa using hne), if_neg (by simpa using hslash), String.ofList_toList]

theorem Scheme.nonneg_defaultPort (scheme : Scheme) : 0 ≤ scheme.defaultPort := by
  cases scheme <;> decide

namespace Endpoint

variable {host : String} {port : Int} {e : Endpoint}

/-! ## The endpoint written as a host -/

/-- The name of the endpoint, a colon and its port. -/
def canonical (e : Endpoint) : String := e.host ++ ":" ++ toString e.port

theorem nonneg_port_of_ofHost (hport : 0 ≤ port) (h : ofHost host port = .ok e) : 0 ≤ e.port := by
  obtain ⟨site, hsite, rfl⟩ := ofHost_eq_ok_iff.1 h
  rcases Site.port_of_ofHost hsite with ⟨n, -, hown⟩ | ⟨-, hown | ⟨scheme, hown⟩⟩
  · rw [hown, Option.getD_some]
    exact Int.natCast_nonneg n
  · rw [hown, Option.getD_none]
    exact hport
  · rw [hown, Option.getD_some]
    exact Scheme.nonneg_defaultPort scheme

theorem overruledPort_of_slash_not_mem (h : '/' ∉ host.toList) (port : Int) :
    overruledPort host port = false := by
  have htrim : '/' ∉ Text.trim Text.isBlank host.toList := fun hmem => h (Text.mem_of_mem_trim hmem)
  unfold overruledPort prefixPort?
  rw [takeScheme_of_slash_not_mem htrim]
  rfl

/-- Whether the endpoint of a bare host is found again depends on its port alone. -/
theorem resolve_canonical (hbare : IsBare host) (hport : 0 ≤ port) (h : ofHost host port = .ok e)
    (htakes : TakesPort e.host.toList) (other : Int) :
    resolve (some e.canonical) other =
      ⟨match readInteger (toString e.port) with
        | .error fault => .error (.port fault)
        | .ok n => .ok ⟨e.scheme, e.host, n⟩, 0⟩ := by
  have hnonneg := nonneg_port_of_ofHost hport h
  obtain ⟨site, hsite, hendpoint⟩ := ofHost_eq_ok_iff.1 h
  obtain ⟨hscheme, hprefix⟩ := Site.of_bare hbare hsite
  obtain ⟨hne, hslash⟩ := Site.name_of_ofHost hsite
  have hhead : ∀ c, site.host.toList.head? = some c → Text.isBlank c = false := fun c hc =>
    (Text.isTrimmed_trim Text.isBlank host.toList).head c (Text.head?_of_prefix hprefix hc)
  have hhost : site.host = e.host := by rw [hendpoint]
  rw [hhost] at hhead hne hslash
  have hplain : e.scheme = .http := by rw [hendpoint, hscheme]
  have hno : '/' ∉ e.canonical.toList := by
    have hdigits := Text.isDigitRun_toString hnonneg
    simp only [canonical, String.toList_append, List.mem_append, not_or]
    exact ⟨⟨hslash, by decide⟩, Text.not_mem_of_isDigitRun hdigits (by decide)⟩
  unfold resolve ofHost
  rw [Option.getD_some, overruledPort_of_slash_not_mem hno, canonical,
    Site.ofHost_append hnonneg hne hslash hhead htakes, hplain]
  cases readInteger (toString e.port) <;> rfl

/-- The endpoint of a bare host, written as name and port, resolves to itself without a notice and
whatever port is configured, exactly if its port has no more digits than a numeral may have.  A longer one is
refused for the number of its digits. -/
theorem resolve_canonical_iff (hbare : IsBare host) (hport : 0 ≤ port)
    (h : (resolve (some host) port).value = .ok e) (htakes : TakesPort e.host.toList) :
    ((∀ other, resolve (some e.canonical) other = ⟨.ok e, 0⟩) ↔
      (toString e.port).length ≤ numeralDigitLimit) ∧
    (numeralDigitLimit < (toString e.port).length → ∀ other,
      resolve (some e.canonical) other =
        ⟨.error (.port (.tooLong (toString e.port).length)), 0⟩) := by
  have hnonneg := nonneg_port_of_ofHost hport h
  have hagain := resolve_canonical hbare hport h htakes
  have hlong : numeralDigitLimit < (toString e.port).length → ∀ other,
      resolve (some e.canonical) other =
        ⟨.error (.port (.tooLong (toString e.port).length)), 0⟩ := by
    intro hlength other
    have hread := readInteger_toString_of_le (n := e.port) <| by
      rw [← Nat.not_lt, ← Text.length_toString_le_iff hnonneg]
      exact Nat.not_le.2 hlength
    rw [hagain, hread, ← String.length_toList, Text.toList_toString_of_nonneg hnonneg]
  refine ⟨⟨?_, ?_⟩, hlong⟩
  · intro hall
    by_contra hlength
    have hrefused := (hlong (Nat.lt_of_not_le hlength) 0).symm.trans (hall 0)
    cases congrArg Noted.value hrefused
  · intro hlength other
    rw [hagain, readInteger_toString ((Text.length_toString_le_iff hnonneg).1 hlength)]

theorem resolve_canonical_iff_bracket :
    IsBare " a:b]/ " ∧ (resolve (some " a:b]/ ") 8080).value = .ok ⟨.http, "a:b]", 8080⟩ ∧
      TakesPort "a:b]".toList ∧
      ∀ other, resolve (some "a:b]:8080") other = ⟨.ok ⟨.http, "a:b]", 8080⟩, 0⟩ := by
  have hbare : IsBare " a:b]/ " := by
    intro scheme
    cases scheme <;> decide
  have hresolve : (resolve (some " a:b]/ ") 8080).value = .ok ⟨.http, "a:b]", 8080⟩ := by
    decide
  have htakes : TakesPort "a:b]".toList := by decide
  refine ⟨hbare, hresolve, htakes, ?_⟩
  exact (resolve_canonical_iff hbare (by decide) hresolve htakes).1.2 (by decide)

/-- The least port with too many digits. -/
def overlongPort : Int := (Nat.pow 10 numeralDigitLimit : Nat)

theorem nonneg_overlongPort : 0 ≤ overlongPort := by
  unfold overlongPort
  generalize Nat.pow 10 numeralDigitLimit = n
  exact Int.natCast_nonneg n

theorem le_natAbs_overlongPort : Nat.pow 10 numeralDigitLimit ≤ overlongPort.natAbs := by
  unfold overlongPort
  generalize Nat.pow 10 numeralDigitLimit = n
  rw [Int.natAbs_natCast]

/-- No port with too many digits is found again. -/
theorem resolve_canonical_ne_of_le (hnonneg : 0 ≤ port)
    (hlong : Nat.pow 10 numeralDigitLimit ≤ port.natAbs) :
    IsBare "x" ∧ (resolve (some "x") port).value = .ok ⟨.http, "x", port⟩ ∧
      TakesPort "x".toList ∧
      ¬ ∀ other, resolve (some (canonical ⟨.http, "x", port⟩)) other =
        ⟨.ok ⟨.http, "x", port⟩, 0⟩ := by
  have hbare : IsBare "x" := by
    intro scheme
    cases scheme <;> decide
  have hsite : Site.ofHost "x" = .ok ⟨.http, "x", none⟩ := by decide
  have htakes : TakesPort "x".toList := by decide
  have hresolve : ofHost "x" port = .ok ⟨.http, "x", port⟩ :=
    ofHost_eq_ok_iff.2 ⟨_, hsite, rfl⟩
  refine ⟨hbare, hresolve, htakes, ?_⟩
  intro hall
  have hrefused := (resolve_canonical hbare hnonneg hresolve htakes 0).symm.trans (hall 0)
  rw [readInteger_toString_of_le hlong] at hrefused
  cases congrArg Noted.value hrefused

theorem not_resolve_canonical_overlong :
    IsBare "x" ∧ 0 ≤ overlongPort ∧
      (resolve (some "x") overlongPort).value = .ok ⟨.http, "x", overlongPort⟩ ∧
      TakesPort "x".toList ∧
      ¬ ∀ other, resolve (some (canonical ⟨.http, "x", overlongPort⟩)) other =
        ⟨.ok ⟨.http, "x", overlongPort⟩, 0⟩ := by
  obtain ⟨hbare, hresolve, htakes, hrefused⟩ :=
    resolve_canonical_ne_of_le nonneg_overlongPort le_natAbs_overlongPort
  exact ⟨hbare, nonneg_overlongPort, hresolve, htakes, hrefused⟩

end Endpoint

end Grounding
