import Grounding.Proofs.Network.Unlinkable
import Grounding.Proofs.Network.Resolution

/-!
# Ports of links

The configured port is checked, and a URL prefix comes with a port of its own.  The port that a bare host
names is whatever its digits denote, and nothing looks at its size.  So it alone decides whether a link
leads to a port that a connection can be made to.
-/

namespace Grounding

theorem Except.exists_of_map_eq_ok {ε α β : Type} {x : Except ε α} {f : α → β} {b : β}
    (h : x.map f = .ok b) : ∃ a, x = .ok a ∧ f a = b := by
  cases x with
  | error fault => contradiction
  | ok a => exact ⟨a, rfl, Except.ok.inj h⟩

namespace Endpoint

/-- The number that a host text fixes its port to by digits at its end. -/
def ownNumber? (host : String) : Option Nat :=
  (ownPort? host).map fun own => Numeral.ofDigits (own.2.filterMap Text.digitValue?)

/-- A port that a connection can be made to. -/
def IsLegalPort (port : Int) : Prop := 1 ≤ port ∧ port ≤ Settings.largestPort

instance (port : Int) : Decidable (IsLegalPort port) :=
  inferInstanceAs (Decidable (1 ≤ port ∧ port ≤ Settings.largestPort))

theorem isLegalPort_defaultPort (scheme : Scheme) : IsLegalPort scheme.defaultPort := by
  cases scheme <;> decide

/-- The port of a text is the number at its end, the one of its prefix, or left to the settings. -/
theorem port_of_hostAndPort {scheme : Option Scheme} {s name : List Char} {port : Option Int}
    (h : hostAndPort scheme s = .ok (name, port)) :
    (∃ own digits, scheme = none ∧ splitPort? s = some (own, digits) ∧
      port = some (Numeral.ofDigits (digits.filterMap Text.digitValue?) : Int)) ∨
    (∀ own, ¬ (scheme = none ∧ splitPort? s = some own)) ∧
      (port = none ∨ ∃ fixed : Scheme, port = some fixed.defaultPort) := by
  cases scheme with
  | some fixed =>
      obtain ⟨-, rfl⟩ := Prod.mk.inj (Except.ok.inj h)
      exact .inr ⟨by simp, .inr ⟨fixed, rfl⟩⟩
  | none =>
      unfold hostAndPort at h
      cases hsplit : splitPort? s with
      | none =>
          rw [hsplit] at h
          obtain ⟨-, rfl⟩ := Prod.mk.inj (Except.ok.inj h)
          exact .inr ⟨by simp, .inl rfl⟩
      | some own =>
          obtain ⟨host, digits⟩ := own
          rw [hsplit] at h
          dsimp only at h
          split at h
          · contradiction
          · next n hread =>
            obtain ⟨-, rfl⟩ := Prod.mk.inj (Except.ok.inj h)
            have hn := eq_ofDigits_of_readInteger (isDigitRun_of_splitPort? hsplit) hread
            exact .inl ⟨host, digits, rfl, rfl, congrArg some hn⟩

end Endpoint

theorem Site.port_of_ofHost {host : String} {site : Site} (h : ofHost host = .ok site) :
    (∃ n, Endpoint.ownNumber? host = some n ∧ site.port = some (n : Int)) ∨
    Endpoint.ownNumber? host = none ∧
      (site.port = none ∨ ∃ fixed : Scheme, site.port = some fixed.defaultPort) := by
  obtain ⟨scheme, rest, name, port, htake, hname, -, -, rfl⟩ := ofHost_eq_ok_iff.1 h
  unfold Endpoint.ownNumber? Endpoint.ownPort?
  rw [htake]
  rcases Endpoint.port_of_hostAndPort hname with ⟨own, digits, rfl, hsplit, rfl⟩ | ⟨hother, hport⟩
  · refine .inl ⟨_, ?_, rfl⟩
    dsimp only
    rw [hsplit]
    rfl
  · refine .inr ⟨?_, hport⟩
    cases scheme with
    | some fixed => rfl
    | none =>
        have hnone : Endpoint.splitPort? (Endpoint.dropSlash rest) = none :=
          Option.eq_none_iff_forall_ne_some.2 fun own hown => hother own ⟨rfl, hown⟩
        dsimp only
        rw [hnone]
        rfl

namespace Link

variable {platform : Platform} {s : Settings} {number : Nat} {link : Link}

theorem port_of_build (hs : s.Valid) (h : (build platform s.values number).value = .ok link) :
    (∃ n, Endpoint.ownNumber? s.host = some n ∧ link.endpoint.port = n) ∨
    Endpoint.ownNumber? s.host = none ∧
      (link.endpoint.port = s.port ∨ ∃ fixed : Scheme, link.endpoint.port = fixed.defaultPort) := by
  obtain ⟨site, hsite, hendpoint⟩ := endpoint_of_build hs h
  rw [hendpoint]
  rcases Site.port_of_ofHost hsite with ⟨n, hown, hport⟩ | ⟨hown, hport | ⟨fixed, hport⟩⟩
  · exact .inl ⟨n, hown, by rw [hport, Option.getD_some]⟩
  · exact .inr ⟨hown, .inl (by rw [hport, Option.getD_none])⟩
  · exact .inr ⟨hown, .inr ⟨fixed, by rw [hport, Option.getD_some]⟩⟩

/-- A link from valid settings leads to a legal port exactly if the number that the host ends in, should
there be one, is a legal port. -/
theorem isLegalPort_iff (hs : s.Valid) (h : (build platform s.values number).value = .ok link) :
    Endpoint.IsLegalPort link.endpoint.port ↔
      ∀ n, Endpoint.ownNumber? s.host = some n → Endpoint.IsLegalPort n := by
  rcases port_of_build hs h with ⟨n, hown, hport⟩ | ⟨hown, hport | ⟨fixed, hport⟩⟩
  · rw [hown, hport]
    simp
  · rw [hown, hport]
    refine iff_of_true ⟨hs.one_le_port, hs.port_le⟩ (by simp)
  · rw [hown, hport]
    exact iff_of_true (Endpoint.isLegalPort_defaultPort fixed) (by simp)

theorem isLegalPort_iff_named :
    ({ host := "rag:09000" } : Settings).Valid ∧
      ∃ link, (build .usual ({ host := "rag:09000" } : Settings).values 0).value = .ok link ∧
        Endpoint.ownNumber? "rag:09000" = some 9000 ∧
        Endpoint.IsLegalPort link.endpoint.port := by
  have hvalid : ({ host := "rag:09000" } : Settings).Valid := Settings.valid_default _ _
  have hbuild : (build .usual ({ host := "rag:09000" } : Settings).values 0).value.map
      Link.endpoint = .ok ⟨.http, "rag", 9000⟩ := by
    decide +kernel
  have hown : Endpoint.ownNumber? "rag:09000" = some 9000 := by decide +kernel
  obtain ⟨link, hlink, -⟩ := Except.exists_of_map_eq_ok hbuild
  refine ⟨hvalid, link, hlink, hown, (isLegalPort_iff hvalid hlink).2 ?_⟩
  intro n hn
  obtain rfl : 9000 = n := Option.some.inj (hown.symm.trans hn)
  decide

/-- The same number that is refused as a configured port is taken from the host. -/
theorem not_isLegalPort_named :
    (({ host := "x:65536" } : Settings).Valid ∧
      ∃ link, (build .usual ({ host := "x:65536" } : Settings).values 0).value = .ok link ∧
        ¬ Endpoint.IsLegalPort link.endpoint.port) ∧
    Settings.ofJson (.obj [("port", .int 65536)]) = .error [⟨[.field "port"], .above 65535⟩] := by
  have hbuild : (build .usual ({ host := "x:65536" } : Settings).values 0).value.map
      Link.endpoint = .ok ⟨.http, "x", 65536⟩ := by
    decide +kernel
  obtain ⟨link, hlink, hendpoint⟩ := Except.exists_of_map_eq_ok hbuild
  refine ⟨⟨Settings.valid_default _ _, link, hlink, ?_⟩, by decide +kernel⟩
  rw [hendpoint]
  decide

end Link

end Grounding
