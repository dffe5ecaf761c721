import Grounding.Network.Link
import Grounding.Proofs.Settings.Checked

/-!
# Building a link from valid settings

Valid settings hold a text for the host and numbers for the port and the timeout, so that building
comes down to three questions: which site the host names, whether the timeout fits a double, and
whether the client accepts the URL.
-/

namespace Grounding

/-! ## Ports -/

theorem Endpoint.natAbs_port_lt {scheme : Option Scheme} {s name : List Char} {port : Int}
    (h : hostAndPort scheme s = .ok (name, some port)) :
    port.natAbs < Nat.pow 10 numeralDigitLimit := by
  unfold hostAndPort at h
  split at h
  · next scheme =>
    obtain ⟨-, hport⟩ := Prod.mk.inj (Except.ok.inj h)
    obtain rfl := Option.some.inj hport
    apply natAbs_lt_of_five_digits
    cases scheme <;> decide
  · split at h
    · simp at h
    · split at h
      · contradiction
      · next hread =>
        obtain ⟨-, hport⟩ := Prod.mk.inj (Except.ok.inj h)
        obtain rfl := Option.some.inj hport
        exact natAbs_lt_of_readInteger hread

/-- A port that a host text fixes can be written. -/
theorem Site.natAbs_port_lt {host : String} {site : Site} {port : Int}
    (h : Site.ofHost host = .ok site) (hport : site.port = some port) :
    port.natAbs < Nat.pow 10 numeralDigitLimit := by
  unfold Site.ofHost at h
  dsimp only at h
  split at h
  · contradiction
  · next name own hown =>
    split_ifs at h
    obtain rfl := Except.ok.inj h
    dsimp only at hport
    subst hport
    exact Endpoint.natAbs_port_lt hown

/-! ## Timeouts -/

/-- Milliseconds make no timeout exactly when their seconds are beyond every double. -/
theorem timeoutOfMillis_eq_none_iff (millis : Int) :
    timeoutOfMillis millis = none ↔ (Binary64.overflowBound * 1000 : Nat) ≤ millis := by
  have hpos := Binary64.overflowBound_pos
  unfold timeoutOfMillis
  dsimp only
  split_ifs with hfinite
  · rw [Binary64.isFinite_ofNat] at hfinite
    refine iff_of_false (by simp) ?_
    omega
  · rw [Binary64.isFinite_ofNat] at hfinite
    refine iff_of_true rfl ?_
    omega

/-! ## The three questions -/

namespace Link

theorem build_values (platform : Platform) (s : Settings) (number : Nat) :
    (build platform s.values number).value =
      match Site.ofHost s.host with
      | .error fault => .error (fault.toLinkFault (some s.host))
      | .ok site => connect platform s.values s.host number (usable platform.tls site) := by
  unfold build
  dsimp only [Settings.values, hostText, Option.getD_some]
  cases Site.ofHost s.host <;> rfl

theorem usable_host (tls : Bool) (site : Site) : (usable tls site).host = site.host := by
  unfold usable
  split <;> rfl

theorem usable_port (tls : Bool) (site : Site) : (usable tls site).port = site.port := by
  unfold usable
  split <;> rfl

theorem portText?_values {s : Settings} (hs : s.Valid) {site : Site}
    (hsite : ∀ port, site.port = some port → port.natAbs < Nat.pow 10 numeralDigitLimit) :
    portText? site s.values.port = .ok (some (toString (site.port.getD s.port))) := by
  unfold portText? Settings.values
  cases hport : site.port with
  | none =>
      dsimp only [Option.getD_none]
      rw [writeInteger_of_lt hs.natAbs_port_lt]
  | some port =>
      dsimp only [Option.getD_some]
      rw [writeInteger_of_lt (hsite port hport)]

theorem portNumber_values (s : Settings) (site : Site) (binding : Binding) :
    portNumber site s.values.port binding = site.port.getD s.port := by
  unfold portNumber Settings.values
  cases site.port <;> rfl

/-- The host and port of a URL. -/
def authority (site : Site) (port : Int) : String := site.host ++ ":" ++ toString port

/-- The client for a site whose port and timeout are known. -/
def dial (platform : Platform) (host : String) (site : Site) (port : Int) (number : Nat)
    (timeout : Binary64) : Except LinkFault Link :=
  match Binding.ofUrl platform site.scheme (authority site port) with
  | .error fault => .error (fault.toLinkFault host)
  | .ok binding =>
    .ok {
      endpoint := ⟨site.scheme, site.host, port⟩
      base := site.scheme.name ++ "://" ++ authority site port
      client := ⟨number, binding, timeout⟩ }

theorem connect_values (platform : Platform) {s : Settings} (hs : s.Valid) {site : Site}
    (hsite : ∀ port, site.port = some port → port.natAbs < Nat.pow 10 numeralDigitLimit)
    (host : String) (number : Nat) :
    connect platform s.values host number site =
      match timeoutOfMillis s.timeoutMs with
      | none => .error (.timeout .tooLarge)
      | some timeout => dial platform host site (site.port.getD s.port) number timeout := by
  have hport := portText?_values hs hsite
  unfold connect
  rw [hport]
  cases hmillis : timeoutOfMillis s.timeoutMs with
  | none =>
      have htimeout : timeoutOf s.values.timeoutMs = .error .tooLarge := by
        unfold timeoutOf Settings.values
        dsimp only
        rw [hmillis]
      rw [htimeout]
  | some timeout =>
      have htimeout : timeoutOf s.values.timeoutMs = .ok timeout := by
        unfold timeoutOf Settings.values
        dsimp only
        rw [hmillis]
      rw [htimeout]
      dsimp only
      rw [← authority, dial]
      cases Binding.ofUrl platform site.scheme (authority site (site.port.getD s.port)) with
      | error fault => rfl
      | ok binding =>
          dsimp only
          rw [portNumber_values]

/-- What building a link from valid settings comes to. -/
theorem build_valid (platform : Platform) {s : Settings} (hs : s.Valid) (number : Nat) :
    (build platform s.values number).value =
      match Site.ofHost s.host, timeoutOfMillis s.timeoutMs with
      | .error fault, _ => .error (fault.toLinkFault (some s.host))
      | .ok _, none => .error (.timeout .tooLarge)
      | .ok site, some timeout =>
        dial platform s.host (usable platform.tls site) (site.port.getD s.port) number timeout := by
  rw [build_values]
  cases hhost : Site.ofHost s.host with
  | error fault => rfl
  | ok site =>
      have hsite : ∀ port, (usable platform.tls site).port = some port →
          port.natAbs < Nat.pow 10 numeralDigitLimit := by
        intro port hport
        rw [usable_port] at hport
        exact Site.natAbs_port_lt hhost hport
      dsimp only
      rw [connect_values platform hs hsite, usable_port]
      cases timeoutOfMillis s.timeoutMs with
      | none => rfl
      | some timeout => rfl

/-- A link built from valid settings leads to the host and port that they name. -/
theorem endpoint_of_build {platform : Platform} {s : Settings} (hs : s.Valid) {number : Nat}
    {link : Link} (h : (build platform s.values number).value = .ok link) :
    ∃ site, Site.ofHost s.host = .ok site ∧
      link.endpoint = ⟨(usable platform.tls site).scheme, site.host, site.port.getD s.port⟩ := by
  rw [build_valid platform hs] at h
  split at h
  · contradiction
  · contradiction
  · next site timeout hhost _ =>
    unfold dial at h
    split at h
    · contradiction
    · obtain rfl := Except.ok.inj h
      exact ⟨site, hhost, by rw [usable_host]⟩

end Link

end Grounding
