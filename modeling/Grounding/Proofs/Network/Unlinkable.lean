import Grounding.Proofs.Network.PlainHost
import Grounding.Proofs.Settings.Checked

/-!
# Settings that no link can be built from

Valid settings still fail in ways that are not a matter of the host being unusable: a bare host may end in
digits that are no numeral, and a timeout may be longer than a double can say.  Where the URL is not plain,
the client library may fail without refusing it.  Everything else about a link either works out or is
blamed on the host.
-/

namespace Grounding

/-! ## Hosts with an unreadable port -/

namespace Endpoint

/-- The name and the digits after its last colon, in a host text that fixes its port that way. -/
def ownPort? (host : String) : Option (List Char × List Char) :=
  match takeScheme (Text.trim Text.isBlank host.toList) with
  | (none, rest) => splitPort? (dropSlash rest)
  | (some _, _) => none

/-- The host text ends in digits that are no numeral: one of them is ornamental, or they are too
many. -/
def NamesUnreadablePort (host : String) : Prop :=
  ∃ name digits, ownPort? host = some (name, digits) ∧
    ((∃ c ∈ digits, Text.digitValue? c = none) ∨ numeralDigitLimit < digits.length)

end Endpoint

/-- Whatever is wrong with a name, it is not the port. -/
theorem Site.judge_name_ne_port (name : List Char) (site : Site) (fault : NumeralFault) :
    (if name.isEmpty then .error .empty
      else if name.contains '/' then .error .path else .ok site : Except Endpoint.Fault Site) ≠
      .error (.port fault) := by
  split_ifs <;> simp

/-- Only an unreadable port keeps a host text from being judged by its name. -/
theorem Site.ofHost_port_iff (host : String) :
    (∃ fault, Site.ofHost host = .error (.port fault)) ↔ Endpoint.NamesUnreadablePort host := by
  unfold Site.ofHost Endpoint.NamesUnreadablePort Endpoint.ownPort?
  rcases Endpoint.takeScheme (Text.trim Text.isBlank host.toList) with ⟨_ | scheme, rest⟩
  · dsimp only [Endpoint.hostAndPort]
    cases hsplit : Endpoint.splitPort? (Endpoint.dropSlash rest) with
    | none =>
        refine iff_of_false ?_ (by simp)
        rintro ⟨fault, hfault⟩
        exact judge_name_ne_port _ _ fault hfault
    | some own =>
        obtain ⟨name, digits⟩ := own
        have hread := readInteger_digitRun (Endpoint.isDigitRun_of_splitPort? hsplit)
        simp only [Option.some.injEq, Prod.mk.injEq, and_assoc, exists_eq_left', exists_and_left]
        rw [← hread]
        cases readInteger (String.ofList digits) with
        | error fault => exact iff_of_true ⟨fault, rfl⟩ ⟨fault, rfl⟩
        | ok n =>
            refine iff_of_false ?_ (by simp)
            rintro ⟨fault, hfault⟩
            exact judge_name_ne_port _ _ fault hfault
  · -- a URL prefix fixes the port, and no digits are looked at
    refine iff_of_false ?_ (by simp)
    rintro ⟨fault, hfault⟩
    exact judge_name_ne_port _ _ fault hfault

/-! ## Building that fails for another reason than the host -/

/-- The timeout has more seconds than a double can say. -/
def Settings.HasOverlongTimeout (s : Settings) : Prop :=
  (Binary64.overflowBound * 1000 : Nat) ≤ s.timeoutMs

/-- The host names a site whose URL is not plain, and the client library fails at it. -/
def Settings.DefeatsLibrary (s : Settings) (platform : Platform) : Prop :=
  ∃ site message, Site.ofHost s.host = .ok site ∧
    Address.isPlain (Link.authority site (site.port.getD s.port)) = false ∧
    platform.foreignUrl ((Link.usable platform.tls site).scheme.name ++ "://" ++
      Link.authority site (site.port.getD s.port)) = .error (.failed message)

/-- No link can be built, and the host is not refused: its port is unreadable, or it names a site but the
timeout is too long, or the client library fails at its URL. -/
def Settings.Unlinkable (s : Settings) (platform : Platform) : Prop :=
  Endpoint.NamesUnreadablePort s.host ∨
    ((∃ site, Site.ofHost s.host = .ok site) ∧ s.HasOverlongTimeout) ∨ s.DefeatsLibrary platform

/-- The library is not asked about the URL of a plain host. -/
theorem Settings.not_defeatsLibrary {platform : Platform} {s : Settings}
    (hplain : Endpoint.IsPlain s.host) : ¬ s.DefeatsLibrary platform := by
  rintro ⟨site, message, hsite, hforeign, -⟩
  rw [Link.authority,
    Address.isPlain_of_ascii (Endpoint.isPlain_authority (Site.isPlain_host hsite hplain)
      (Endpoint.isPlain_toString _))] at hforeign
  contradiction

theorem Settings.not_unlinkable {platform : Platform} {s : Settings}
    (hplain : Endpoint.IsPlain s.host) (hport : Endpoint.ownPort? s.host = none)
    (htimeout : ¬ s.HasOverlongTimeout) : ¬ s.Unlinkable platform := by
  rintro (⟨_, _, hown, _⟩ | ⟨-, hlong⟩ | hlibrary)
  · rw [hport] at hown
    contradiction
  · exact htimeout hlong
  · exact not_defeatsLibrary hplain hlibrary

/-- With the default timeout any plain host will do that has no port of its own. -/
theorem Settings.not_unlinkable_default {platform : Platform} {host : String} (enabled : Bool)
    (hplain : Endpoint.IsPlain host) (h : Endpoint.ownPort? host = none) :
    ¬ ({ host, enabled } : Settings).Unlinkable platform := by
  have htimeout : ¬ ({} : Settings).HasOverlongTimeout := by
    unfold HasOverlongTimeout
    decide +kernel
  exact not_unlinkable (s := { host, enabled }) hplain h htimeout

namespace Link

/-- Building gave a link, or a fault of the host setting. -/
def Settled (result : Except LinkFault Link) : Prop :=
  (∃ link, result = .ok link) ∨ ∃ fault, result = .error (.host fault)

variable {s : Settings} {platform : Platform}

/-- A client for a known site is there or refused, unless the library fails at a URL that is not plain. -/
theorem settled_dial_iff {host : String} {site : Site} {port : Int} {number : Nat}
    {timeout : Binary64} :
    Settled (dial platform host site port number timeout) ↔
      ¬ ∃ message, Address.isPlain (authority site port) = false ∧
        platform.foreignUrl (site.scheme.name ++ "://" ++ authority site port) =
          .error (.failed message) := by
  unfold dial
  cases hplain : Address.isPlain (authority site port) with
  | true =>
      rw [Binding.ofUrl_of_isPlain platform _ hplain]
      refine iff_of_true ?_ (by simp)
      cases Address.ofUrl site.scheme (authority site port) with
      | error fault => exact .inr ⟨_, rfl⟩
      | ok address => exact .inl ⟨_, rfl⟩
  | false =>
      rw [Binding.ofUrl_of_not_isPlain platform _ hplain]
      cases platform.foreignUrl (site.scheme.name ++ "://" ++ authority site port) with
      | ok url => exact iff_of_true (.inl ⟨_, rfl⟩) (by simp)
      | error fault =>
          cases fault with
          | refused message => exact iff_of_true (.inr ⟨_, rfl⟩) (by simp)
          | failed message =>
              refine iff_of_false ?_ (by simp)
              simp [Settled, Binding.Fault.toLinkFault]

/-- Building fails over an unreadable port, else over an overlong timeout once the host has named a site,
else over the library, and is settled otherwise. -/
theorem settled_build_iff (hs : s.Valid) (platform : Platform) (number : Nat) :
    Settled (build platform s.values number).value ↔ ¬ s.Unlinkable platform := by
  have hport := Site.ofHost_port_iff s.host
  have htimeout := timeoutOfMillis_eq_none_iff s.timeoutMs
  unfold Settings.Unlinkable Settings.HasOverlongTimeout Settings.DefeatsLibrary
  rw [← hport, ← htimeout, build_valid platform hs]
  clear hport htimeout
  cases Site.ofHost s.host with
  | error fault => cases fault <;> simp [Endpoint.Fault.toLinkFault, Settled]
  | ok site =>
      cases timeoutOfMillis s.timeoutMs with
      | none => simp [Settled]
      | some timeout =>
          dsimp only
          rw [settled_dial_iff, authority, usable_host, ← authority]
          simp

end Link

end Grounding
