import Grounding.Proofs.Network.PlainHost

/-!
# Where requests go

Host and port of valid settings resolve to an endpoint, and its URL is what a client is bound to.  For a
plain host that URL is also the text that every request begins with.  A link that was built is bound there
and waits for as long as its settings said; which client it is makes no difference.
-/

namespace Grounding

/-! ## URLs of requests -/

namespace Address

variable {a : Address} {path : String}

/-- Small letters are as many as the letters before. -/
theorem length_hostText_target (a : Address) : a.target.hostText.length = a.hostText.length := by
  unfold target
  split_ifs with hcolon
  · rfl
  · have hlower : (a.host.toList.map Char.toLower).contains ':' = false := by
      rw [Bool.eq_false_iff]
      intro hmem
      obtain ⟨c, hc, heq⟩ := List.mem_map.1 (List.contains_iff_mem.1 hmem)
      obtain rfl := Text.eq_of_toLower_eq (by decide) heq
      exact hcolon (List.contains_iff_mem.2 hc)
    rw [hostText, hostText, if_neg hcolon, String.toList_ofList, hlower,
      if_neg Bool.false_ne_true, String.length_ofList, List.length_map, String.length_toList]

/-- A request goes to the URL of the address with its path behind it, if that is not too long. -/
theorem sending_of_length_le (h : (a.target.text ++ path).length ≤ longestUrl) :
    a.sending path = .url (a.target.text ++ path) := by
  have hhost := length_hostText_target a
  have hport : a.target.portText = a.portText := by
    unfold target
    split_ifs <;> rfl
  have hpath : a.target.path = a.path := by
    unfold target
    split_ifs <;> rfl
  have hfits : a.overlongPart? path = none := by
    rw [text, hport, hpath] at h
    simp only [String.length_append] at h
    rw [overlongPart?, if_neg (by rw [String.length_append]; omega),
      if_neg (by rw [String.length_append]; omega)]
  rw [sending, hfits]

end Address

/-- Requests go to the base URL with their path behind it, if that is not too long. -/
structure Binding.SendsTo (b : Binding) (base : String) : Prop where
  augment : (base ++ augmentPath).length ≤ Address.longestUrl →
    b.augment = .url (base ++ augmentPath)
  health : (base ++ healthPath).length ≤ Address.longestUrl →
    b.health = .url (base ++ healthPath)

/-- Requests to a plain URL go to the address that is read from it. -/
theorem Binding.exists_sendsTo {platform : Platform} {scheme : Scheme} {rest : String} {b : Binding}
    (hplain : Address.isPlain rest = true) (h : ofUrl platform scheme rest = .ok b) :
    ∃ a, Address.ofUrl scheme rest = .ok a ∧ b.SendsTo a.target.text := by
  obtain ⟨a, rfl, haddress⟩ := exists_address hplain h
  exact ⟨a, haddress, Address.sending_of_length_le, Address.sending_of_length_le⟩

/-! ## What settings resolve to -/

namespace Settings

/-- The endpoint that host and port resolve to.  Without TLS support it falls back to plain HTTP. -/
def endpoint? (tlsSupported : Bool) (s : Settings) : Option Endpoint :=
  match Endpoint.ofHost s.host s.port with
  | .error _ => none
  | .ok e => some (if e.tls && !tlsSupported then { e with scheme := .http } else e)

/-- What a client for host and port is bound to: the URL of the endpoint. -/
def binding? (platform : Platform) (s : Settings) : Option Binding :=
  match s.endpoint? platform.tls with
  | none => none
  | some e => (Binding.ofUrl platform e.scheme (e.host ++ ":" ++ toString e.port)).toOption

/-- What the URL of every request begins with if the host is plain: the URL of the endpoint, as a client
writes it. -/
def base? (tlsSupported : Bool) (s : Settings) : Option String :=
  match s.endpoint? tlsSupported with
  | none => none
  | some e =>
    match Address.ofUrl e.scheme (e.host ++ ":" ++ toString e.port) with
    | .error _ => none
    | .ok address => some address.target.text

theorem binding?_congr {a b : Settings} (hhost : a.host = b.host) (hport : a.port = b.port)
    (platform : Platform) : a.binding? platform = b.binding? platform := by
  unfold binding? endpoint?
  rw [hhost, hport]

theorem isPlain_endpoint {tls : Bool} {s : Settings} {e : Endpoint}
    (hplain : Endpoint.IsPlain s.host) (h : s.endpoint? tls = some e) : Endpoint.IsPlain e.host := by
  unfold endpoint? at h
  split at h
  · contradiction
  · next resolved hresolved =>
    obtain ⟨site, hsite, rfl⟩ := Endpoint.ofHost_eq_ok_iff.1 hresolved
    obtain rfl := Option.some.inj h
    have hname := Site.isPlain_host hsite hplain
    split_ifs
    · exact hname
    · exact hname

/-- A client for a plain host sends to the base URL of host and port. -/
theorem sendsTo_base {platform : Platform} {s : Settings} {binding : Binding}
    (hplain : Endpoint.IsPlain s.host) (h : s.binding? platform = some binding) :
    ∃ base, s.base? platform.tls = some base ∧ binding.SendsTo base := by
  unfold binding? at h
  unfold base?
  cases hresolved : s.endpoint? platform.tls with
  | none =>
      rw [hresolved] at h
      contradiction
  | some e =>
      have hurl := Address.isPlain_of_ascii
        (Endpoint.isPlain_authority (isPlain_endpoint hplain hresolved)
          (Endpoint.isPlain_toString e.port))
      rw [hresolved] at h
      dsimp only at h ⊢
      cases hbound : Binding.ofUrl platform e.scheme (e.host ++ ":" ++ toString e.port) with
      | error fault =>
          rw [hbound] at h
          contradiction
      | ok b =>
          rw [hbound] at h
          obtain rfl := Option.some.inj h
          obtain ⟨a, haddress, hsends⟩ := Binding.exists_sendsTo hurl hbound
          rw [haddress]
          exact ⟨a.target.text, rfl, hsends⟩

end Settings

/-! ## Links -/

namespace Link

theorem dial_eq_ok {platform : Platform} {host : String} {site : Site} {port : Int} {number : Nat}
    {timeout : Binary64} {link : Link}
    (h : dial platform host site port number timeout = .ok link) :
    link.endpoint = ⟨site.scheme, site.host, port⟩ ∧
      Binding.ofUrl platform site.scheme (authority site port) = .ok link.client.binding ∧
      link.client.timeout = timeout := by
  unfold dial at h
  split at h
  · contradiction
  · next binding hbinding =>
    obtain rfl := Except.ok.inj h
    exact ⟨rfl, hbinding, rfl⟩

variable {platform : Platform} {s : Settings} {number : Nat} {link : Link}

theorem build_eq_ok (hs : s.Valid) (h : (build platform s.values number).value = .ok link) :
    ∃ site timeout, Site.ofHost s.host = .ok site ∧ timeoutOfMillis s.timeoutMs = some timeout ∧
      dial platform s.host (usable platform.tls site) (site.port.getD s.port) number timeout =
        .ok link := by
  rw [build_valid platform hs] at h
  split at h
  · contradiction
  · contradiction
  · next site timeout hsite htimeout => exact ⟨site, timeout, hsite, htimeout, h⟩

/-- A link waits for as long as the settings said that it was built from. -/
theorem timeout_of_build (hs : s.Valid) (h : (build platform s.values number).value = .ok link) :
    timeoutOfMillis s.timeoutMs = some link.client.timeout := by
  obtain ⟨site, timeout, -, htimeout, hdial⟩ := build_eq_ok hs h
  obtain ⟨-, -, hclient⟩ := dial_eq_ok hdial
  rw [htimeout, hclient]

theorem endpoint?_of_build (hs : s.Valid) (h : (build platform s.values number).value = .ok link) :
    s.endpoint? platform.tls = some link.endpoint := by
  obtain ⟨site, timeout, hsite, -, hdial⟩ := build_eq_ok hs h
  obtain ⟨hendpoint, -, -⟩ := dial_eq_ok hdial
  unfold Settings.endpoint? Endpoint.ofHost
  rw [hsite, hendpoint, usable_host]
  unfold usable Endpoint.tls
  dsimp only
  split_ifs <;> rfl

/-- A link is bound to the URL of the settings that it was built from. -/
theorem binding?_of_build (hs : s.Valid) (h : (build platform s.values number).value = .ok link) :
    s.binding? platform = some link.client.binding := by
  obtain ⟨site, timeout, -, -, hdial⟩ := build_eq_ok hs h
  obtain ⟨hendpoint, hbinding, -⟩ := dial_eq_ok hdial
  unfold Settings.binding?
  rw [endpoint?_of_build hs h, hendpoint]
  dsimp only
  rw [← authority, hbinding]
  rfl

/-! ## Values that were not checked -/

theorem isPlain_of_writeInteger {n : Int} {text : String} (h : writeInteger n = .ok text) :
    Endpoint.IsPlain text := by
  unfold writeInteger at h
  split_ifs at h
  obtain rfl := Except.ok.inj h
  exact Endpoint.isPlain_toString n

/-- A port that is no text can only be written as a number. -/
theorem isPlain_of_portText {site : Site} {configured : Json} {text : String}
    (hnumber : ∀ own, configured ≠ .str own) (h : portText? site configured = .ok (some text)) :
    Endpoint.IsPlain text := by
  unfold portText? at h
  split at h
  · split at h
    · cases h
    · next own hown =>
      obtain rfl := Option.some.inj (Except.ok.inj h)
      exact isPlain_of_writeInteger hown
  · split at h
    · cases h
    · next own hown =>
      obtain rfl := Option.some.inj (Except.ok.inj h)
      exact isPlain_of_writeInteger hown
  · exact absurd rfl (hnumber _)
  · cases h

theorem exists_sendsTo_of_connect {values : Settings.Values} {host : String} {site : Site}
    (hnumber : ∀ text, values.port ≠ .str text) (hplain : Endpoint.IsPlain site.host)
    (h : connect platform values host number site = .ok link) :
    ∃ base, link.client.binding.SendsTo base := by
  unfold connect at h
  split at h
  · cases h
  split at h
  · cases h
  split at h
  · cases h
  next port hport =>
  dsimp only at h
  split at h
  · cases h
  next binding hbinding =>
  obtain rfl := Except.ok.inj h
  have hurl : Endpoint.IsPlain (site.host ++ ":" ++ port) :=
    Endpoint.isPlain_authority hplain (isPlain_of_portText hnumber hport)
  obtain ⟨a, -, hsends⟩ := Binding.exists_sendsTo (Address.isPlain_of_ascii hurl) hbinding
  exact ⟨_, hsends⟩

/-- A link to a plain host sends to one base URL, whatever the other values are. -/
theorem exists_sendsTo_of_build {values : Settings.Values} {host : String}
    (hhost : values.host = .str host) (hnumber : ∀ text, values.port ≠ .str text)
    (hplain : Endpoint.IsPlain host) (h : (build platform values number).value = .ok link) :
    ∃ base, link.client.binding.SendsTo base := by
  unfold build at h
  rw [hhost] at h
  dsimp only [hostText, Option.getD_some] at h
  split at h
  · cases h
  · next site hsite =>
    refine exists_sendsTo_of_connect hnumber ?_ h
    rw [usable_host]
    exact Site.isPlain_host hsite hplain

end Link

end Grounding
