import Grounding.Proofs.Network.HostName
import Grounding.Proofs.Network.Ports

/-!
# Where a client connects to

The host setting is taken apart to find an endpoint, the endpoint is written as a URL, and the client takes
the URL apart again.  If it comes to a client at all, that client connects to the endpoint; a name that
the client would cut short makes the URL unreadable instead.
-/

namespace Grounding

namespace Address

/-- The address is that of the endpoint and nothing else: its whole name, and its port, which is left out
where the scheme implies it. -/
structure LeadsTo (a : Address) (e : Endpoint) : Prop where
  scheme : a.scheme = e.scheme
  host : a.hostText = spelled e.host
  port : a.port.getD a.scheme.defaultPort = e.port
  omitted : a.port = none ↔ e.port = e.scheme.defaultPort
  path : a.path = ""

/-! ## URLs without a path -/

variable {scheme : Scheme} {a : Address}

/-- Without a slash the URL is nothing but its authority. -/
theorem ofUrl_of_slash_not_mem {rest : String} (hslash : '/' ∉ rest.toList) :
    ofUrl scheme rest =
      match urlFault? (scheme.name ++ "://" ++ rest).toList with
      | some fault => .error fault
      | none => ofAuthority scheme rest.toList := by
  have hother : ∀ c ∈ rest.toList, (c != '/') = true := fun c hc =>
    bne_iff_ne.2 (ne_of_mem_of_not_mem hc hslash)
  have hpath : basePath [] = "" := by decide
  unfold ofUrl
  rw [List.takeWhile_eq_self_iff.2 hother, List.dropWhile_eq_nil_iff.2 hother, hpath]
  cases hauthority : ofAuthority scheme rest.toList with
  | error fault => rfl
  | ok a =>
      obtain ⟨scheme, host, port, path⟩ := a
      obtain ⟨-, hempty⟩ := scheme_and_path_of_ofAuthority hauthority
      obtain rfl : path = "" := hempty
      rfl

theorem not_isControl_of_urlFault? {url : List Char} (h : urlFault? url = none) {c : Char}
    (hc : c ∈ url) : isControl c = false := by
  unfold urlFault? firstControl? at h
  split_ifs at h
  rw [Option.map_eq_none_iff, Option.map_eq_none_iff, List.find?_eq_none] at h
  simpa using h c hc

theorem toList_authority (name : String) (port : Int) :
    (name ++ ":" ++ toString port).toList = name.toList ++ ':' :: (toString port).toList := by
  simp

section Port

variable {port : Int} (hport : port.natAbs < Nat.pow 10 numeralDigitLimit)
include hport

theorem not_mem_toString {c : Char} (hplace : Numeral.hasPlace c = false) :
    c ∉ (toString port).toList := by
  intro hmem
  obtain ⟨fault, hfault⟩ := readInteger_of_mem hmem hplace
  rw [readInteger_toString hport] at hfault
  cases hfault

theorem slash_not_mem_authority {name : String} (hslash : '/' ∉ name.toList) :
    '/' ∉ (name ++ ":" ++ toString port).toList := by
  rw [toList_authority, List.mem_append, List.mem_cons]
  rintro (hname | hcolon | hdigit)
  · exact hslash hname
  · simp at hcolon
  · exact not_mem_toString hport (by decide) hdigit

end Port

variable {e : Endpoint}

/-- A name that runs on into the port makes no URL. -/
theorem ofUrl_runsOn (scheme : Scheme) (hport : e.port.natAbs < Nat.pow 10 numeralDigitLimit)
    (hslash : '/' ∉ e.host.toList) (h : RunsOn e.host.toList) :
    ∃ fault, ofUrl scheme (e.host ++ ":" ++ toString e.port) = .error fault := by
  obtain ⟨fault, hfault⟩ := ofAuthority_runsOn scheme h
    (not_mem_toString hport (by decide))
  rw [ofUrl_of_slash_not_mem (slash_not_mem_authority hport hslash), toList_authority, hfault]
  cases urlFault? (scheme.name ++ "://" ++ (e.host ++ ":" ++ toString e.port)).toList with
  | some other => exact ⟨other, rfl⟩
  | none => exact ⟨fault, rfl⟩

theorem eq_colon_of_mem_delimiters {host : String} (hplain : Endpoint.IsPlain host)
    (hslash : '/' ∉ host.toList) {c : Char} (hc : c ∈ host.toList) (hmem : c ∈ delimiters) :
    c = ':' := by
  have hmarks := (hplain c hc).2
  have hno : c ≠ '/' := ne_of_mem_of_not_mem hc hslash
  simp only [delimiters, List.mem_cons, List.not_mem_nil, or_false] at hmem hmarks
  tauto

/-- The URL of an endpoint leads there, if a client accepts it. -/
theorem leadsTo_of_ofUrl (hplain : Endpoint.IsPlain e.host)
    (hport : e.port.natAbs < Nat.pow 10 numeralDigitLimit) (hslash : '/' ∉ e.host.toList)
    (h : ofUrl e.scheme (e.host ++ ":" ++ toString e.port) = .ok a) : a.LeadsTo e := by
  have hwhole : ¬ RunsOn e.host.toList := by
    intro hruns
    obtain ⟨fault, hfault⟩ := ofUrl_runsOn e.scheme hport hslash hruns
    rw [h] at hfault
    cases hfault
  rw [ofUrl_of_slash_not_mem (slash_not_mem_authority hport hslash)] at h
  split at h
  · cases h
  · next hurl =>
    rw [toList_authority] at h
    obtain ⟨host, hhost, rfl⟩ := ofAuthority_whole hwhole hport h
    have hcontrol : ∀ c ∈ e.host.toList, isControl c = false := by
      intro c hc
      apply not_isControl_of_urlFault? hurl
      simp [hc]
    refine ⟨rfl, ?_, ?_, ?_, rfl⟩
    · apply hostText_of_encodeHost hwhole (fun c hc => (hplain c hc).1) hcontrol
        (fun c hc => eq_colon_of_mem_delimiters hplain hslash hc)
      rwa [String.toList_ofList]
    · dsimp only
      split_ifs with hdefault
      · exact hdefault.symm
      · rfl
    · dsimp only
      split_ifs with hdefault <;> simp [hdefault]

end Address

/-- The client goes to an address, and that leads to the endpoint. -/
def Binding.LeadsTo (b : Binding) (e : Endpoint) : Prop :=
  ∃ a, b = .address a ∧ a.LeadsTo e

namespace Link

variable {platform : Platform} {s : Settings} {number : Nat} {link : Link}

/-- The name, the port and the binding of a link that was built. -/
theorem ofUrl_of_build (hs : s.Valid) (h : (build platform s.values number).value = .ok link) :
    ∃ site, Site.ofHost s.host = .ok site ∧ link.endpoint.host = site.host ∧
      '/' ∉ link.endpoint.host.toList ∧
      link.endpoint.port.natAbs < Nat.pow 10 numeralDigitLimit ∧
      Binding.ofUrl platform link.endpoint.scheme
        (link.endpoint.host ++ ":" ++ toString link.endpoint.port) = .ok link.client.binding := by
  obtain ⟨site, timeout, hsite, -, hdial⟩ := build_eq_ok hs h
  obtain ⟨hendpoint, hbinding, -⟩ := dial_eq_ok hdial
  obtain ⟨-, hslash⟩ := Site.name_of_ofHost hsite
  have hport : (site.port.getD s.port).natAbs < Nat.pow 10 numeralDigitLimit := by
    cases hown : site.port with
    | none => exact hs.natAbs_port_lt
    | some port => exact Site.natAbs_port_lt hsite hown
  refine ⟨site, hsite, ?_, ?_, ?_, ?_⟩
  · rw [hendpoint, usable_host]
  · rw [hendpoint, usable_host]
    exact hslash
  · rw [hendpoint]
    exact hport
  · rw [hendpoint]
    exact hbinding

/-- A link has no name that runs on into the port where its URL is plain. -/
theorem not_runsOn_of_build (hs : s.Valid) (h : (build platform s.values number).value = .ok link)
    (hplain : Address.isPlain (link.endpoint.host ++ ":" ++ toString link.endpoint.port) = true) :
    ¬ Address.RunsOn link.endpoint.host.toList := by
  obtain ⟨-, -, -, hslash, hport, hbinding⟩ := ofUrl_of_build hs h
  intro hruns
  obtain ⟨fault, hfault⟩ := Address.ofUrl_runsOn link.endpoint.scheme hport hslash hruns
  obtain ⟨a, -, haddress⟩ := Binding.exists_address hplain hbinding
  rw [haddress] at hfault
  cases hfault

/-- The URL of a plain host is plain. -/
theorem isPlain_of_build (hs : s.Valid) (hplain : Endpoint.IsPlain s.host)
    (h : (build platform s.values number).value = .ok link) :
    Address.isPlain (link.endpoint.host ++ ":" ++ toString link.endpoint.port) = true :=
  Address.isPlain_of_ascii (Endpoint.isPlain_authority
    (Settings.isPlain_endpoint hplain (endpoint?_of_build hs h))
    (Endpoint.isPlain_toString _))

/-- Every link is a link to the endpoint that its settings resolve to, and its client connects to that
endpoint.  If the settings resolve to no endpoint, or to one whose name has a colon outside brackets or
text behind them, the host setting is refused; only an overlong timeout or an unreadable port keeps it
from being looked at that far. -/
theorem leadsTo_endpoint (platform : Platform) (hs : s.Valid) (hplain : Endpoint.IsPlain s.host)
    (number : Nat) :
    (∀ link, (build platform s.values number).value = .ok link →
      s.endpoint? platform.tls = some link.endpoint ∧
        link.client.binding.LeadsTo link.endpoint) ∧
    (¬ s.Unlinkable platform →
      (∀ e, Endpoint.ofHost s.host s.port = .ok e → Address.RunsOn e.host.toList) →
      ∃ fault, (build platform s.values number).value = .error (.host fault)) := by
  constructor
  · intro link h
    obtain ⟨site, hsite, hhost, hslash, hport, hbinding⟩ := ofUrl_of_build hs h
    obtain ⟨a, ha, haddress⟩ := Binding.exists_address (isPlain_of_build hs hplain h) hbinding
    have hname := Settings.isPlain_endpoint hplain (endpoint?_of_build hs h)
    exact ⟨endpoint?_of_build hs h, a, ha, Address.leadsTo_of_ofUrl hname hport hslash haddress⟩
  · intro hlinkable hruns
    rcases (settled_build_iff hs platform number).2 hlinkable with ⟨link, h⟩ | hfault
    · -- a link would have a name that runs on, and no URL has one
      obtain ⟨site, hsite, hhost, -⟩ := ofUrl_of_build hs h
      have hname := hruns _ (Endpoint.ofHost_eq_ok_iff.2 ⟨site, hsite, rfl⟩)
      rw [← hhost] at hname
      exact absurd hname (not_runsOn_of_build hs h (isPlain_of_build hs hplain h))
    · exact hfault

theorem leadsTo_endpoint_spaced :
    (({ host := "RAG Host" } : Settings).Valid ∧ Endpoint.IsPlain "RAG Host" ∧
      ∃ link, (build .usual ({ host := "RAG Host" } : Settings).values 0).value = .ok link ∧
        link.endpoint = ⟨.http, "RAG Host", 8001⟩ ∧
        link.client.binding.LeadsTo link.endpoint) ∧
    ({ host := "https://x:8443" } : Settings).Valid ∧ Endpoint.IsPlain "https://x:8443" ∧
      ¬ ({ host := "https://x:8443" } : Settings).Unlinkable .usual ∧
      (∀ e, Endpoint.ofHost "https://x:8443" 8001 = .ok e → Address.RunsOn e.host.toList) ∧
      ∃ fault, (build .usual ({ host := "https://x:8443" } : Settings).values 0).value =
        .error (.host fault) := by
  have hspaced : ({ host := "RAG Host" } : Settings).Valid := Settings.valid_default _ _
  have hplain : Endpoint.IsPlain "RAG Host" := by decide +kernel
  have hbuild : (build .usual ({ host := "RAG Host" } : Settings).values 0).value.map
      Link.endpoint = .ok ⟨.http, "RAG Host", 8001⟩ := by
    decide +kernel
  have hported : ({ host := "https://x:8443" } : Settings).Valid := Settings.valid_default _ _
  have hportedPlain : Endpoint.IsPlain "https://x:8443" := by decide +kernel
  have hlinkable : ¬ ({ host := "https://x:8443" } : Settings).Unlinkable .usual :=
    Settings.not_unlinkable_default false hportedPlain (by decide +kernel)
  have hruns : ∀ e, Endpoint.ofHost "https://x:8443" 8001 = .ok e →
      Address.RunsOn e.host.toList := by
    have hresolve : Endpoint.ofHost "https://x:8443" 8001 = .ok ⟨.https, "x:8443", 443⟩ := by
      decide +kernel
    intro e he
    obtain rfl := Except.ok.inj (hresolve.symm.trans he)
    decide +kernel
  obtain ⟨link, hlink, hendpoint⟩ := Except.exists_of_map_eq_ok hbuild
  refine ⟨⟨hspaced, hplain, link, hlink, hendpoint, ?_⟩, hported, hportedPlain, hlinkable, hruns, ?_⟩
  · exact ((leadsTo_endpoint .usual hspaced hplain 0).1 link hlink).2
  · exact (leadsTo_endpoint .usual hported hportedPlain 0).2 hlinkable hruns

/-- More than spaces is escaped, and text behind a bracket that does not end an address is a part of the
name. -/
theorem escapes_closing_bracket :
    ({ host := "a]b" } : Settings).Valid ∧ Endpoint.IsPlain "a]b" ∧
      ∃ link a, (build .usual ({ host := "a]b" } : Settings).values 0).value = .ok link ∧
        link.client.binding = .address a ∧
        link.endpoint.host = "a]b" ∧ a.hostText = "a%5Db" ∧
        a.hostText ≠ String.ofList (link.endpoint.host.toList.flatMap fun c =>
          if c = ' ' then "%20".toList else [c.toLower]) := by
  have hbuild : (build .usual ({ host := "a]b" } : Settings).values 0).value.map
      (fun link => (link.endpoint.host, link.client.binding)) =
        .ok ("a]b", .address ⟨.http, "a%5Db", some 8001, ""⟩) := by
    decide +kernel
  obtain ⟨link, hlink, hshown⟩ := Except.exists_of_map_eq_ok hbuild
  obtain ⟨hhost, hbinding⟩ := Prod.mk.inj hshown
  refine ⟨Settings.valid_default _ _, by decide +kernel, link, _, hlink, hbinding, hhost,
    by decide +kernel, ?_⟩
  rw [hhost]
  decide +kernel

end Link

end Grounding
