import Grounding.Proofs.Network.Authority
import Grounding.Proofs.Network.Ports

/-!
# No way from HTTPS to plain HTTP

Only the prefix in lower case asks for TLS.  Written in any other way it is no prefix at all, and then its
two slashes are in the way: a name must not hold a slash, and only one of them can be dropped.
-/

namespace Grounding

namespace Endpoint

/-- The host text begins with the prefix of HTTPS, in letters of either case. -/
def AsksForTls (host : String) : Prop :=
  ∃ lead rest, Text.trim Text.isBlank host.toList = lead ++ rest ∧
    lead.map Char.toLower = Scheme.https.lead

/-- The endpoint has TLS on its own port, and the host text is nothing but the prefix in lower case and
the name of the endpoint, perhaps with a slash behind it. -/
structure HasTlsFrom (host : String) (e : Endpoint) : Prop where
  scheme : e.scheme = .https
  port : e.port = 443
  name_ne : e.host.toList ≠ []
  slash_not_mem : '/' ∉ e.host.toList
  text : Text.trim Text.isBlank host.toList = Scheme.https.lead ++ e.host.toList ∨
    Text.trim Text.isBlank host.toList = Scheme.https.lead ++ (e.host.toList ++ ['/'])

variable {host : String} {port : Int} {e : Endpoint} {lead rest : List Char}

/-! ## The prefix in lower case -/

theorem ofHost_https_iff
    (htext : Text.trim Text.isBlank host.toList = Scheme.https.lead ++ rest) :
    ofHost host port = .ok e ↔ e.scheme = .https ∧ e.port = 443 ∧ e.host.toList ≠ [] ∧
      '/' ∉ e.host.toList ∧ dropSlash rest = e.host.toList := by
  rw [ofHost_eq_ok_iff]
  constructor
  · rintro ⟨site, hsite, rfl⟩
    obtain ⟨scheme, after, name, own, htake, hname, hempty, hslash, rfl⟩ :=
      Site.ofHost_eq_ok_iff.1 hsite
    rw [htext, takeScheme_https] at htake
    obtain ⟨rfl, rfl⟩ := Prod.mk.inj htake
    obtain ⟨hdrop, rfl⟩ := Prod.mk.inj (Except.ok.inj hname)
    simp only [String.toList_ofList]
    exact ⟨rfl, rfl, hempty, hslash, hdrop⟩
  · rintro ⟨hscheme, hport, hempty, hslash, hdrop⟩
    refine ⟨⟨.https, e.host, some 443⟩, ?_, ?_⟩
    · rw [Site.ofHost_eq_ok_iff, htext, takeScheme_https]
      refine ⟨some .https, rest, e.host.toList, some 443, rfl, ?_, hempty, hslash, ?_⟩
      · rw [hdrop]
        rfl
      · rw [String.ofList_toList]
        rfl
    · obtain ⟨scheme, name, number⟩ := e
      obtain rfl : scheme = .https := hscheme
      obtain rfl : number = 443 := hport
      rfl

/-! ## The prefix written otherwise -/

theorem length_eq_of_toLower (hlead : lead.map Char.toLower = Scheme.https.lead) :
    lead.length = Scheme.https.lead.length := by
  rw [← hlead, List.length_map]

/-- However its letters are written, the prefix ends in two slashes. -/
theorem exists_slashes (hlead : lead.map Char.toLower = Scheme.https.lead) :
    ∃ front, lead = front ++ ['/', '/'] := by
  have hsplit : lead.map Char.toLower = "https:".toList ++ ['/', '/'] := by
    rw [hlead]
    decide
  obtain ⟨front, slashes, rfl, -, hslashes⟩ := List.map_eq_append_iff.1 hsplit
  obtain ⟨first, tail, rfl, hfirst, htail⟩ := List.map_eq_cons_iff.1 hslashes
  obtain ⟨second, rfl, hsecond⟩ := List.map_eq_singleton_iff.1 htail
  obtain rfl := Text.eq_of_toLower_eq (by decide) hfirst
  obtain rfl := Text.eq_of_toLower_eq (by decide) hsecond
  exact ⟨front, rfl⟩

theorem takeScheme_of_otherCase (hlead : lead.map Char.toLower = Scheme.https.lead)
    (hother : lead ≠ Scheme.https.lead) : takeScheme (lead ++ rest) = (none, lead ++ rest) := by
  have hlength := length_eq_of_toLower hlead
  have htake : ∀ scheme : Scheme, scheme.lead.isPrefixOf (lead ++ rest) = true →
      scheme.lead = lead.take scheme.lead.length := by
    intro scheme hprefix
    have hshort : scheme.lead.length ≤ lead.length := by
      rw [hlength]
      cases scheme <;> decide
    have heq := List.prefix_iff_eq_take.1 (List.isPrefixOf_iff_prefix.1 hprefix)
    rwa [List.take_append_of_le_length hshort] at heq
  unfold takeScheme
  split_ifs with hhttps hhttp
  · have heq := htake .https hhttps
    rw [← hlength, List.take_length] at heq
    exact absurd heq.symm hother
  · -- the colon of the one prefix stands where the other has a letter
    have heq := congrArg (List.map Char.toLower) (htake .http hhttp)
    rw [List.map_take, hlead] at heq
    exact absurd heq (by decide)
  · rfl

/-- Without a prefix, a text with two slashes in a row names nothing. -/
theorem ofHost_ne_ok_of_slashes {front more : List Char}
    (htext : Text.trim Text.isBlank host.toList = front ++ '/' :: '/' :: more)
    (hscheme : (takeScheme (Text.trim Text.isBlank host.toList)).1 = none) :
    ofHost host port ≠ .ok e := by
  intro h
  obtain ⟨site, hsite, -⟩ := ofHost_eq_ok_iff.1 h
  obtain ⟨scheme, after, name, own, htake, hname, -, hslash, -⟩ := Site.ofHost_eq_ok_iff.1 hsite
  rw [takeScheme_of_none hscheme] at htake
  obtain ⟨rfl, rfl⟩ := Prod.mk.inj htake
  rw [htext] at hname
  exact hslash (mem_name_of_hostAndPort (mem_dropSlash front more) hname)

/-- What becomes of a text that asks for TLS: an endpoint with TLS on its own port, or nothing. -/
theorem ofHost_iff_of_asksForTls (h : AsksForTls host) :
    ofHost host port = .ok e ↔ HasTlsFrom host e := by
  obtain ⟨lead, rest, htext, hlead⟩ := h
  by_cases hcase : lead = Scheme.https.lead
  · rw [hcase] at htext
    have hrest : ∀ name, rest = name ↔
        Text.trim Text.isBlank host.toList = Scheme.https.lead ++ name := by
      intro name
      rw [htext, List.append_cancel_left_eq]
    rw [ofHost_https_iff htext]
    constructor
    · rintro ⟨hscheme, hport, hempty, hslash, hdrop⟩
      rw [dropSlash_eq_iff hslash, hrest, hrest] at hdrop
      exact ⟨hscheme, hport, hempty, hslash, hdrop⟩
    · rintro ⟨hscheme, hport, hempty, hslash, hname⟩
      rw [← hrest, ← hrest, ← dropSlash_eq_iff hslash] at hname
      exact ⟨hscheme, hport, hempty, hslash, hname⟩
  · have hlength := length_eq_of_toLower hlead
    refine iff_of_false ?_ ?_
    · obtain ⟨front, hfront⟩ := exists_slashes hlead
      have hslashes : Text.trim Text.isBlank host.toList = front ++ '/' :: '/' :: rest := by
        rw [htext, hfront, List.append_assoc]
        rfl
      apply ofHost_ne_ok_of_slashes hslashes
      rw [htext, takeScheme_of_otherCase hlead hcase]
    · rintro ⟨-, -, -, -, hname | hname⟩
      · exact hcase (List.append_inj_left (htext.symm.trans hname) hlength)
      · exact hcase (List.append_inj_left (htext.symm.trans hname) hlength)

/-- TLS is only used where the prefix asks for it in lower case. -/
theorem prefix_of_https (h : ofHost host port = .ok e) (hscheme : e.scheme = .https) :
    Scheme.https.lead <+: Text.trim Text.isBlank host.toList := by
  obtain ⟨site, hsite, rfl⟩ := ofHost_eq_ok_iff.1 h
  obtain ⟨scheme, after, name, own, htake, -, -, -, rfl⟩ := Site.ofHost_eq_ok_iff.1 hsite
  rw [← takeScheme_eq_https_iff, htake]
  cases scheme with
  | none => contradiction
  | some fixed => exact congrArg some hscheme

end Endpoint

/-! ## Links -/

theorem Address.scheme_of_ofUrl {scheme : Scheme} {rest : String} {a : Address}
    (h : ofUrl scheme rest = .ok a) : a.scheme = scheme := by
  unfold ofUrl at h
  split at h
  · contradiction
  · split at h
    · contradiction
    · next address haddress =>
      obtain rfl := Except.ok.inj h
      exact (scheme_and_path_of_ofAuthority haddress).1

theorem Binding.scheme_of_ofUrl {platform : Platform} {scheme : Scheme} {rest : String}
    {binding : Binding} (h : ofUrl platform scheme rest = .ok binding) :
    binding.scheme = scheme := by
  unfold ofUrl at h
  split at h
  · split at h
    · contradiction
    · next a ha =>
      obtain rfl := Except.ok.inj h
      exact Address.scheme_of_ofUrl ha
  · split at h
    · contradiction
    · obtain rfl := Except.ok.inj h
      rfl

namespace Link

variable {platform : Platform} {values : Settings.Values} {number : Nat} {link : Link}

theorem scheme_of_connect {host : String} {site : Site}
    (h : connect platform values host number site = .ok link) :
    link.endpoint.scheme = site.scheme ∧ link.client.binding.scheme = site.scheme := by
  unfold connect at h
  split at h
  · contradiction
  · split at h
    · contradiction
    · split at h
      · contradiction
      · dsimp only at h
        split at h
        · contradiction
        · next binding hbinding =>
          obtain rfl := Except.ok.inj h
          exact ⟨rfl, Binding.scheme_of_ofUrl hbinding⟩

/-- Where TLS is supported, a link uses the scheme that its host resolves to, whatever the other values
are. -/
theorem scheme_of_build {host : Option String} (htls : platform.tls = true)
    (hhost : hostText values.host = .ok host)
    (h : (build platform values number).value = .ok link) (port : Int) :
    ∃ e, (Endpoint.resolve host port).value = .ok e ∧ link.endpoint.scheme = e.scheme ∧
      link.client.binding.scheme = e.scheme := by
  unfold build at h
  rw [hhost, htls] at h
  dsimp only at h
  split at h
  · contradiction
  · next site hsite =>
    have hkept : usable true site = site := by
      unfold usable
      rw [Bool.not_true, Bool.and_false, if_neg Bool.false_ne_true]
    rw [hkept] at h
    exact ⟨_, Endpoint.ofHost_eq_ok_iff.2 ⟨site, hsite, rfl⟩, scheme_of_connect h⟩

end Link

/-- A host text that asks for TLS, in letters of either case, resolves to an endpoint with TLS on port 443
whose name is what stands between the prefix in lower case and an optional slash, and to nothing else.  No
other text resolves to an endpoint with TLS.  A link keeps the scheme where TLS is supported. -/
theorem Endpoint.no_downgrade :
    (∀ host port e, AsksForTls host →
      ((resolve (some host) port).value = .ok e ↔ HasTlsFrom host e)) ∧
    (∀ host port e, (resolve host port).value = .ok e → e.scheme = .https →
      Scheme.https.lead <+: Text.trim Text.isBlank (host.getD "").toList) ∧
    ∀ (platform : Platform) (values : Settings.Values) (number : Nat) (link : Link)
        (host : Option String) (port : Int),
      platform.tls = true → Link.hostText values.host = .ok host →
      (Link.build platform values number).value = .ok link →
      ∃ e, (resolve host port).value = .ok e ∧ link.endpoint.scheme = e.scheme ∧
        link.client.binding.scheme = e.scheme := by
  refine ⟨?_, ?_, ?_⟩
  · intro host port e hasks
    exact ofHost_iff_of_asksForTls hasks
  · intro host port e hresolve hscheme
    exact prefix_of_https hresolve hscheme
  · intro platform values number link host port htls hhost hbuild
    exact Link.scheme_of_build htls hhost hbuild port

/-- With the prefix in lower case, in capitals, and in settings. -/
theorem Endpoint.no_downgrade_rag :
    (AsksForTls " https://RAG/ " ∧
      (resolve (some " https://RAG/ ") 80).value = .ok ⟨.https, "RAG", 443⟩) ∧
    (AsksForTls "HTTPS://RAG" ∧ ∀ e, (resolve (some "HTTPS://RAG") 80).value ≠ .ok e) ∧
    Scheme.https.lead <+: Text.trim Text.isBlank " https://RAG/ ".toList ∧
    ∃ link,
      (Link.build .usual ({ host := " https://RAG/ " } : Settings).values 0).value = .ok link ∧
      link.endpoint.scheme = .https ∧ link.client.binding.scheme = .https := by
  obtain ⟨hexact, hconverse, hlink⟩ := no_downgrade
  have hlower : AsksForTls " https://RAG/ " :=
    ⟨"https://".toList, "RAG/".toList, by decide +kernel, by decide +kernel⟩
  have hcapital : AsksForTls "HTTPS://RAG" :=
    ⟨"HTTPS://".toList, "RAG".toList, by decide +kernel, by decide +kernel⟩
  have hresolve : (resolve (some " https://RAG/ ") 80).value = .ok ⟨.https, "RAG", 443⟩ := by
    apply (hexact _ _ _ hlower).2
    exact ⟨rfl, rfl, by decide +kernel, by decide +kernel, .inr (by decide +kernel)⟩
  have hprefix : Scheme.https.lead <+: Text.trim Text.isBlank " https://RAG/ ".toList :=
    hconverse (some " https://RAG/ ") 80 _ hresolve rfl
  have hbuild : (Link.build .usual ({ host := " https://RAG/ " } : Settings).values 0).value.map
      Link.endpoint = .ok ⟨.https, "RAG", 443⟩ := by
    decide +kernel
  refine ⟨⟨hlower, hresolve⟩, ⟨hcapital, ?_⟩, hprefix, ?_⟩
  · intro e he
    have hname := ((hexact _ _ _ hcapital).1 he).text
    have htext : Text.trim Text.isBlank "HTTPS://RAG".toList = 'H' :: "TTPS://RAG".toList := by
      decide +kernel
    have hhead : Scheme.https.lead = 'h' :: "ttps://".toList := by decide +kernel
    rw [htext, hhead] at hname
    rcases hname with hname | hname
    · exact absurd (List.cons.inj hname).1 (by decide)
    · exact absurd (List.cons.inj hname).1 (by decide)
  · obtain ⟨link, hok, -⟩ := Except.exists_of_map_eq_ok hbuild
    obtain ⟨e, he, hendpoint, hclient⟩ := hlink _ _ _ _ (some " https://RAG/ ") 80 rfl rfl hok
    obtain rfl := Except.ok.inj (hresolve.symm.trans he)
    exact ⟨link, hok, hendpoint, hclient⟩

end Grounding
