import Grounding.Proofs.Network.Building
import Grounding.Proofs.Number.ReadBack

/-!
# What a host text comes to

A host text is trimmed, freed of a URL prefix and of one slash, and split at a port of its own.  Each of
these steps is undone by putting its parts together again, so that the parts of a site can be found in
the text that it comes from.
-/

namespace Grounding

/-- A character from before the small letters is the lower case of itself alone. -/
theorem Text.eq_of_toLower_eq {c d : Char} (hd : d.toNat < 97) (h : c.toLower = d) : c = d := by
  unfold Char.toLower at h
  split_ifs at h with hc
  · subst h
    have hupper : 65 ≤ c.toNat ∧ c.toNat ≤ 90 := by
      simpa [UInt32.le_iff_toNat_le] using hc
    have hcode : (c.toNat + 32) % 4294967296 < 97 := by
      simpa using hd
    omega
  · exact h

namespace Endpoint

variable {s rest name : List Char}

/-! ## Prefixes and slashes -/

theorem takeScheme_https : takeScheme (Scheme.https.lead ++ rest) = (some .https, rest) := by
  have hprefix : Scheme.https.lead.isPrefixOf (Scheme.https.lead ++ rest) = true := by
    rw [List.isPrefixOf_iff_prefix]
    exact List.prefix_append _ _
  rw [takeScheme, if_pos hprefix, List.drop_left]

theorem takeScheme_eq_https_iff : (takeScheme s).1 = some .https ↔ Scheme.https.lead <+: s := by
  unfold takeScheme
  split_ifs with hhttps hhttp
  · exact iff_of_true rfl (List.isPrefixOf_iff_prefix.1 hhttps)
  · exact iff_of_false (by simp) fun h => hhttps (List.isPrefixOf_iff_prefix.2 h)
  · exact iff_of_false (by simp) fun h => hhttps (List.isPrefixOf_iff_prefix.2 h)

theorem takeScheme_of_none (h : (takeScheme s).1 = none) : takeScheme s = (none, s) := by
  unfold takeScheme at h ⊢
  split_ifs at h ⊢
  rfl

/-- What one slash at the end may have been taken from. -/
theorem dropSlash_eq_iff (hname : '/' ∉ name) :
    dropSlash s = name ↔ s = name ∨ s = name ++ ['/'] := by
  unfold dropSlash
  split_ifs with hlast
  · obtain ⟨front, rfl⟩ := List.getLast?_eq_some_iff.1 hlast
    rw [List.dropLast_concat, List.append_left_inj]
    refine ⟨.inr, fun h => h.resolve_left ?_⟩
    rintro rfl
    simp at hname
  · refine ⟨.inl, fun h => h.resolve_right ?_⟩
    rintro rfl
    simp at hlast

/-- Of two slashes in a row one is left. -/
theorem mem_dropSlash (front more : List Char) : '/' ∈ dropSlash (front ++ '/' :: '/' :: more) := by
  unfold dropSlash
  split_ifs
  · rw [List.dropLast_append_cons]
    simp
  · simp

/-! ## Ports of their own -/

theorem eq_of_splitLastColon? {port : List Char} (h : splitLastColon? s = some (name, port)) :
    s = name ++ ':' :: port := by
  unfold splitLastColon? at h
  split_ifs at h with hcolon
  obtain ⟨rfl, rfl⟩ := Prod.mk.inj (Option.some.inj h)
  have hmem : ':' ∈ s.reverse := by simpa using hcolon
  -- the reversed text is what is behind the colon, the colon, and what is before it
  have hne : s.reverse.dropWhile (· != ':') ≠ [] := by
    intro hnil
    have hall := List.dropWhile_eq_nil_iff.1 hnil ':' hmem
    simp at hall
  obtain ⟨c, before, hsplit⟩ := List.exists_cons_of_ne_nil hne
  have hc : c = ':' := by
    have hhead := List.head?_dropWhile_not (· != ':') s.reverse
    rw [hsplit] at hhead
    simpa using hhead
  subst hc
  have hwhole := List.takeWhile_append_dropWhile (p := (· != ':')) (l := s.reverse)
  rw [hsplit] at hwhole ⊢
  calc s = s.reverse.reverse := (List.reverse_reverse s).symm
    _ = (s.reverse.takeWhile (· != ':') ++ ':' :: before).reverse := by rw [hwhole]
    _ = before.reverse ++ ':' :: (s.reverse.takeWhile (· != ':')).reverse := by simp

theorem isDigitRun_of_splitPort? {digits : List Char} (h : splitPort? s = some (name, digits)) :
    Text.isDigitRun digits = true := by
  unfold splitPort? at h
  split at h
  · split_ifs at h with hcond
    obtain ⟨-, rfl⟩ := Prod.mk.inj (Option.some.inj h)
    simp only [Bool.and_eq_true] at hcond
    exact hcond.1.1
  · contradiction

theorem eq_of_splitPort? {own : List Char} (h : splitPort? s = some (name, own)) :
    s = name ++ ':' :: own := by
  unfold splitPort? at h
  split at h
  · next host port hsplit =>
    split_ifs at h
    obtain ⟨rfl, rfl⟩ := Prod.mk.inj (Option.some.inj h)
    exact eq_of_splitLastColon? hsplit
  · contradiction

/-- Digits are no slash, so a slash in a text is in its name. -/
theorem mem_name_of_hostAndPort {port : Option Int} (hs : '/' ∈ s)
    (h : hostAndPort none s = .ok (name, port)) : '/' ∈ name := by
  unfold hostAndPort at h
  dsimp only at h
  split at h
  · obtain ⟨rfl, -⟩ := Prod.mk.inj (Except.ok.inj h)
    exact hs
  · next host own hsplit =>
    split at h
    · contradiction
    · obtain ⟨rfl, -⟩ := Prod.mk.inj (Except.ok.inj h)
      rw [eq_of_splitPort? hsplit] at hs
      rcases List.mem_append.1 hs with hname | hown
      · exact hname
      · rcases List.mem_cons.1 hown with hcolon | hdigit
        · simp at hcolon
        · have hrun := isDigitRun_of_splitPort? hsplit
          exact absurd hdigit (Text.not_mem_of_isDigitRun hrun (by decide))

theorem mem_of_mem_takeScheme {c : Char} (hc : c ∈ (takeScheme s).2) : c ∈ s := by
  unfold takeScheme at hc
  split_ifs at hc
  · exact List.mem_of_mem_drop hc
  · exact List.mem_of_mem_drop hc
  · exact hc

theorem mem_of_mem_dropSlash {c : Char} (hc : c ∈ dropSlash s) : c ∈ s := by
  unfold dropSlash at hc
  split_ifs at hc
  · exact (List.dropLast_sublist s).mem hc
  · exact hc

theorem mem_of_hostAndPort {scheme : Option Scheme} {port : Option Int} {c : Char}
    (h : hostAndPort scheme s = .ok (name, port)) (hc : c ∈ name) : c ∈ s := by
  unfold hostAndPort at h
  split at h
  · obtain ⟨rfl, -⟩ := Prod.mk.inj (Except.ok.inj h)
    exact hc
  · split at h
    · obtain ⟨rfl, -⟩ := Prod.mk.inj (Except.ok.inj h)
      exact hc
    · next host own hsplit =>
      split at h
      · contradiction
      · obtain ⟨rfl, -⟩ := Prod.mk.inj (Except.ok.inj h)
        rw [eq_of_splitPort? hsplit]
        exact List.mem_append_left _ hc

end Endpoint

theorem Text.mem_of_mem_trim {p : Char → Bool} {s : List Char} {c : Char} (hc : c ∈ trim p s) :
    c ∈ s := by
  unfold trim at hc
  have hfront := (List.dropWhile_sublist p).mem (List.mem_reverse.1 hc)
  exact (List.dropWhile_sublist p).mem (List.mem_reverse.1 hfront)

/-! ## Sites -/

theorem Site.ofHost_eq_ok_iff {host : String} {site : Site} :
    ofHost host = .ok site ↔ ∃ scheme rest name port,
      Endpoint.takeScheme (Text.trim Text.isBlank host.toList) = (scheme, rest) ∧
      Endpoint.hostAndPort scheme (Endpoint.dropSlash rest) = .ok (name, port) ∧
      name ≠ [] ∧ '/' ∉ name ∧ site = ⟨scheme.getD .http, String.ofList name, port⟩ := by
  unfold ofHost
  dsimp only
  rcases Endpoint.takeScheme (Text.trim Text.isBlank host.toList) with ⟨scheme, rest⟩
  constructor
  · intro h
    split at h
    · contradiction
    · next name port hname =>
      split_ifs at h with hempty hslash
      refine ⟨scheme, rest, name, port, rfl, hname, ?_, ?_, (Except.ok.inj h).symm⟩
      · simpa using hempty
      · simpa using hslash
  · rintro ⟨_, _, name, port, ⟨rfl, rfl⟩, hname, hempty, hslash, rfl⟩
    rw [hname]
    dsimp only
    rw [if_neg (by simpa using hempty), if_neg (by simpa using hslash)]

/-- The host of a site is a name without a slash. -/
theorem Site.name_of_ofHost {host : String} {site : Site} (h : ofHost host = .ok site) :
    site.host.toList ≠ [] ∧ '/' ∉ site.host.toList := by
  obtain ⟨-, -, name, -, -, -, hempty, hslash, rfl⟩ := ofHost_eq_ok_iff.1 h
  rw [String.toList_ofList]
  exact ⟨hempty, hslash⟩

/-- A site adds nothing to the text that names it. -/
theorem Site.mem_of_mem_host {host : String} {site : Site} (h : ofHost host = .ok site) {c : Char}
    (hc : c ∈ site.host.toList) : c ∈ host.toList := by
  obtain ⟨scheme, rest, name, port, htake, hname, -, -, rfl⟩ := ofHost_eq_ok_iff.1 h
  rw [String.toList_ofList] at hc
  apply Text.mem_of_mem_trim
  apply Endpoint.mem_of_mem_takeScheme
  rw [htake]
  exact Endpoint.mem_of_mem_dropSlash (Endpoint.mem_of_hostAndPort hname hc)

theorem Endpoint.ofHost_eq_ok_iff {host : String} {port : Int} {e : Endpoint} :
    ofHost host port = .ok e ↔
      ∃ site, Site.ofHost host = .ok site ∧ e = ⟨site.scheme, site.host, site.port.getD port⟩ := by
  unfold ofHost
  cases Site.ofHost host with
  | error fault => simp
  | ok site => simp [eq_comm]

end Grounding
