import Grounding.Proofs.Network.HostText

/-!
# Hosts that make plain URLs

A URL that is not plain is read by rules of the client library.  The host setting of nearly every
service is plain ASCII, though, and the URL that such a host makes is checked as an address.
-/

namespace Grounding

/-- ASCII without the characters by which a URL tells a user, a query and a fragment from the host. -/
def Endpoint.IsPlain (host : String) : Prop :=
  ∀ c ∈ host.toList, c.toNat < 128 ∧ c ∉ ['@', '?', '#']

instance (host : String) : Decidable (Endpoint.IsPlain host) :=
  List.decidableBAll (fun c : Char => c.toNat < 128 ∧ c ∉ ['@', '?', '#']) host.toList

namespace Endpoint

theorem isPlain_toString (port : Int) : IsPlain (toString port) := by
  intro c hc
  rcases Text.minus_or_isDigit_of_mem_toString hc with rfl | hdigit
  · decide
  · have hlow : c.toNat ≤ 57 := by
      simpa [Char.isDigit, UInt32.le_iff_toNat_le] using (Bool.and_eq_true_iff.1 hdigit).2
    refine ⟨by omega, fun hmark => ?_⟩
    simp only [List.mem_cons, List.not_mem_nil, or_false] at hmark
    rcases hmark with rfl | rfl | rfl <;> revert hdigit <;> decide

theorem isPlain_authority {name port : String} (hname : IsPlain name) (hport : IsPlain port) :
    IsPlain (name ++ ":" ++ port) := by
  intro c hc
  rw [String.toList_append, String.toList_append, List.mem_append, List.mem_append] at hc
  rcases hc with (hhost | hcolon) | hnumber
  · exact hname c hhost
  · obtain rfl : c = ':' := by simpa using hcolon
    decide
  · exact hport c hnumber

end Endpoint

/-- A site of a plain host text is plain. -/
theorem Site.isPlain_host {host : String} {site : Site} (h : ofHost host = .ok site)
    (hplain : Endpoint.IsPlain host) : Endpoint.IsPlain site.host :=
  fun c hc => hplain c (mem_of_mem_host h hc)

namespace Address

/-- The host part is a part of the authority. -/
theorem mem_of_mem_splitHost {authority : List Char} {c : Char}
    (hc : c ∈ (splitHost authority).1) : c ∈ authority := by
  unfold splitHost at hc
  dsimp only at hc
  split_ifs at hc
  · exact List.mem_of_mem_take hc
  · exact (List.takeWhile_sublist _).mem hc

theorem isPlainChar_of_ascii {c : Char} (h : c.toNat < 128 ∧ c ∉ ['@', '?', '#']) :
    isPlainChar c = true := by
  have hmark : 128 < Text.mark.toNat := by decide
  obtain ⟨hascii, hmarks⟩ := h
  have hlow : c.toNat < Text.mark.toNat := Nat.lt_trans hascii hmark
  simp only [List.mem_cons, List.not_mem_nil, or_false, not_or] at hmarks
  simp [isPlainChar, hlow, hmarks]

theorem isPlain_of_ascii {rest : String} (h : Endpoint.IsPlain rest) : isPlain rest = true := by
  unfold isPlain
  rw [Bool.and_eq_true, List.all_eq_true, List.all_eq_true]
  constructor
  · exact fun c hc => isPlainChar_of_ascii (h c hc)
  · intro c hc
    have hauthority := mem_of_mem_splitHost hc
    exact decide_eq_true (h c ((List.takeWhile_sublist _).mem hauthority)).1

end Address

namespace Binding

variable (platform : Platform) (scheme : Scheme)

/-- A plain URL is checked as an address. -/
theorem ofUrl_of_isPlain {rest : String} (h : Address.isPlain rest = true) :
    ofUrl platform scheme rest =
      match Address.ofUrl scheme rest with
      | .error fault => .error (.address fault)
      | .ok a => .ok (.address a) :=
  if_pos h

/-- Any other URL is what the client library makes of it. -/
theorem ofUrl_of_not_isPlain {rest : String} (h : Address.isPlain rest = false) :
    ofUrl platform scheme rest =
      match platform.foreignUrl (scheme.name ++ "://" ++ rest) with
      | .error fault => .error (.foreign fault)
      | .ok url => .ok (.foreign scheme url) :=
  if_neg (ne_true_of_eq_false h)

/-- A client for a plain URL is bound to the address that is read from it. -/
theorem exists_address {platform : Platform} {scheme : Scheme} {rest : String} {b : Binding}
    (hplain : Address.isPlain rest = true) (h : ofUrl platform scheme rest = .ok b) :
    ∃ a, b = .address a ∧ Address.ofUrl scheme rest = .ok a := by
  rw [ofUrl_of_isPlain platform scheme hplain] at h
  cases haddress : Address.ofUrl scheme rest with
  | error fault =>
      rw [haddress] at h
      cases h
  | ok a =>
      rw [haddress] at h
      exact ⟨a, (Except.ok.inj h).symm, rfl⟩

end Binding

end Grounding
