import Grounding.Proofs.Gateway.Change

/-!
# Changes that fail

A gateway takes every fault of the host setting upon itself and goes on without a link.  Settings that
no link can be built from for another reason make opening and replacing fail.  Replacing then keeps the
old link under the new settings, and asking for the same settings again finds nothing to do.
-/

namespace Grounding

namespace Gateway

variable {platform : Platform} {g : Gateway} {old new s : Settings}

/-! ## When a change fails -/

/-- Faults other than those of the host setting come from unlinkable settings and from nothing else,
and reach the caller whenever a link has to be built from them. -/
theorem fault_escapes_iff (platform : Platform) (hs : s.Valid) :
    (∀ number, Link.Settled (Link.build platform s.values number).value ↔
      ¬ s.Unlinkable platform) ∧
    ((create platform s.values).1 = .ok () ↔ ¬ (s.enabled = true ∧ s.Unlinkable platform)) ∧
    ∀ g, Reachable platform g → ∃ current : Settings, g.settings = current.values ∧
      ((g.update s.values).1 = .ok () ↔
        ¬ (current.CallsForRebuild s ∧ s.Unlinkable platform)) := by
  refine ⟨fun number => Link.settled_build_iff hs platform number, create_ok_iff hs, ?_⟩
  intro g hg
  obtain ⟨current, -, hcurrent⟩ := hg.exists_settings
  rw [← hg.platform_eq]
  exact ⟨current, hcurrent, update_ok_iff hcurrent hs⟩

/-- Enabled settings with a timeout of more seconds than any double can say. -/
def overlong : Settings := { timeoutMs := Nat.pow 10 400, enabled := true }

theorem fault_escapes_overlong :
    overlong.Valid ∧ ¬ Link.Settled (Link.build .usual overlong.values 0).value ∧
      (create .usual overlong.values).1 ≠ .ok () := by
  have hvalid : overlong.Valid := by
    constructor <;> decide +kernel
  have hoverlong : overlong.HasOverlongTimeout := by
    unfold Settings.HasOverlongTimeout
    decide +kernel
  have hsite : ∃ site, Site.ofHost overlong.host = .ok site :=
    ⟨⟨.http, "localhost", none⟩, by decide +kernel⟩
  have hunlinkable : overlong.Unlinkable .usual := .inr (.inl ⟨hsite, hoverlong⟩)
  obtain ⟨hbuild, hcreate, -⟩ := fault_escapes_iff .usual hvalid
  exact ⟨hvalid, fun h => (hbuild 0).1 h hunlinkable, fun h => hcreate.1 h ⟨rfl, hunlinkable⟩⟩

/-- Enabled settings with a host that ends in an ornamental digit. -/
def ornamental : Settings := { host := "x:²", enabled := true }

theorem valid_ornamental : ornamental.Valid := Settings.valid_default "x:²" true

theorem unlinkable_ornamental : ornamental.Unlinkable platform := by
  have hport : Endpoint.ownPort? ornamental.host = some (['x'], ['²']) := by
    decide +kernel
  exact .inl ⟨_, _, hport, .inl ⟨'²', by simp, by decide +kernel⟩⟩

theorem fault_escapes_ornamental :
    ornamental.Valid ∧ ¬ Link.Settled (Link.build .usual ornamental.values 0).value ∧
      (create .usual ornamental.values).1 ≠ .ok () := by
  refine ⟨valid_ornamental, ?_, ?_⟩
  · rw [Link.settled_build_iff valid_ornamental]
    exact not_not_intro unlinkable_ornamental
  · rw [ne_eq, create_ok_iff valid_ornamental]
    exact not_not_intro ⟨rfl, unlinkable_ornamental⟩

/-! ## What a failed change leaves behind -/

/-- The new settings are in force, or the change failed and neither settings nor link are other than
before. -/
def UpdatesAtomically (g : Gateway) (new : Settings.Values) : Prop :=
  ((g.update new).1 = .ok () ∧ (g.update new).2.1.settings = new) ∨
    ((∃ fault, (g.update new).1 = .error fault) ∧
      (g.update new).2.1.settings = g.settings ∧ (g.update new).2.1.link = g.link)

/-- A failed replacement leaves the new settings with the old link. -/
theorem update_of_error {fault : LinkFault} {new : Settings.Values}
    (h : (g.update new).1 = .error fault) :
    (g.update new).2.1 = { g with settings := new } := by
  rcases update_cases g new with ⟨_, hupdate⟩ | ⟨_, hupdate⟩
  · rw [hupdate] at h ⊢
    rcases rebuild_cases { g with settings := new } with ⟨_, _, _, hcase⟩ | ⟨_, _, _, hcase⟩ |
      ⟨_, _, _, _, hcase⟩
    · rw [hcase] at h
      contradiction
    · rw [hcase] at h
      contradiction
    · rw [hcase]
  · rw [hupdate]

/-- Settings that are already in force call for nothing. -/
theorem update_of_settings_eq (hg : g.settings = s.values) :
    g.update s.values = (.ok (), g, 0) := by
  rcases update_cases g s.values with ⟨hmust, _⟩ | ⟨_, h⟩
  · rw [mustRebuild_values_iff hg] at hmust
    exact absurd hmust s.not_callsForRebuild_self
  · rw [h, ← hg]

theorem updatesAtomically_values_iff (hg : g.settings = old.values) (hs : new.Valid) :
    g.UpdatesAtomically new.values ↔ ¬ (old.CallsForRebuild new ∧ new.Unlinkable g.platform) := by
  have hok := update_ok_iff hg hs
  constructor
  · rintro (⟨hdone, -⟩ | ⟨-, hsettings, -⟩) hbad
    · exact hok.1 hdone hbad
    · rw [update_settings, hg] at hsettings
      obtain rfl := Settings.values_injective hsettings
      exact new.not_callsForRebuild_self hbad.1
  · intro hgood
    exact .inl ⟨hok.2 hgood, update_settings g new.values⟩

/-- Replacing is atomic unless a link has to be built from unlinkable settings.  Then the new settings
are in force over the old link, and replacing them by themselves does not try again. -/
theorem updatesAtomically_iff (hg : Reachable platform g) (hs : new.Valid) :
    ∃ old : Settings, g.settings = old.values ∧
      (g.UpdatesAtomically new.values ↔
        ¬ (old.CallsForRebuild new ∧ new.Unlinkable platform)) ∧
      (old.CallsForRebuild new ∧ new.Unlinkable platform →
        (∃ fault, (g.update new.values).1 = .error fault) ∧
        (g.update new.values).2.1 = { g with settings := new.values } ∧
        (g.update new.values).2.1.update new.values =
          (.ok (), (g.update new.values).2.1, 0)) := by
  obtain ⟨old, -, hold⟩ := hg.exists_settings
  rw [← hg.platform_eq]
  refine ⟨old, hold, updatesAtomically_values_iff hold hs, ?_⟩
  intro hbad
  have hagain := update_of_settings_eq (update_settings g new.values)
  cases hresult : (g.update new.values).1 with
  | ok done => exact absurd hbad ((update_ok_iff hold hs).1 hresult)
  | error fault => exact ⟨⟨fault, rfl⟩, update_of_error hresult, hagain⟩

/-- The default settings, enabled. -/
def nearby : Settings := { enabled := true }

/-- A gateway with a link to the local host. -/
def linked : Gateway := (create .usual nearby.values).2.1

theorem reachable_linked : Reachable .usual linked :=
  .created (Settings.valid_default _ _) (by decide +kernel)

theorem settings_linked : linked.settings = nearby.values := by
  unfold linked
  exact create_settings .usual nearby.values

theorem callsForRebuild_ornamental : nearby.CallsForRebuild ornamental :=
  ⟨rfl, .inl (by decide)⟩

theorem updatesAtomically_linked :
    Reachable .usual linked ∧ ornamental.Valid ∧
      (∃ fault, (linked.update ornamental.values).1 = .error fault) ∧
      (linked.update ornamental.values).2.1 = { linked with settings := ornamental.values } := by
  obtain ⟨old, hold, -, hfails⟩ := updatesAtomically_iff reachable_linked valid_ornamental
  obtain rfl := Settings.values_injective (hold.symm.trans settings_linked)
  obtain ⟨hfault, hleft, -⟩ := hfails ⟨callsForRebuild_ornamental, unlinkable_ornamental⟩
  exact ⟨reachable_linked, valid_ornamental, hfault, hleft⟩

theorem not_updatesAtomically_linked :
    Reachable .usual linked ∧ ornamental.Valid ∧ linked.link ≠ none ∧
      ¬ linked.UpdatesAtomically ornamental.values := by
  refine ⟨reachable_linked, valid_ornamental, by decide +kernel, ?_⟩
  rw [updatesAtomically_values_iff settings_linked valid_ornamental]
  exact not_not_intro ⟨callsForRebuild_ornamental, unlinkable_ornamental⟩

end Gateway

end Grounding
