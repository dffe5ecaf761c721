import Grounding.Gateway.Session
import Grounding.Proofs.Network.Unlinkable

/-!
# How a gateway changes

Only replacing the settings and closing change a gateway, and only a rebuild changes its link for
another one.  The cases of a rebuild are told once here; what holds of every gateway that checked
settings lead to follows from them.
-/

namespace Grounding

/-- The changes of settings that call for a new link: the new ones are enabled, and host, port or the
switch differ. -/
def Settings.CallsForRebuild (old new : Settings) : Prop :=
  new.enabled = true ∧ (new.host ≠ old.host ∨ new.port ≠ old.port ∨ old.enabled = false)

theorem Settings.not_callsForRebuild_iff {old new : Settings} :
    ¬ old.CallsForRebuild new ↔
      (new.enabled = true → new.host = old.host ∧ new.port = old.port ∧ old.enabled = true) := by
  unfold CallsForRebuild
  simp only [not_and, not_or, not_not, Bool.not_eq_false, ne_eq]

theorem Settings.not_callsForRebuild_self (s : Settings) : ¬ s.CallsForRebuild s :=
  not_callsForRebuild_iff.2 fun henabled => ⟨rfl, rfl, henabled⟩

theorem Settings.values_injective {a b : Settings} (h : a.values = b.values) : a = b := by
  cases a
  cases b
  simpa [Settings.values] using h

/-- Settings that come with an operation are checked ones. -/
def Operation.IsChecked : Operation → Prop
  | .update settings => ∃ s : Settings, s.Valid ∧ settings = s.values
  | _ => True

/-- The operations that may change a gateway. -/
def Operation.IsChange : Operation → Prop
  | .update _ | .close => True
  | _ => False

theorem Session.ofChange_gateway (change : Except LinkFault Unit × Gateway × Nat) :
    (ofChange change).gateway = change.2.1 := by
  rcases change with ⟨fault | done, g, notices⟩ <;> rfl

theorem Session.ofChange_failed_iff (change : Except LinkFault Unit × Gateway × Nat)
    (fault : LinkFault) : (ofChange change).result = .failed fault ↔ change.1 = .error fault := by
  rcases change with ⟨other | done, g, notices⟩ <;> simp [ofChange]

/-- Only replacing the settings can fail. -/
theorem Session.step_failed_iff (g : Gateway) (op : Operation) (fault : LinkFault) :
    (step g op).result = .failed fault ↔
      ∃ new, op = .update new ∧ (g.update new).1 = .error fault := by
  cases op with
  | update new =>
      rw [step, ofChange_failed_iff]
      simp
  | close => simp [step]
  | readSettings => simp [step]
  | augment query session service => simp [step, ofOutcome]
  | checkHealth service => simp [step, ofOutcome]
  | prepare messages options session today service => simp [step, ofOutcome]

namespace Gateway

variable {g : Gateway} {s : Settings}

/-! ## Rebuilding -/

/-- A rebuild puts a new link in place, or gives the link up because of the host, or fails and changes
nothing. -/
theorem rebuild_cases (g : Gateway) :
    (∃ link notices, (Link.build g.platform g.settings g.opened).value = .ok link ∧
      g.rebuild = (.ok (),
        { g with link := some link, opened := g.opened + 1, closed := g.retire }, notices)) ∨
    (∃ fault notices,
      (Link.build g.platform g.settings g.opened).value = .error (.host fault) ∧
      g.rebuild = (.ok (), { g with link := none, closed := g.retire }, notices)) ∨
    (∃ fault notices,
      (Link.build g.platform g.settings g.opened).value = .error fault ∧
      (∀ blamed, fault ≠ .host blamed) ∧ g.rebuild = (.error fault, g, notices)) := by
  unfold rebuild
  dsimp only
  cases hbuilt : (Link.build g.platform g.settings g.opened).value with
  | ok link => exact .inl ⟨link, _, rfl, rfl⟩
  | error fault =>
      cases fault with
      | host fault => exact .inr (.inl ⟨fault, _, rfl, rfl⟩)
      | numeral fault => exact .inr (.inr ⟨_, _, rfl, by simp, rfl⟩)
      | timeout fault => exact .inr (.inr ⟨_, _, rfl, by simp, rfl⟩)
      | hostNotText kind => exact .inr (.inr ⟨_, _, rfl, by simp, rfl⟩)
      | library message => exact .inr (.inr ⟨_, _, rfl, by simp, rfl⟩)

@[simp] theorem rebuild_settings (g : Gateway) : g.rebuild.2.1.settings = g.settings := by
  rcases rebuild_cases g with ⟨_, _, _, h⟩ | ⟨_, _, _, h⟩ | ⟨_, _, _, _, h⟩ <;> rw [h]

@[simp] theorem rebuild_platform (g : Gateway) : g.rebuild.2.1.platform = g.platform := by
  rcases rebuild_cases g with ⟨_, _, _, h⟩ | ⟨_, _, _, h⟩ | ⟨_, _, _, _, h⟩ <;> rw [h]

/-- A rebuild goes through exactly when building is settled. -/
theorem rebuild_ok_iff (g : Gateway) :
    g.rebuild.1 = .ok () ↔
      Link.Settled (Link.build g.platform g.settings g.opened).value := by
  rcases rebuild_cases g with ⟨link, _, hbuilt, h⟩ | ⟨fault, _, hbuilt, h⟩ |
    ⟨fault, _, hbuilt, hother, h⟩
  · rw [h, hbuilt]
    exact iff_of_true rfl (.inl ⟨link, rfl⟩)
  · rw [h, hbuilt]
    exact iff_of_true rfl (.inr ⟨fault, rfl⟩)
  · rw [h, hbuilt]
    refine iff_of_false (by simp) ?_
    rintro (⟨link, hlink⟩ | ⟨blamed, hblamed⟩)
    · contradiction
    · exact hother blamed (Except.error.inj hblamed)

/-- For checked settings only those fail that no link can be built from. -/
theorem rebuild_ok_iff_of_valid (hs : s.Valid) (hg : g.settings = s.values) :
    g.rebuild.1 = .ok () ↔ ¬ s.Unlinkable g.platform := by
  rw [rebuild_ok_iff, hg, Link.settled_build_iff hs]

/-! ## Opening -/

theorem create_settings (platform : Platform) (values : Settings.Values) :
    (create platform values).2.1.settings = values := by
  unfold create
  dsimp only
  split_ifs
  · rw [rebuild_settings]
  · rfl

theorem create_platform (platform : Platform) (values : Settings.Values) :
    (create platform values).2.1.platform = platform := by
  unfold create
  dsimp only
  split_ifs
  · rw [rebuild_platform]
  · rfl

theorem create_ok_iff {platform : Platform} (hs : s.Valid) :
    (create platform s.values).1 = .ok () ↔ ¬ (s.enabled = true ∧ s.Unlinkable platform) := by
  unfold create
  dsimp only
  rw [Settings.isEnabled_values]
  split_ifs with henabled
  · rw [rebuild_ok_iff_of_valid hs rfl]
    simp [henabled]
  · simp [henabled]

/-! ## Replacing the settings -/

theorem mustRebuild_values_iff {old new : Settings} (hg : g.settings = old.values) :
    g.mustRebuild new.values = true ↔ old.CallsForRebuild new := by
  have hhost : new.values.host.same old.values.host = (new.host == old.host) := by
    simp [Settings.values, Json.same]
  have hport : new.values.port.same old.values.port = (new.port == old.port) := by
    simp [Settings.values, Json.same]
  have henabled : new.values.enabled.same old.values.enabled = (new.enabled == old.enabled) := by
    simp [Settings.values, Json.same]
  unfold mustRebuild Settings.CallsForRebuild
  rw [hg, hhost, hport, henabled, Settings.isEnabled_values]
  cases new.enabled <;> cases old.enabled <;> simp

/-- Replacing the settings rebuilds for the new ones, or leaves everything else alone. -/
theorem update_cases (g : Gateway) (new : Settings.Values) :
    (g.mustRebuild new = true ∧ g.update new = { g with settings := new }.rebuild) ∨
    (g.mustRebuild new = false ∧ g.update new = (.ok (), { g with settings := new }, 0)) := by
  unfold update
  cases g.mustRebuild new with
  | false => exact .inr ⟨rfl, rfl⟩
  | true => exact .inl ⟨rfl, rfl⟩

@[simp] theorem update_settings (g : Gateway) (new : Settings.Values) :
    (g.update new).2.1.settings = new := by
  rcases update_cases g new with ⟨_, h⟩ | ⟨_, h⟩
  · rw [h, rebuild_settings]
  · rw [h]

@[simp] theorem update_platform (g : Gateway) (new : Settings.Values) :
    (g.update new).2.1.platform = g.platform := by
  rcases update_cases g new with ⟨_, h⟩ | ⟨_, h⟩
  · rw [h, rebuild_platform]
  · rw [h]

/-- Replacing fails where a link has to be built from unlinkable settings. -/
theorem update_ok_iff {old new : Settings} (hg : g.settings = old.values) (hs : new.Valid) :
    (g.update new.values).1 = .ok () ↔ ¬ (old.CallsForRebuild new ∧ new.Unlinkable g.platform) := by
  rw [← mustRebuild_values_iff hg]
  rcases update_cases g new.values with ⟨hmust, h⟩ | ⟨hmust, h⟩
  · rw [h, rebuild_ok_iff_of_valid hs rfl]
    simp [hmust]
  · rw [h]
    simp [hmust]

/-! ## Everything that is not a change -/

@[simp] theorem still_gateway {α : Type} (g : Gateway) (service : Service) (result : α)
    (notices : Nat) : (g.still service result notices).gateway = g := rfl

@[simp] theorem ask_gateway (g : Gateway) (body : Json) (service : Service) :
    (g.ask body service).gateway = g := by
  unfold ask
  split
  · rfl
  · split <;> rfl

@[simp] theorem augmentFor_gateway (g : Gateway) (session : Json) (query : String)
    (service : Service) : (g.augmentFor session query service).gateway = g := by
  unfold augmentFor
  split_ifs <;> simp

@[simp] theorem isHealthy_gateway (g : Gateway) (service : Service) :
    (g.isHealthy service).gateway = g := by
  unfold isHealthy
  split_ifs
  · rfl
  · split
    · rfl
    · split <;> rfl

@[simp] theorem prepareFor_gateway (g : Gateway) (session messages : Json)
    (options : Conversation.Options) (today : Date) (service : Service) :
    (g.prepareFor session messages options today service).gateway = g := by
  unfold prepareFor
  dsimp only
  split_ifs <;> simp

/-- What a step leaves behind: replaced settings, no link, or the gateway as it was. -/
theorem step_gateway (g : Gateway) (op : Operation) :
    (∃ new, op = .update new ∧ (Session.step g op).gateway = (g.update new).2.1) ∨
    (op = .close ∧ (Session.step g op).gateway = g.close) ∨
    (¬ op.IsChange ∧ (Session.step g op).gateway = g) := by
  cases op with
  | update new => exact .inl ⟨new, rfl, Session.ofChange_gateway _⟩
  | close => exact .inr (.inl ⟨rfl, rfl⟩)
  | readSettings => exact .inr (.inr ⟨id, rfl⟩)
  | augment query session service =>
      exact .inr (.inr ⟨id, augmentFor_gateway g _ query service⟩)
  | checkHealth service => exact .inr (.inr ⟨id, isHealthy_gateway g service⟩)
  | prepare messages options session today service =>
      exact .inr (.inr ⟨id, prepareFor_gateway g _ messages options today service⟩)

/-! ## Reachable gateways -/

/-- The gateways that checked settings lead to.  A step that fails counts, and so does what it leaves
behind. -/
inductive Reachable (platform : Platform) : Gateway → Prop where
  | created {s : Settings} (hs : s.Valid) (h : (create platform s.values).1 = .ok ()) :
      Reachable platform (create platform s.values).2.1
  | stepped {g : Gateway} {op : Operation} (hg : Reachable platform g) (hop : op.IsChecked) :
      Reachable platform (Session.step g op).gateway

/-- No step moves a gateway to another platform. -/
theorem step_platform (g : Gateway) (op : Operation) :
    (Session.step g op).gateway.platform = g.platform := by
  rcases step_gateway g op with ⟨new, rfl, h⟩ | ⟨rfl, h⟩ | ⟨-, h⟩
  · rw [h, update_platform]
  · rw [h]
    rfl
  · rw [h]

theorem Reachable.platform_eq {platform : Platform} (hg : Reachable platform g) :
    g.platform = platform := by
  induction hg with
  | created hs h => exact create_platform platform _
  | stepped hg hop ih => rw [step_platform, ih]

/-- A reachable gateway has checked settings. -/
theorem Reachable.exists_settings {platform : Platform} (hg : Reachable platform g) :
    ∃ s : Settings, s.Valid ∧ g.settings = s.values := by
  induction hg with
  | created hs _ => exact ⟨_, hs, create_settings platform _⟩
  | @stepped g op _ hop ih =>
      rcases step_gateway g op with ⟨new, rfl, h⟩ | ⟨rfl, h⟩ | ⟨-, h⟩
      · obtain ⟨s, hs, rfl⟩ := hop
        exact ⟨s, hs, by rw [h, update_settings]⟩
      · rw [h]
        exact ih
      · rw [h]
        exact ih

end Gateway

end Grounding
