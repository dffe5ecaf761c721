import Grounding.Proofs.Gateway.Change

/-!
# Runs

A run opens a gateway from checked settings and goes through any sequence of operations.  Runs in which
nothing fails are what most statements are about; there are plenty of them, because nothing can fail
while a link can be built from all the settings that occur.
-/

namespace Grounding

/-- Settings that come with an operation are checked ones that a link can be built from. -/
def Operation.IsLinkable (platform : Platform) : Operation → Prop
  | .update settings => ∃ s : Settings, s.Valid ∧ ¬ s.Unlinkable platform ∧ settings = s.values
  | _ => True

/-- With the default timeout any plain host will do that has no port of its own. -/
theorem Operation.isLinkable_default {platform : Platform} {host : String} (enabled : Bool)
    (hplain : Endpoint.IsPlain host) (h : Endpoint.ownPort? host = none) :
    (Operation.update { host, enabled : Settings }.values).IsLinkable platform :=
  ⟨_, Settings.valid_default host enabled, Settings.not_unlinkable_default enabled hplain h, rfl⟩

namespace Session

/-- The gateway that the last step of a run leaves behind. -/
def last (g : Gateway) (ops : List Operation) : Gateway :=
  ((run g ops).getLast?.map (·.gateway)).getD g

@[simp] theorem last_nil (g : Gateway) : last g [] = g := rfl

@[simp] theorem last_cons (g : Gateway) (op : Operation) (rest : List Operation) :
    last g (op :: rest) = last (step g op).gateway rest := by
  unfold last
  rw [run, List.getLast?_cons]
  cases (run (step g op).gateway rest).getLast? <;> rfl

theorem last_append (g : Gateway) (ops more : List Operation) :
    last g (ops ++ more) = last (last g ops) more := by
  induction ops generalizing g with
  | nil => rfl
  | cons op rest ih => rw [List.cons_append, last_cons, last_cons, ih]

/-- What a run does at some place is a step from where the operations before it have led. -/
theorem run_getElem? (g : Gateway) (ops : List Operation) (i : Nat) :
    (run g ops)[i]? = ops[i]?.map (step (last g (ops.take i))) := by
  induction ops generalizing g i with
  | nil => simp [run]
  | cons op rest ih =>
      cases i with
      | zero => simp [run]
      | succ i => simp [run, ih]

theorem run_take (g : Gateway) (ops : List Operation) (i : Nat) :
    run g (ops.take i) = (run g ops).take i := by
  induction ops generalizing g i with
  | nil => simp [run]
  | cons op rest ih =>
      cases i with
      | zero => simp [run]
      | succ i => simp [run, ih]

/-- The same for a run that starts with an opening. -/
def final (platform : Platform) (s : Settings) (ops : List Operation) : Gateway :=
  last (Gateway.create platform s.values).2.1 ops

/-- A run of checked settings in which nothing fails. -/
structure Sound (platform : Platform) (s : Settings) (ops : List Operation) : Prop where
  valid : s.Valid
  created : (Gateway.create platform s.values).1 = .ok ()
  checked : ∀ op ∈ ops, op.IsChecked
  done : ∀ after ∈ run (Gateway.create platform s.values).2.1 ops,
    ∀ fault, after.result ≠ .failed fault

/-- A run in which nothing fails can be cut off anywhere. -/
theorem Sound.take {platform : Platform} {s : Settings} {ops : List Operation}
    (h : Sound platform s ops) (i : Nat) : Sound platform s (ops.take i) where
  valid := h.valid
  created := h.created
  checked := fun op hop => h.checked op (List.mem_of_mem_take hop)
  done := by
    rw [run_take]
    exact fun after hafter => h.done after (List.mem_of_mem_take hafter)

/-! ## Runs in which nothing can fail -/

theorem run_done {g : Gateway} {old : Settings} {ops : List Operation}
    (hg : g.settings = old.values) (hops : ∀ op ∈ ops, op.IsLinkable g.platform) :
    ∀ after ∈ run g ops, ∀ fault, after.result ≠ .failed fault := by
  induction ops generalizing g old with
  | nil => simp [run]
  | cons op rest ih =>
      have hop := hops op (by simp)
      have hrest : ∀ next ∈ rest, next.IsLinkable (step g op).gateway.platform := by
        intro next hnext
        rw [Gateway.step_platform]
        exact hops next (List.mem_cons_of_mem op hnext)
      intro after hafter fault hfault
      rcases List.mem_cons.1 hafter with rfl | hafter
      · obtain ⟨new, rfl, hupdate⟩ := (step_failed_iff g op fault).1 hfault
        obtain ⟨s, hs, hlinkable, rfl⟩ := hop
        have hok := (Gateway.update_ok_iff hg hs).2 fun h => hlinkable h.2
        rw [hok] at hupdate
        contradiction
      · rcases Gateway.step_gateway g op with ⟨new, rfl, h⟩ | ⟨rfl, h⟩ | ⟨-, h⟩
        · obtain ⟨s, -, -, rfl⟩ := hop
          exact ih (by rw [h, Gateway.update_settings]) hrest after hafter fault hfault
        · exact ih (by rw [h]; exact hg) hrest after hafter fault hfault
        · exact ih (by rw [h]; exact hg) hrest after hafter fault hfault

theorem sound_of_linkable {platform : Platform} {s : Settings} {ops : List Operation} (hs : s.Valid)
    (hlinkable : ¬ s.Unlinkable platform) (hops : ∀ op ∈ ops, op.IsLinkable platform) :
    Sound platform s ops where
  valid := hs
  created := (Gateway.create_ok_iff hs).2 fun h => hlinkable h.2
  checked := by
    intro op hop
    cases op with
    | update settings =>
        obtain ⟨new, hvalid, -, hnew⟩ := hops _ hop
        exact ⟨new, hvalid, hnew⟩
    | _ => trivial
  done := by
    refine run_done (Gateway.create_settings platform s.values) ?_
    rw [Gateway.create_platform]
    exact hops

end Session

end Grounding
