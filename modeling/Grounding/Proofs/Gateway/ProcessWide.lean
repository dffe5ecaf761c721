import Grounding.Gateway.Registry
import Grounding.Proofs.Gateway.Clients

/-!
# One gateway for a process

The current gateway is made on first use and stays the same, with all that was done to it, until the process
shuts it down.  Then it has no link and all its clients are closed, and the next one is made from the
environment alone.  A gateway that cannot be made leaves no trace.
-/

namespace Grounding

/-- Without a link, and with all clients closed that were ever opened. -/
structure Gateway.IsReleased (g : Gateway) : Prop where
  link : g.link = none
  closed : ∀ n < g.opened, n ∈ g.closed

theorem Gateway.OwnsClients.isReleased_close {g : Gateway} {past : List LinkEvent}
    (h : g.OwnsClients past) : g.close.IsReleased where
  link := rfl
  closed := fun _ hn => h.mem_closed_close hn

namespace Registry

/-- What a process does with its gateway. -/
inductive Call where
  | get (environment : Environment)
  | shutdown
  /-- An operation on the current gateway, if there is one. -/
  | operate (op : Operation)

def after (platform : Platform) (r : Registry) : Call → Registry
  | .get environment => (r.get platform environment).2
  | .shutdown => r.shutdown
  | .operate op => { r with current := r.current.map fun g => (Session.step g op).gateway }

def run (platform : Platform) (r : Registry) (calls : List Call) : Registry :=
  calls.foldl (after platform) r

@[simp] theorem run_nil (platform : Platform) (r : Registry) : run platform r [] = r := rfl

@[simp] theorem run_cons (platform : Platform) (r : Registry) (call : Call) (rest : List Call) :
    run platform r (call :: rest) = run platform (after platform r call) rest := rfl

def operations (calls : List Call) : List Operation :=
  calls.filterMap fun
    | .operate op => some op
    | _ => none

/-- What a process gets that has no gateway yet. -/
def opening (platform : Platform) (environment : Environment) : Except RegistryFault Gateway :=
  (empty.get platform environment).1

variable {platform : Platform} {r : Registry} {g : Gateway} {environment : Environment} {calls : List Call}

/-! ## Single calls -/

theorem get_of_current (h : r.current = some g) (environment : Environment) :
    r.get platform environment = (.ok g, r) := by
  rw [get, h]

/-- Without a current gateway the environment decides alone, and only what was made is kept. -/
theorem get_of_none (h : r.current = none) (environment : Environment) :
    r.get platform environment =
      (opening platform environment, ⟨(opening platform environment).toOption, r.retired⟩) := by
  obtain ⟨current, retired⟩ := r
  obtain rfl : current = none := h
  unfold opening get empty
  dsimp only
  cases environment.settings with
  | error faults => rfl
  | ok settings =>
      dsimp only
      rcases Gateway.create platform settings.values with ⟨fault | done, g, notices⟩ <;> rfl

theorem opening_eq_ok_iff :
    opening platform environment = .ok g ↔ ∃ s, environment.settings = .ok s ∧
      (Gateway.create platform s.values).1 = .ok () ∧ g = (Gateway.create platform s.values).2.1 := by
  unfold opening get empty
  dsimp only
  cases environment.settings with
  | error faults => simp
  | ok settings =>
      simp only [Except.ok.injEq, exists_eq_left']
      rcases Gateway.create platform settings.values with ⟨fault | done, made, notices⟩
      · simp
      · simp [eq_comm]

theorem shutdown_of_current (h : r.current = some g) :
    r.shutdown = ⟨none, g.close :: r.retired⟩ := by
  rw [shutdown, h]

theorem shutdown_of_none (h : r.current = none) : r.shutdown = r := by
  rw [shutdown, h]

theorem current_shutdown (r : Registry) : r.shutdown.current = none := by
  unfold shutdown
  split
  · rfl
  · assumption

theorem current_of_get {next : Registry} (h : r.get platform environment = (.ok g, next)) :
    next.current = some g ∧ next.retired = r.retired := by
  cases hcurrent : r.current with
  | none =>
      rw [get_of_none hcurrent] at h
      obtain ⟨hopening, rfl⟩ := Prod.mk.inj h
      rw [hopening]
      exact ⟨rfl, rfl⟩
  | some old =>
      rw [get_of_current hcurrent] at h
      obtain ⟨hold, rfl⟩ := Prod.mk.inj h
      obtain rfl := Except.ok.inj hold
      exact ⟨hcurrent, rfl⟩

/-- Nothing is stored by a call that fails. -/
theorem get_of_error {fault : RegistryFault} (h : (r.get platform environment).1 = .error fault) :
    r.current = none ∧ (r.get platform environment).2 = r := by
  cases hcurrent : r.current with
  | none =>
      rw [get_of_none hcurrent] at h ⊢
      have hopening : opening platform environment = .error fault := h
      have hsame : (⟨none, r.retired⟩ : Registry) = r := by rw [← hcurrent]
      rw [hopening]
      exact ⟨rfl, hsame⟩
  | some old =>
      rw [get_of_current hcurrent] at h
      contradiction

/-! ## Between shutdowns -/

/-- The current gateway does what is done to it and nothing else, until it is shut down. -/
theorem run_of_current (h : r.current = some g) (hcalls : ∀ call ∈ calls, call ≠ .shutdown) :
    run platform r calls = ⟨some (Session.last g (operations calls)), r.retired⟩ := by
  induction calls generalizing r g with
  | nil =>
      rw [run_nil, operations, List.filterMap_nil, Session.last_nil, ← h]
  | cons call rest ih =>
      have hrest : ∀ next ∈ rest, next ≠ .shutdown := fun next hnext =>
        hcalls next (List.mem_cons_of_mem call hnext)
      cases call with
      | get environment =>
          have hafter : after platform r (.get environment) = r := by rw [after, get_of_current h]
          rw [run_cons, hafter, ih h hrest]
          rfl
      | shutdown => exact absurd rfl (hcalls .shutdown List.mem_cons_self)
      | operate op =>
          have hafter : after platform r (.operate op) = ⟨some (Session.step g op).gateway, r.retired⟩ := by
            rw [after, h, Option.map_some]
          rw [run_cons, hafter, ih rfl hrest]
          exact congrArg (Registry.mk · r.retired) (congrArg some (Session.last_cons g op _).symm)

/-- Without a current gateway nothing happens until one is asked for. -/
theorem run_of_none (h : r.current = none)
    (hcalls : ∀ call ∈ calls, ∀ environment, call ≠ .get environment) : run platform r calls = r := by
  induction calls with
  | nil => rfl
  | cons call rest ih =>
      have hafter : after platform r call = r := by
        cases call with
        | get environment => exact absurd rfl (hcalls _ List.mem_cons_self environment)
        | shutdown => exact shutdown_of_none h
        | operate op => rw [after, h, Option.map_none, ← h]
      rw [run_cons, hafter]
      exact ih fun next hnext => hcalls next (List.mem_cons_of_mem call hnext)

/-! ## The invariant -/

/-- The current gateway owns its clients, and those that were shut down are released. -/
structure Tidy (r : Registry) : Prop where
  current : ∀ g, r.current = some g → ∃ past, g.OwnsClients past
  retired : ∀ g ∈ r.retired, g.IsReleased

theorem tidy_empty : empty.Tidy := ⟨by simp [empty], by simp [empty]⟩

theorem Tidy.get (h : r.Tidy) (environment : Environment) : (r.get platform environment).2.Tidy := by
  cases hcurrent : r.current with
  | none =>
      rw [get_of_none hcurrent]
      refine ⟨fun g hg => ?_, h.retired⟩
      have hopening : opening platform environment = .ok g := by
        dsimp only at hg
        cases hresult : opening platform environment with
        | error fault => simp [hresult, Except.toOption] at hg
        | ok made => simpa [hresult, Except.toOption] using hg
      obtain ⟨s, -, -, rfl⟩ := opening_eq_ok_iff.1 hopening
      exact ⟨_, Gateway.ownsClients_create platform s.values⟩
  | some g =>
      rw [get_of_current hcurrent]
      exact h

theorem Tidy.shutdown (h : r.Tidy) : r.shutdown.Tidy := by
  cases hcurrent : r.current with
  | none =>
      rw [shutdown_of_none hcurrent]
      exact h
  | some g =>
      obtain ⟨past, howns⟩ := h.current g hcurrent
      rw [shutdown_of_current hcurrent]
      refine ⟨by simp, fun old hold => ?_⟩
      rcases List.mem_cons.1 hold with rfl | hold
      · exact howns.isReleased_close
      · exact h.retired old hold

theorem Tidy.operate (h : r.Tidy) (op : Operation) : (after platform r (.operate op)).Tidy := by
  refine ⟨fun g hg => ?_, h.retired⟩
  obtain ⟨old, hold, rfl⟩ := Option.map_eq_some_iff.1 hg
  obtain ⟨past, howns⟩ := h.current old hold
  exact ⟨_, howns.step op⟩

theorem Tidy.after (h : r.Tidy) (call : Call) : (after platform r call).Tidy := by
  cases call with
  | get environment => exact h.get environment
  | shutdown => exact h.shutdown
  | operate op => exact h.operate op

theorem Tidy.run (h : r.Tidy) (calls : List Call) : (run platform r calls).Tidy := by
  induction calls generalizing r with
  | nil => exact h
  | cons call rest ih => exact ih (h.after call)

theorem Tidy.openLinks_shutdown (h : r.Tidy) : r.shutdown.openLinks = 0 := by
  have hreleased := h.shutdown.retired
  rw [openLinks, current_shutdown, List.countP_eq_zero]
  intro g hg
  rw [(hreleased g hg).link]
  simp

/-! ## Runs -/

/-- After any run of a process: whoever asks until the next shutdown gets the gateway that was given first,
with all that was done to it; a shutdown releases it; the next one comes from the environment alone; and
where none can be made nothing is stored. -/
theorem instance_discipline (platform : Platform) (before : List Call) :
    let r := run platform empty before
    (∀ environment g next, r.get platform environment = (.ok g, next) →
      ∀ between, (∀ call ∈ between, call ≠ .shutdown) →
        (run platform next between).number = r.number ∧
        ∀ other, (run platform next between).get platform other =
          (.ok (Session.last g (operations between)), run platform next between)) ∧
    ((∀ g, r.current = some g → r.shutdown = ⟨none, g.close :: r.retired⟩ ∧ g.close.IsReleased) ∧
      (r.current = none → r.shutdown = r) ∧ r.shutdown.openLinks = 0 ∧
      ∀ old ∈ r.shutdown.retired, old.IsReleased) ∧
    (∀ between, (∀ call ∈ between, ∀ environment, call ≠ .get environment) →
      ∀ environment,
        ((run platform r.shutdown between).get platform environment).1 =
          opening platform environment ∧
        ∀ g, opening platform environment = .ok g ↔ ∃ s, environment.settings = .ok s ∧
          (Gateway.create platform s.values).1 = .ok () ∧
          g = (Gateway.create platform s.values).2.1 ∧ g.settings = s.values) ∧
    ∀ environment fault, (r.get platform environment).1 = .error fault →
      (r.get platform environment).2 = r ∧ r.current = none ∧
        ∀ other, (r.get platform other).1 = opening platform other := by
  intro r
  have htidy : r.Tidy := tidy_empty.run before
  refine ⟨?_, ⟨?_, shutdown_of_none, htidy.openLinks_shutdown, htidy.shutdown.retired⟩, ?_, ?_⟩
  · intro environment g next hget between hbetween
    obtain ⟨hcurrent, hretired⟩ := current_of_get hget
    rw [run_of_current hcurrent hbetween]
    exact ⟨congrArg List.length hretired, fun other => get_of_current rfl other⟩
  · intro g hg
    obtain ⟨past, howns⟩ := htidy.current g hg
    exact ⟨shutdown_of_current hg, howns.isReleased_close⟩
  · intro between hbetween environment
    rw [run_of_none (current_shutdown r) hbetween, get_of_none (current_shutdown r)]
    refine ⟨rfl, fun g => ⟨fun hg => ?_, ?_⟩⟩
    · obtain ⟨s, hs, hcreated, rfl⟩ := opening_eq_ok_iff.1 hg
      exact ⟨s, hs, hcreated, rfl, Gateway.create_settings platform s.values⟩
    · rintro ⟨s, hs, hcreated, hg, -⟩
      exact opening_eq_ok_iff.2 ⟨s, hs, hcreated, hg⟩
  · intro environment fault hfault
    obtain ⟨hcurrent, hsame⟩ := get_of_error hfault
    refine ⟨hsame, hcurrent, fun other => ?_⟩
    rw [get_of_none hcurrent]

/-- An environment that only turns the gateway on. -/
def served : Environment where
  host := "localhost"
  port := 8001
  maxResults := 5
  similarityThreshold := .ofDecimal false 3 (-1)
  includeTools := false
  timeoutMs := 5000
  enabled := true
  certificates := "/etc/ssl/certs"
  logLevel := "INFO"

theorem opening_served : opening .usual served = .ok Gateway.linked :=
  opening_eq_ok_iff.2 ⟨Gateway.nearby, by decide +kernel, by decide +kernel, rfl⟩

/-- To another host, and then asked for again. -/
def moving : List Call :=
  [.operate (.update { host := "[::1]", enabled := true : Settings }.values), .get served]

theorem instance_discipline_served :
    empty.get .usual served = (.ok Gateway.linked, ⟨some Gateway.linked, []⟩) ∧
      ((run .usual ⟨some Gateway.linked, []⟩ moving).get .usual served).1 =
        .ok (Session.last Gateway.linked (operations moving)) ∧
      ((run .usual empty (.get served :: moving)).shutdown.get .usual served).1 = .ok Gateway.linked ∧
      (empty.get .usual { served with port := 0 }).1 = .error (.settings [⟨[.field "port"], .below 1⟩]) ∧
      (empty.get .usual { served with port := 0 }).2 = empty := by
  have hfirst : empty.get .usual served = (.ok Gateway.linked, ⟨some Gateway.linked, []⟩) := by
    rw [get_of_none rfl, opening_served]
    rfl
  have hfault : (empty.get .usual { served with port := 0 }).1 =
      .error (.settings [⟨[.field "port"], .below 1⟩]) := by
    have hsettings : { served with port := 0 }.settings = .error [⟨[.field "port"], .below 1⟩] := by
      decide +kernel
    rw [get, hsettings]
    rfl
  obtain ⟨hkept, -, -, hfailed⟩ := instance_discipline .usual []
  obtain ⟨-, -, hfresh, -⟩ := instance_discipline .usual (.get served :: moving)
  have hmoving : ∀ call ∈ moving, call ≠ .shutdown := by simp [moving]
  obtain ⟨-, hagain⟩ := hkept served Gateway.linked _ hfirst moving hmoving
  obtain ⟨hnext, -⟩ := hfresh [] (by simp) served
  rw [run_nil] at hnext
  exact ⟨hfirst, congrArg Prod.fst (hagain served), hnext.trans opening_served, hfault,
    (hfailed _ _ hfault).1⟩

end Registry

end Grounding
