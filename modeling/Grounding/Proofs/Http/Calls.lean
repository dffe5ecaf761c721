import Grounding.Http.Surface
import Grounding.Proofs.Gateway.Preparation

/-!
# Calls

A call reaches a route by its path and is answered there if the route allows its method.  One kind of call
changes the gateway: one that brings settings which pass their check.  So the settings stay as they are
over any sequence of other calls.
-/

namespace Grounding.Http

namespace Call

/-- The call is made with this method, in whatever case, at a path of this route. -/
structure Reaches (call : Call) (method : String) (route : Route) : Prop where
  method : Text.capitals call.method = method
  path : Destination.ofPath call.path = .route route

/-- The call brings settings that pass their check where there is this room. -/
structure Replaces (call : Call) (room : Room) (s : Settings) : Prop where
  reaches : call.Reaches "PUT" .settings
  checked : (readChecked room call.body Settings.ofMembers).toOption = some s

variable {call : Call} {method : String} {route : Route} {room : Room} {s : Settings}

theorem Reaches.respond (h : call.Reaches method route) (hallowed : method ∈ route.methods)
    (g : Gateway) (today : Date) (service : Service) :
    Http.respond g call today service = serve g route method call.body today service := by
  unfold Http.respond
  rw [h.path, h.method]
  exact if_pos (List.contains_iff_mem.2 hallowed)

theorem Replaces.read (h : call.Replaces room s) :
    readChecked room call.body Settings.ofMembers = .ok s := by
  have hchecked := h.checked
  cases hread : readChecked room call.body Settings.ofMembers with
  | error fault => simp [hread, Except.toOption] at hchecked
  | ok t => simpa [hread, Except.toOption] using hchecked

end Call

theorem exists_members_of_readChecked {α : Type} {room : Room} {body : List UInt8}
    {check : List (String × Json) → Except (List Input.Fault) α} {a : α}
    (h : readChecked room body check = .ok a) :
    ∃ members, Json.decodeWithin room.bodyLimits body = .ok (.obj members) ∧
      check members = .ok a := by
  unfold readChecked at h
  split at h
  · contradiction
  · next members hmembers =>
    have hbody : Json.decodeWithin room.bodyLimits body = .ok (.obj members) := by
      unfold readBody at hmembers
      split_ifs at hmembers
      split at hmembers
      · contradiction
      · contradiction
      · next hdecode =>
        obtain rfl := Except.ok.inj hmembers
        exact hdecode
      · contradiction
    split at h
    · contradiction
    · next hcheck =>
      obtain rfl := Except.ok.inj h
      exact ⟨members, hbody, hcheck⟩

variable {g : Gateway} {body : List UInt8} {s : Settings}

/-! ## What a call leaves behind -/

theorem postAugment_gateway (g : Gateway) (body : List UInt8) (service : Service) :
    (postAugment g body service).gateway = g := by
  unfold postAugment
  split
  · rfl
  · exact Gateway.augmentFor_gateway g _ _ service

theorem postPrepare_gateway (g : Gateway) (body : List UInt8) (today : Date) (service : Service) :
    (postPrepare g body today service).gateway = g := by
  unfold postPrepare
  split
  · rfl
  · exact Gateway.prepareLoose_gateway g _ _ _ today service

theorem putSettings_of_error {fault : BodyFault} {service : Service}
    (h : readChecked service.room body Settings.ofMembers = .error fault) (g : Gateway) :
    putSettings g body service = answerStill g service fault.response := by
  rw [putSettings, h]

/-- Settings that pass their check are in force from then on, even if no link can be built for them. -/
theorem putSettings_gateway {service : Service}
    (h : readChecked service.room body Settings.ofMembers = .ok s) (g : Gateway) :
    (putSettings g body service).gateway = (g.update s.values).2.1 := by
  simp only [putSettings, h]
  split
  · next hupdate => simp [hupdate]
  · next hupdate => simp [hupdate]

/-- Only one method of one route may change a gateway. -/
theorem serve_gateway {route : Route} {method : String} (h : route = .settings → method ≠ "PUT")
    (g : Gateway) (body : List UInt8) (today : Date) (service : Service) :
    (serve g route method body today service).gateway = g := by
  cases route with
  | banner => rfl
  | liveness => rfl
  | health => exact Gateway.isHealthy_gateway g service
  | augment => exact postAugment_gateway g body service
  | prepare => exact postPrepare_gateway g body today service
  | settings =>
      simp only [serve, if_neg (h rfl)]
      rfl

theorem respond_gateway_of_not_reaches {call : Call} (h : ¬ call.Reaches "PUT" .settings)
    (g : Gateway) (today : Date) (service : Service) :
    (respond g call today service).gateway = g := by
  unfold respond
  dsimp only
  split
  · rfl
  · rfl
  · next route hpath =>
    split_ifs
    · refine serve_gateway ?_ g call.body today service
      rintro rfl hmethod
      exact h ⟨hmethod, hpath⟩
    · rfl

/-- What a response leaves behind: the settings that were brought, or the gateway as it was. -/
theorem respond_gateway (g : Gateway) (call : Call) (today : Date) (service : Service) :
    (∃ s, call.Replaces service.room s ∧
        (respond g call today service).gateway = (g.update s.values).2.1) ∨
      ((∀ s, ¬ call.Replaces service.room s) ∧ (respond g call today service).gateway = g) := by
  -- A body matters to the gateway only here; elsewhere it is read and forgotten.
  by_cases hreaches : call.Reaches "PUT" .settings
  · have hrespond : respond g call today service = putSettings g call.body service :=
      hreaches.respond (by decide) g today service
    rw [hrespond]
    cases hread : readChecked service.room call.body Settings.ofMembers with
    | error fault =>
        refine .inr ⟨fun s hs => ?_, ?_⟩
        · have hok := hs.read
          rw [hread] at hok
          contradiction
        · rw [putSettings_of_error hread]
          rfl
    | ok s =>
        refine .inl ⟨s, ⟨hreaches, ?_⟩, putSettings_gateway hread g⟩
        rw [hread]
        rfl
  · exact .inr ⟨fun s hs => hreaches hs.reaches,
      respond_gateway_of_not_reaches hreaches g today service⟩

/-! ## Sequences of calls -/

/-- A call with the day on which it is made and the service as it is then. -/
structure Visit where
  call : Call
  today : Date
  service : Service

/-- The gateway after some calls in turn. -/
def afterVisits : Gateway → List Visit → Gateway
  | g, [] => g
  | g, visit :: rest => afterVisits (respond g visit.call visit.today visit.service).gateway rest

/-- The visit brings settings that pass their check. -/
def Visit.Replaces (visit : Visit) (s : Settings) : Prop :=
  visit.call.Replaces visit.service.room s

/-- A gateway stays as it is while no settings are brought. -/
theorem afterVisits_of_not_replaces {visits : List Visit}
    (h : ∀ visit ∈ visits, ∀ s, ¬ visit.Replaces s) (g : Gateway) :
    afterVisits g visits = g := by
  induction visits generalizing g with
  | nil => rfl
  | cons visit rest ih =>
      have hrest := ih fun next hnext => h next (List.mem_cons_of_mem visit hnext)
      rcases respond_gateway g visit.call visit.today visit.service with ⟨s, hs, -⟩ | ⟨-, hsame⟩
      · exact absurd hs (h visit List.mem_cons_self s)
      · rw [afterVisits, hsame, hrest]

end Grounding.Http
