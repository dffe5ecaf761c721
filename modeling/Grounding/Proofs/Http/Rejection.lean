import Grounding.Proofs.Gateway.FailedChange
import Grounding.Proofs.Http.Calls
import Grounding.Proofs.Http.Shown
import Grounding.Proofs.Settings.Writable

/-!
# Bodies that fail their check

A call whose body fails its check leaves everything as it was and sends nothing.  It is refused with its
faults if all that they are about can be quoted; a number that is not finite cannot, and then there is no
more than a word that something went wrong.  Settings that pass their check are in force until others are
brought, and they are confirmed and given back at every look at them if their host can be shown.
-/

namespace Grounding.Http

abbrev Members := List (String × Json)

/-- The call brings a body that is checked in this way. -/
inductive Call.Submits (call : Call) :
    {α : Type} → (Members → Except (List Input.Fault) α) → Prop
  | augment (h : call.Reaches "POST" .augment) : Submits call AugmentBody.ofMembers
  | prepare (h : call.Reaches "POST" .prepare) : Submits call PrepareBody.ofMembers
  | settings (h : call.Reaches "PUT" .settings) : Submits call Settings.ofMembers

/-- The faults of a value that fails a check: it has no members, or they are at fault. -/
inductive Faulty {α : Type} (check : Members → Except (List Input.Fault) α) :
    Json → List Input.Fault → Prop
  | notFields {v : Json} (h : ∀ members, v ≠ .obj members) : Faulty check v [⟨[], .notFields⟩]
  | members {members : Members} {faults : List Input.Fault} (h : check members = .error faults) :
      Faulty check (.obj members) faults

section Checking

variable {α : Type} {check : Members → Except (List Input.Fault) α} {room : Room}
  {body : List UInt8} {v : Json} {faults : List Input.Fault}

theorem isEmpty_eq_false_of_decodes (h : Json.decodeWithin room.bodyLimits body = .ok v) :
    body.isEmpty = false := by
  cases body with
  | nil =>
      have hnil : Json.decodeWithin room.bodyLimits [] = .error (.malformed .expectedValue 0) := rfl
      rw [hnil] at h
      contradiction
  | cons byte rest => rfl

theorem readChecked_of_faulty (hbody : Json.decodeWithin room.bodyLimits body = .ok v)
    (h : Faulty check v faults) : readChecked room body check = .error (refuse room v faults) := by
  have hempty := isEmpty_eq_false_of_decodes hbody
  cases h with
  | notFields hfields =>
      cases v with
      | obj members => exact absurd rfl (hfields members)
      | _ => simp [readChecked, readBody, hempty, hbody]
  | members hcheck => simp [readChecked, readBody, hempty, hbody, hcheck]

/-- A part has no scalars but those of the whole. -/
theorem every_partAt {p : Json → Prop} {path : List Input.Step} (h : v.Every p) :
    (partAt v path).Every p := by
  induction path generalizing v with
  | nil => exact h
  | cons step rest ih =>
      cases step with
      | field name =>
          rw [partAt]
          split
          · next part hpart =>
            cases v with
            | obj members => exact ih (h.lookup hpart)
            | _ => contradiction
          · exact h
      | item index =>
          cases v with
          | arr items =>
              rw [partAt]
              split
              · next part hpart => exact ih (Json.every_arr.1 h part (List.mem_of_getElem? hpart))
              · exact h
          | _ => exact h

/-- A value that an error can quote: it can be sent, and it does not nest too deep. -/
structure CanQuote (room : Room) (v : Json) : Prop where
  finite : v.IsFinite
  whole : v.isWhole = true
  depth : v.depth ≤ room.quotes

theorem isQuotable_iff (hshort : v.HasShortIntegers) :
    isQuotable room v = true ↔ CanQuote room v := by
  unfold isQuotable
  rw [Bool.and_eq_true, Option.isNone_iff_eq_none, Json.sendFault?_eq_none_iff_parts,
    decide_eq_true_eq]
  constructor
  · rintro ⟨⟨hfinite, -, hwhole⟩, hdepth⟩
    exact ⟨hfinite, hwhole, hdepth⟩
  · exact fun h => ⟨⟨h.finite, hshort, h.whole⟩, h.depth⟩

/-- Faults are told if all that they are about can be quoted, and otherwise nothing is. -/
theorem refuse_response (hshort : v.HasShortIntegers) (faults : List Input.Fault) :
    ((refuse room v faults).response.status = 422 ↔
      ∀ f ∈ faults, CanQuote room (partAt v f.path)) ∧
    (refuse room v faults).response =
      if (refuse room v faults).response.status = 422 then .refused faults else .internalError := by
  have hquotable : (faults.all fun f => isQuotable room (partAt v f.path)) = true ↔
      ∀ f ∈ faults, CanQuote room (partAt v f.path) :=
    List.all_eq_true.trans (forall₂_congr fun f _ => isQuotable_iff (every_partAt hshort))
  by_cases hall : (faults.all fun f => isQuotable room (partAt v f.path)) = true
  · rw [refuse, if_pos hall]
    exact ⟨iff_of_true rfl (hquotable.1 hall), rfl⟩
  · rw [refuse, if_neg hall]
    exact ⟨iff_of_false (by decide) fun h => hall (hquotable.2 h), rfl⟩

/-- A body that holds no value is refused if the text is at fault, and is a bad call otherwise. -/
theorem readChecked_of_fault {fault : Json.Fault}
    (hbody : Json.decodeWithin room.bodyLimits body = .error fault)
    (check : Members → Except (List Input.Fault) α) :
    ∃ bodyFault, readChecked room body check = .error bodyFault ∧
      (bodyFault.response.status = 422 ↔ ∃ cause offset, fault = .malformed cause offset) := by
  cases hempty : body.isEmpty with
  | true =>
      -- An empty body is never read, but reading it would end in a fault of the text, too.
      obtain rfl := List.isEmpty_iff.1 hempty
      refine ⟨.refused [⟨[], .missing⟩], rfl, iff_of_true rfl ?_⟩
      exact ⟨.expectedValue, 0, (Except.error.inj hbody).symm⟩
  | false =>
      cases fault with
      | malformed cause offset =>
          exact ⟨.refused [⟨[.item offset], .malformedBody⟩],
            by simp [readChecked, readBody, hempty, hbody], iff_of_true rfl ⟨cause, offset, rfl⟩⟩
      | _ =>
          exact ⟨.unreadable, by simp [readChecked, readBody, hempty, hbody],
            iff_of_false (by decide) (by simp)⟩

variable {call : Call} {fault : BodyFault} {service : Service}

theorem Call.Submits.respond_of_error (h : call.Submits check)
    (hread : readChecked service.room call.body check = .error fault) (g : Gateway) (today : Date) :
    respond g call today service = answerStill g service fault.response := by
  cases h with
  | augment hreaches =>
      rw [hreaches.respond (by decide), serve, postAugment, hread]
  | prepare hreaches =>
      rw [hreaches.respond (by decide), serve, postPrepare, hread]
  | settings hreaches =>
      rw [hreaches.respond (by decide)]
      exact putSettings_of_error hread g

end Checking

/-! ## Settings that are brought -/

section Settings

variable {g : Gateway} {call : Call} {room : Room} {s : Settings}

theorem Call.Replaces.valid (h : call.Replaces room s) : s.Valid := by
  obtain ⟨members, -, hmembers⟩ := exists_members_of_readChecked h.read
  exact Settings.valid_of_ofMembers hmembers

/-- What settings are shown as: themselves, if their host can be. -/
def shownSettings (s : Settings) : Response :=
  if Text.isWhole s.host then ⟨200, .json s.values.toJson⟩ else .internalError

theorem Call.Replaces.ok_settings (h : call.Replaces room s) :
    Response.ok s.values.toJson = shownSettings s := by
  obtain ⟨members, hbody, hmembers⟩ := exists_members_of_readChecked h.read
  have hshort : s.values.toJson.HasShortIntegers :=
    Settings.shortIntegers_of_ofMembers hmembers (Json.shortIntegers_of_decodeWithin hbody)
  unfold shownSettings
  split_ifs with hhost
  · exact (Response.ok_eq_iff hshort).2 ⟨h.valid.isFinite_toJson, (Settings.isWhole_toJson_iff s).2 hhost⟩
  · exact Response.ok_of_not_whole fun hboth => hhost ((Settings.isWhole_toJson_iff s).1 hboth.2)

theorem Call.Reaches.respond_look (h : call.Reaches "GET" .settings) (g : Gateway) (today : Date)
    (service : Service) :
    Http.respond g call today service = answerStill g service (.ok g.settings.toJson) := by
  rw [h.respond (by decide)]
  rfl

theorem putSettings_of_update {body : List UInt8} {service : Service}
    (hread : readChecked service.room body Settings.ofMembers = .ok s)
    (hupdate : (g.update s.values).1 = .ok ()) :
    ∃ notices, putSettings g body service =
      (g.update s.values).2.1.still service (.ok s.values.toJson) notices := by
  have hsettings := Gateway.update_settings g s.values
  simp only [putSettings, hread]
  generalize g.update s.values = change at hupdate hsettings ⊢
  rcases change with ⟨fault | done, next, notices⟩
  · contradiction
  · exact ⟨notices, by rw [← hsettings]⟩

end Settings

/-- Nothing was changed and nothing was sent. -/
structure LeavesAlone (g : Gateway) (o : Outcome Response) : Prop where
  gateway : o.gateway = g
  requests : o.requests = []

/-- A body that fails its check leaves everything alone, and is refused with its faults exactly if all
that they are about can be quoted.  So does a body that holds no value, and it is refused exactly if the
text is at fault.  Settings that go through are in force until others are brought; they are confirmed, and
given back at every look at them, exactly if their host can be shown. -/
theorem submission_contract (g : Gateway) (call : Call) (today : Date) (service : Service) :
    let o := respond g call today service
    (∀ (α : Type) (check : Members → Except (List Input.Fault) α), call.Submits check →
      (∀ v faults, Json.decodeWithin service.room.bodyLimits call.body = .ok v →
        Faulty check v faults →
        LeavesAlone g o ∧
        (o.result.status = 422 ↔ ∀ f ∈ faults, CanQuote service.room (partAt v f.path)) ∧
        o.result = if o.result.status = 422 then .refused faults else .internalError) ∧
      ∀ fault, Json.decodeWithin service.room.bodyLimits call.body = .error fault →
        LeavesAlone g o ∧ (o.result.status = 422 ↔ ∃ cause offset, fault = .malformed cause offset)) ∧
    ∀ s, call.Replaces service.room s → (g.update s.values).1 = .ok () →
      o.result = shownSettings s ∧ o.requests = [] ∧
      ∀ visits, (∀ visit ∈ visits, ∀ other, ¬ visit.Replaces other) →
        (afterVisits o.gateway visits).settings = s.values ∧
        ∀ look : Visit, look.call.Reaches "GET" .settings →
          (respond (afterVisits o.gateway visits) look.call look.today look.service).result =
            shownSettings s := by
  intro o
  refine ⟨?_, ?_⟩
  · intro α check hsubmits
    refine ⟨?_, ?_⟩
    · intro v faults hbody hfaulty
      have hrespond : o = answerStill g service (refuse service.room v faults).response :=
        hsubmits.respond_of_error (readChecked_of_faulty hbody hfaulty) g today
      rw [hrespond]
      exact ⟨⟨rfl, rfl⟩, refuse_response (Json.shortIntegers_of_decodeWithin hbody) faults⟩
    · intro fault hbody
      obtain ⟨bodyFault, hread, hstatus⟩ := readChecked_of_fault hbody check
      have hrespond : o = answerStill g service bodyFault.response :=
        hsubmits.respond_of_error hread g today
      rw [hrespond]
      exact ⟨⟨rfl, rfl⟩, hstatus⟩
  · intro s hreplaces hupdate
    have hrespond : o = putSettings g call.body service :=
      hreplaces.reaches.respond (by decide) g today service
    obtain ⟨notices, hput⟩ := putSettings_of_update hreplaces.read hupdate
    have hsettings := Gateway.update_settings g s.values
    rw [hrespond, hput]
    dsimp only [Gateway.still]
    refine ⟨hreplaces.ok_settings, rfl, ?_⟩
    intro visits hvisits
    rw [afterVisits_of_not_replaces hvisits]
    refine ⟨hsettings, fun look hlook => ?_⟩
    rw [hlook.respond_look, hsettings]
    dsimp only [answerStill, Gateway.still]
    exact hreplaces.ok_settings

/-! ## Calls to the settings -/

def settingsCall (method body : String) : Call :=
  ⟨method, "/rag/config".toList, body.toUTF8.toList⟩

theorem reaches_settingsCall {method : String} (h : Text.capitals method = method) (body : String) :
    (settingsCall method body).Reaches method .settings where
  method := h
  path := by
    have hpath : Destination.ofPath "/rag/config".toList = .route .settings := by decide
    exact hpath

def lowPort : Call := settingsCall "PUT" "\x7b\"port\":0\x7d"

def hurried : Call := settingsCall "PUT" "\x7b\"timeout_ms\":100\x7d"

theorem replaces_hurried : hurried.Replaces .usual { timeoutMs := 100 } where
  reaches := reaches_settingsCall (by decide) _
  checked := by decide +kernel

theorem decodes_lowPort :
    Json.decodeWithin Room.usual.bodyLimits lowPort.body = .ok (.obj [("port", .int 0)]) := by
  -- The bytes stand here as they are, since a text does not evaluate to them by `rfl`.
  have hbody : lowPort.body = [123, 34, 112, 111, 114, 116, 34, 58, 48, 125] := by decide +kernel
  rw [hbody]
  rfl

theorem not_replaces_lowPort (s : Settings) : ¬ lowPort.Replaces .usual s := by
  intro h
  have hread : (readChecked .usual lowPort.body Settings.ofMembers).toOption = none := by
    decide +kernel
  rw [h.checked] at hread
  contradiction

theorem submission_contract_linked :
    (lowPort.Submits Settings.ofMembers ∧
      Json.decodeWithin Room.usual.bodyLimits lowPort.body = .ok (.obj [("port", .int 0)]) ∧
      Faulty Settings.ofMembers (.obj [("port", .int 0)]) [⟨[.field "port"], .below 1⟩] ∧
      LeavesAlone Gateway.linked (respond Gateway.linked lowPort ⟨2026, 3, 7⟩ (.always .lost)) ∧
      (respond Gateway.linked lowPort ⟨2026, 3, 7⟩ (.always .lost)).result =
        .refused [⟨[.field "port"], .below 1⟩]) ∧
    hurried.Replaces .usual { timeoutMs := 100 } ∧
      (respond (afterVisits
        (respond Gateway.linked hurried ⟨2026, 3, 7⟩ (.always .lost)).gateway
        [⟨lowPort, ⟨2026, 3, 7⟩, .always .lost⟩])
        (settingsCall "GET" "") ⟨2026, 3, 7⟩ (.always .lost)).result =
          ⟨200, .json ({ timeoutMs := 100 } : Settings).values.toJson⟩ := by
  have hsubmits : lowPort.Submits Settings.ofMembers := .settings (reaches_settingsCall (by decide) _)
  have hfaulty : Faulty Settings.ofMembers (.obj [("port", .int 0)]) [⟨[.field "port"], .below 1⟩] :=
    .members rfl
  obtain ⟨hrejected, -⟩ := submission_contract Gateway.linked lowPort ⟨2026, 3, 7⟩ (.always .lost)
  obtain ⟨hidle, hstatus, hresult⟩ := (hrejected _ _ hsubmits).1 _ _ decodes_lowPort hfaulty
  obtain ⟨-, haccepted⟩ := submission_contract Gateway.linked hurried ⟨2026, 3, 7⟩ (.always .lost)
  obtain ⟨-, -, hlooks⟩ := haccepted _ replaces_hurried (by decide +kernel)
  have hquoted : ∀ f ∈ [(⟨[.field "port"], .below 1⟩ : Input.Fault)],
      CanQuote .usual (partAt (.obj [("port", .int 0)]) f.path) := by
    simp only [List.mem_singleton, forall_eq]
    exact ⟨trivial, rfl, by decide⟩
  rw [if_pos (hstatus.2 hquoted)] at hresult
  obtain ⟨-, hlook⟩ := hlooks [⟨lowPort, ⟨2026, 3, 7⟩, .always .lost⟩]
    (List.forall_mem_singleton.2 not_replaces_lowPort)
  exact ⟨⟨hsubmits, decodes_lowPort, hfaulty, hidle, hresult⟩, replaces_hurried,
    hlook ⟨settingsCall "GET" "", _, _⟩ (reaches_settingsCall (by decide) _)⟩

/-- A timeout that is a number but not a finite one. -/
def hugeTimeout : Call := settingsCall "PUT" "\x7b\"timeout_ms\":1e500\x7d"

theorem decodes_hugeTimeout :
    Json.decodeWithin Room.usual.bodyLimits hugeTimeout.body =
      .ok (.obj [("timeout_ms", .real (.infinite false))]) := by
  have hbody : hugeTimeout.body = [123, 34, 116, 105, 109, 101, 111, 117, 116, 95, 109, 115, 34, 58,
      49, 101, 53, 48, 48, 125] := by decide +kernel
  rw [hbody]
  rfl

/-- A timeout that cannot be quoted is not refused like other faulty ones. -/
theorem not_refused_hugeTimeout :
    hugeTimeout.Submits Settings.ofMembers ∧
      Json.decodeWithin Room.usual.bodyLimits hugeTimeout.body =
        .ok (.obj [("timeout_ms", .real (.infinite false))]) ∧
      Faulty Settings.ofMembers (.obj [("timeout_ms", .real (.infinite false))])
        [⟨[.field "timeout_ms"], .notFinite⟩] ∧
      (respond Gateway.linked hugeTimeout ⟨2026, 3, 7⟩ (.always .lost)).result.status ≠ 422 := by
  have hsubmits : hugeTimeout.Submits Settings.ofMembers :=
    .settings (reaches_settingsCall (by decide) _)
  have hfaulty : Faulty Settings.ofMembers (.obj [("timeout_ms", .real (.infinite false))])
      [⟨[.field "timeout_ms"], .notFinite⟩] := .members rfl
  refine ⟨hsubmits, decodes_hugeTimeout, hfaulty, ?_⟩
  rw [hsubmits.respond_of_error (readChecked_of_faulty decodes_hugeTimeout hfaulty)]
  decide +kernel

end Grounding.Http
