import Grounding.Proofs.Conversation.LastUser
import Grounding.Proofs.Gateway.FailedChange
import Grounding.Proofs.Gateway.Requests
import Grounding.Proofs.Gateway.RetrievalShape

/-!
# Preparing messages

Preparing asks once if the gate allows it and puts what was found, or a note of the date, in front of the
last message of the user.  It comes back from every exchange; only messages that nest too deep to be copied
defeat it, and then after it has asked.
-/

namespace Grounding

/-- Options as a caller hands them in: an object, or nothing at all. -/
inductive Conversation.AreOptions : Json → Options → Prop
  | members (options : Options) : AreOptions (.obj options) options
  | none : AreOptions .null []

theorem Conversation.AreOptions.ofJson {params : Json} {options : Options}
    (h : AreOptions params options) : Options.ofJson params = .ok options := by
  cases h with
  | members options => rfl
  | none => rfl

/-- The text that a retrieval puts before the query: the block of its passages, the service's own context
when there are none, and a note of the date when there is neither. -/
inductive Retrieval.Introduces (today : Date) (r : Retrieval) : String → Prop
  | passages {found : Findings} (h : r.outcome = .ok found) (hsome : found.passages ≠ []) :
      Introduces today r (Context.render found.passages)
  | context {found : Findings} (h : r.outcome = .ok found) (hnone : found.passages = [])
      (hcontext : found.context ≠ "") : Introduces today r found.context
  | date (h : ∀ found, r.outcome = .ok found → found.passages = [] ∧ found.context = "") :
      Introduces today r (Conversation.dateNote today)

namespace Gateway

open Conversation

/-- What is put before the query ends in the mark that the query follows. -/
theorem exists_introduces (r : Retrieval) (today : Date) :
    ∃ text, r.Introduces today text ∧
      Conversation.preface (contextOf r) today = text ++ Conversation.queryMark := by
  unfold contextOf Conversation.preface
  cases hout : r.outcome with
  | error refusal => exact ⟨_, .date (by simp [hout]), rfl⟩
  | ok found =>
      dsimp only
      by_cases hnone : found.passages = []
      · by_cases hcontext : found.context = ""
        · exact ⟨_, .date (by simp [hout, hnone, hcontext]), by simp [hnone, hcontext]⟩
        · exact ⟨_, .context hout hnone hcontext, by simp [hnone, hcontext]⟩
      · have hblock : Context.render found.passages ≠ "" :=
          fun h => hnone (Context.render_eq_empty_iff.1 h)
        exact ⟨_, .passages hout hnone, by simp [hnone, hblock]⟩

/-! ## When a question is sent -/

section Question

variable {g : Gateway} {s : Settings}

theorem augment_requests_of_unlinked (hlink : g.link = none) (query session : String)
    (service : Service) : (g.augment query session service).requests = [] :=
  step_requests_of_unlinked hlink (.augment query session service)

theorem augment_requests_of_disabled (hoff : g.settings.isEnabled = false) (query session : String)
    (service : Service) : (g.augment query session service).requests = [] :=
  step_requests_of_disabled hoff (.augment query session service)

/-- A gateway with checked settings sends a question if it is enabled, there is a query that can be sent,
and its link has a place for it to go. -/
theorem augment_requests_ne_nil_iff (hs : s.Valid) (hg : g.settings = s.values)
    (query session : String) (service : Service) :
    (g.augment query session service).requests ≠ [] ↔
      s.enabled = true ∧ query ≠ "" ∧ s.CanSend query session ∧
        ∃ link url, g.link = some link ∧ link.client.binding.augment = .url url := by
  have hswitch : g.settings.isEnabled = s.enabled := by rw [hg, Settings.isEnabled_values]
  cases hon : s.enabled with
  | false => simp [augment_requests_of_disabled (hswitch.trans hon)]
  | true =>
      cases hlink : g.link with
      | none => simp [augment_requests_of_unlinked hlink]
      | some link =>
          rw [augment, augmentFor_requests (hswitch.trans hon) hlink, hg,
            Settings.augmentBody_values]
          by_cases hquery : query = ""
          · simp [hquery]
          · rw [if_neg hquery, Link.augmentRequest_sends_iff, Settings.sendFault?_questionBody hs]
            simp [hquery]

theorem augment_requests_length_le (g : Gateway) (query session : String) (service : Service) :
    (g.augment query session service).requests.length ≤ 1 := by
  by_cases hon : g.settings.isEnabled = true
  · cases hlink : g.link with
    | none => simp [augment_requests_of_unlinked hlink]
    | some link =>
        rw [augment, augmentFor_requests hon hlink]
        split_ifs
        · exact Nat.zero_le 1
        · exact Option.length_toList_le
  · simp [augment_requests_of_disabled (by simpa using hon)]

end Question

/-! ## Deciding, asking and injecting -/

section Prepare

variable {g : Gateway} {params messages : Json} {options : Options} {session : String}
  {today : Date} {service : Service}

/-- Preparing changes nothing about a gateway. -/
@[simp] theorem prepareLoose_gateway (g : Gateway) (messages params session : Json) (today : Date)
    (service : Service) : (g.prepareLoose messages params session today service).gateway = g := by
  unfold prepareLoose
  split
  · rfl
  · dsimp only
    split_ifs
    · exact prepareFor_gateway g session messages _ today service
    · exact prepareFor_gateway g session messages _ today service

theorem prepareLoose_of_unaugmented (hoptions : AreOptions params options)
    (hgate : (shouldAugment messages options).value = false) :
    g.prepareLoose messages params (.str session) today service =
      g.still service (.ok ⟨messages, none⟩) (shouldAugment messages options).notices := by
  simp [prepareLoose, hoptions.ofJson, prepareFor, hgate, answered, still]

/-- What the gate lets through is asked about first; only then are the messages copied. -/
theorem prepareLoose_of_augmented (hoptions : AreOptions params options)
    (hgate : (shouldAugment messages options).value = true) :
    g.prepareLoose messages params (.str session) today service =
      let asked := g.augment (lastQuery messages) session service
      ⟨if service.room.isTooDeep messages then .error (.injection .tooDeep)
        else .ok ⟨inject messages (contextOf asked.result) today, some asked.result⟩,
        asked.gateway, asked.clock, asked.requests,
        (shouldAugment messages options).notices + asked.notices⟩ := by
  cases hdeep : service.room.isTooDeep messages <;>
    simp [prepareLoose, hoptions.ofJson, prepareFor, hgate, answered, augment, hdeep]

/-- Messages that were let through and came back could be copied. -/
theorem isTooDeep_eq_false_of_ok {prepared : Prepared} (hoptions : AreOptions params options)
    (hgate : (shouldAugment messages options).value = true)
    (h : (g.prepareLoose messages params (.str session) today service).result = .ok prepared) :
    service.room.isTooDeep messages = false := by
  rw [prepareLoose_of_augmented hoptions hgate] at h
  cases hdeep : service.room.isTooDeep messages with
  | false => rfl
  | true => simp [hdeep] at h

end Prepare

/-- What preparing comes to.  Behind a closed gate nothing happens.  Behind an open one the last query is
asked about once; what was found goes in front of that query, and nothing else in the messages changes.
A question is sent if the gate, the switch and the link allow it, and there is one that can be sent. -/
theorem preparation_of_reachable {platform : Platform} {g : Gateway} {params : Json}
    {options : Options} (hg : Reachable platform g) (hoptions : AreOptions params options) (messages : Json)
    (session : String) (today : Date) (service : Service) :
    let gate := (shouldAugment messages options).value
    let query := lastQuery messages
    let asked := g.augment query session service
    let prepared := g.prepareLoose messages params (.str session) today service
    (gate = false → prepared.result = .ok ⟨messages, none⟩ ∧ prepared.requests = []) ∧
    (gate = true →
      (prepared.requests = asked.requests ∧ prepared.clock = asked.clock) ∧
      (service.room.isTooDeep messages = false →
        ∃ text new, asked.result.Introduces today text ∧
          LeadsMessages (text ++ queryMark) messages new ∧
          prepared.result = .ok ⟨new, some asked.result⟩) ∧
      (service.room.isTooDeep messages = true → prepared.result = .error (.injection .tooDeep))) ∧
    prepared.gateway = g ∧
    prepared.requests.length ≤ 1 ∧
    ∃ current : Settings, g.settings = current.values ∧
      (prepared.requests ≠ [] ↔ gate = true ∧ current.enabled = true ∧ query ≠ "" ∧
        current.CanSend query session ∧
        ∃ link url, g.link = some link ∧ link.client.binding.augment = .url url) := by
  obtain ⟨current, hvalid, hcurrent⟩ := hg.exists_settings
  intro gate query asked prepared
  cases hgate : gate with
  | false =>
      have hprepared : prepared = g.still service (.ok ⟨messages, none⟩) _ :=
        prepareLoose_of_unaugmented hoptions hgate
      rw [hprepared]
      refine ⟨fun _ => ⟨rfl, rfl⟩, ?_, rfl, Nat.zero_le 1, current, hcurrent, ?_⟩
      · intro hopen
        contradiction
      · simp [still]
  | true =>
      have hprepared : prepared = _ := prepareLoose_of_augmented hoptions hgate
      rw [hprepared]
      refine ⟨?_, fun _ => ⟨⟨rfl, rfl⟩, ?_, ?_⟩, ?_, ?_, current, hcurrent, ?_⟩
      · intro hclosed
        contradiction
      · intro hdeep
        obtain ⟨text, hintroduces, hpreface⟩ := exists_introduces asked.result today
        have hleads := leadsMessages_inject messages (contextOf asked.result) today
        rw [hpreface] at hleads
        exact ⟨text, _, hintroduces, hleads, if_neg (by simp [hdeep])⟩
      · intro hdeep
        exact if_pos hdeep
      · exact augmentFor_gateway g _ query service
      · exact augment_requests_length_le g query session service
      · simpa using augment_requests_ne_nil_iff hvalid hcurrent query session service

theorem exists_url_linked :
    ∃ link url, linked.link = some link ∧ link.client.binding.augment = .url url := by
  have hlinked : linked.link.map (·.client.binding.augment) =
      some (.url "http://localhost:8001/api/v1/llama/augment") := by
    decide +kernel
  obtain ⟨link, hlink, hsending⟩ := Option.map_eq_some_iff.1 hlinked
  exact ⟨link, _, hlink, hsending⟩

theorem preparation_of_reachable_leave :
    Reachable .usual linked ∧ AreOptions .null [] ∧
      (linked.prepareLoose (.arr [leaveMessage]) .null (.str "") ⟨2026, 3, 7⟩
        (.always .lost)).requests ≠ [] ∧
      ∃ text new,
        (linked.augment "leave" "" (.always .lost)).result.Introduces ⟨2026, 3, 7⟩ text ∧
        LeadsMessages (text ++ queryMark) (.arr [leaveMessage]) new ∧
        (linked.prepareLoose (.arr [leaveMessage]) .null (.str "") ⟨2026, 3, 7⟩
          (.always .lost)).result =
            .ok ⟨new, some (linked.augment "leave" "" (.always .lost)).result⟩ := by
  have hgate : (shouldAugment (.arr [leaveMessage]) []).value = true := by decide
  have hquery : lastQuery (.arr [leaveMessage]) = "leave" := by decide
  obtain ⟨-, hopen, -, -, current, hcurrent, hsent⟩ :=
    preparation_of_reachable reachable_linked .none (.arr [leaveMessage]) "" ⟨2026, 3, 7⟩
      (.always .lost)
  obtain ⟨-, hresult, -⟩ := hopen hgate
  obtain ⟨text, new, htext, hleads, hnew⟩ := hresult (by decide)
  obtain rfl := Settings.values_injective (hcurrent.symm.trans settings_linked)
  rw [hquery] at htext hnew hsent
  refine ⟨reachable_linked, .none, hsent.2 ⟨hgate, rfl, by decide, ?_, exists_url_linked⟩, text, new,
    htext, hleads, hnew⟩
  exact ⟨by decide +kernel, by decide, by decide⟩

/-- Gate, switch, link and query are in order, and still nothing is sent for a session that has no
encoding. -/
theorem not_asked_torn :
    Reachable .usual linked ∧ (shouldAugment (.arr [leaveMessage]) []).value = true ∧
      linked.settings.isEnabled = true ∧ linked.link ≠ none ∧
      lastQuery (.arr [leaveMessage]) ≠ "" ∧
      (linked.prepareLoose (.arr [leaveMessage]) .null (.str Text.loneHalf) ⟨2026, 3, 7⟩
        (.always .lost)).requests = [] := by
  have hgate : (shouldAugment (.arr [leaveMessage]) []).value = true := by decide
  refine ⟨reachable_linked, hgate, by decide +kernel, by decide +kernel, by decide, ?_⟩
  rw [prepareLoose_of_augmented .none hgate]
  dsimp only
  by_contra hsent
  obtain ⟨-, -, hsend, -⟩ :=
    (augment_requests_ne_nil_iff (Settings.valid_default _ _) settings_linked _ _ _).1 hsent
  exact Bool.false_ne_true (Text.isWhole_loneHalf.symm.trans hsend.session)

end Gateway

end Grounding
