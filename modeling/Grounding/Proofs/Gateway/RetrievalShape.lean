import Grounding.Gateway.Loose
import Grounding.Proofs.Gateway.Change

/-!
# The shape of what asking returns

Asking for context always returns a record, and the record says either that something was found or why
nothing was: there is no third kind, and none that says both.
-/

namespace Grounding

theorem RefusalKind.name_injective {a b : RefusalKind} (h : a.name = b.name) : a = b := by
  revert h
  cases a <;> cases b <;> decide

namespace Retrieval

/-- The record of a success. -/
structure Succeeded (r : Retrieval) : Prop where
  success : r.toJson.get? "success" = some (.bool true)
  kind : r.toJson.get? "error_kind" = some .null
  message : r.toJson.get? "error_message" = some (.str "")

/-- The record of a refusal: it says why, and everything that could have been found is empty. -/
structure Refused (r : Retrieval) (kind : RefusalKind) : Prop where
  success : r.toJson.get? "success" = some (.bool false)
  kind : r.toJson.get? "error_kind" = some (.str kind.name)
  message : ∃ text, r.toJson.get? "error_message" = some (.str text) ∧ text ≠ ""
  context : r.toJson.get? "augmented_context" = some (.str "")
  passages : r.toJson.get? "chunks" = some (.arr [])
  tools : r.toJson.get? "suggested_tools" = some (.arr [])
  serviceLatency : r.toJson.get? "service_latency_ms" = some (.real .zero)

variable {r : Retrieval}

theorem get?_latency (r : Retrieval) : r.toJson.get? "latency_ms" = some (.real r.latency) := by
  simp [toJson, Json.get?, Json.lookup]

theorem succeeded_of_ok {findings : Findings} (h : r.outcome = .ok findings) : r.Succeeded := by
  constructor <;> simp [toJson, Json.get?, Json.lookup, h]

theorem refused_of_error (refusal : Refusal) (h : r.outcome = .error refusal)
    (hmessage : refusal.message ≠ "") : r.Refused refusal.kind := by
  constructor <;> simp [toJson, Json.get?, Json.lookup, h, hmessage]

/-- A record gives one reason only. -/
theorem Refused.refused_iff {a b : RefusalKind} (ha : r.Refused a) : r.Refused b ↔ a = b := by
  constructor
  · intro hb
    have hname := ha.kind.symm.trans hb.kind
    exact RefusalKind.name_injective (Json.str.inj (Option.some.inj hname))
  · rintro rfl
    exact ha

theorem Succeeded.not_refused {kind : RefusalKind} (h : r.Succeeded) : ¬ r.Refused kind := by
  intro hrefused
  have hflag := h.success.symm.trans hrefused.success
  simp at hflag

theorem succeeded_iff : r.Succeeded ↔ ∃ found, r.outcome = .ok found := by
  constructor
  · intro h
    have hflag := h.success
    cases hout : r.outcome with
    | ok found => exact ⟨found, rfl⟩
    | error refusal => simp [toJson, Json.get?, Json.lookup, hout] at hflag
  · rintro ⟨found, hout⟩
    exact succeeded_of_ok hout

end Retrieval

/-! ## Outcomes -/

theorem Refusal.parse_message_ne (detail : String) : (parse detail).message ≠ "" := by
  simp [parse]

/-- An answer is found to be useful, lost on the way or not understood. -/
theorem Answer.findings_cases (limits : Json.Limits) (answer : Answer) :
    (∃ found, (answer.findings limits).value = .ok found) ∨
      (answer.findings limits).value = .error .transport ∨
      ∃ detail, (answer.findings limits).value = .error (.parse detail) := by
  cases answer with
  | lost => exact .inr (.inl rfl)
  | broken detail => exact .inr (.inr ⟨detail, rfl⟩)
  | arrived status body =>
      unfold findings
      dsimp only
      split_ifs
      · exact .inr (.inl rfl)
      · split
        · exact .inr (.inr ⟨_, rfl⟩)
        · exact .inr (.inl rfl)
        · exact .inr (.inl rfl)
        · split
          · exact .inr (.inr ⟨_, rfl⟩)
          · exact .inl ⟨_, rfl⟩

namespace Gateway

theorem ask_outcome_cases (g : Gateway) (body : Json) (service : Service) :
    (∃ found, (g.ask body service).result.outcome = .ok found) ∨
      (g.ask body service).result.outcome = .error .transport ∨
      ∃ detail, (g.ask body service).result.outcome = .error (.parse detail) := by
  unfold ask
  split
  · exact .inr (.inl rfl)
  · split
    · exact .inr (.inr ⟨_, rfl⟩)
    · exact Answer.findings_cases _ service.augment.answer

/-- The latency is measured from the call to the end of the answer. -/
theorem ask_latency (g : Gateway) (body : Json) (service : Service) :
    (g.ask body service).result.latency =
      elapsedMillis service.clock (g.ask body service).clock := by
  unfold ask
  split
  · rfl
  · split <;> rfl

/-- Asking the service gives findings, or a refusal for one of the two reasons that lie with it. -/
theorem ask_shape (g : Gateway) (body : Json) (service : Service) :
    (g.ask body service).result.Succeeded ∨ (g.ask body service).result.Refused .transport ∨
      (g.ask body service).result.Refused .parse := by
  rcases ask_outcome_cases g body service with ⟨found, h⟩ | h | ⟨detail, h⟩
  · exact .inl (Retrieval.succeeded_of_ok h)
  · exact .inr (.inl (Retrieval.refused_of_error .transport h (by decide)))
  · exact .inr (.inr (Retrieval.refused_of_error _ h (Refusal.parse_message_ne detail)))

theorem ask_refused {g : Gateway} {body : Json} {service : Service} {kind : RefusalKind}
    (h : (g.ask body service).result.Refused kind) : kind = .transport ∨ kind = .parse := by
  rcases ask_shape g body service with hok | htransport | hparse
  · exact absurd h hok.not_refused
  · exact .inl (htransport.refused_iff.1 h).symm
  · exact .inr (hparse.refused_iff.1 h).symm

theorem augmentLoose_text (g : Gateway) (query : String) (session : Json) (service : Service) :
    g.augmentLoose (.str query) session service =
      answered (g.augmentFor session query service) := by
  unfold augmentLoose
  by_cases hnothing : (Json.str query).isNothing = true
  · have hquery : query = "" := by simpa [Json.isNothing] using hnothing
    rw [if_pos hnothing, hquery]
  · rw [if_neg hnothing]

/-- The three ways in which asking goes, by switch and query. -/
theorem augmentFor_cases (g : Gateway) (session : Json) (query : String) (service : Service) :
    (g.settings.isEnabled = false ∧
      g.augmentFor session query service = g.still service ⟨.zero, .error .disabled⟩ 0) ∨
    (g.settings.isEnabled = true ∧ query = "" ∧
      g.augmentFor session query service = g.still service ⟨.zero, .error .emptyQuery⟩ 0) ∨
    (g.settings.isEnabled = true ∧ query ≠ "" ∧
      g.augmentFor session query service =
        g.ask (augmentBody g.settings (.str query) session) service) := by
  unfold augmentFor
  cases g.settings.isEnabled with
  | false => exact .inl ⟨rfl, rfl⟩
  | true =>
      by_cases hquery : query = ""
      · exact .inr (.inl ⟨rfl, hquery, by simp [hquery]⟩)
      · exact .inr (.inr ⟨rfl, hquery, by simp [hquery]⟩)

end Gateway

end Grounding
