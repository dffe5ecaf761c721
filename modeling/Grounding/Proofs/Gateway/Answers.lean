import Grounding.Json.Written
import Grounding.Proofs.Gateway.FailedChange
import Grounding.Proofs.Gateway.Requests
import Grounding.Proofs.Gateway.RetrievalShape
import Grounding.Proofs.Json.MoreRoom

/-!
# How an exchange is reported

A body with an object is read into findings and a body with another value is reported as not understood,
except for `null`, which is taken for no answer at all.  An exchange that fails is reported as a matter
of transport, except where the fault is of a kind that the exchange does not expect; then it is reported
as not understood, although nothing was there to be understood.
-/

namespace Grounding

/-! ## Records of a refusal -/

namespace Retrieval

/-- The record of this refusal, with its message. -/
def Reports (r : Retrieval) (refusal : Refusal) : Prop :=
  r.Refused refusal.kind ∧ r.toJson.get? "error_message" = some (.str refusal.message)

variable {r : Retrieval} {refusal : Refusal}

theorem reports_of_error (h : r.outcome = .error refusal) (hmessage : refusal.message ≠ "") :
    r.Reports refusal :=
  ⟨refused_of_error refusal h hmessage, by simp [toJson, Json.get?, Json.lookup, h]⟩

theorem reports_transport (h : r.outcome = .error .transport) : r.Reports .transport :=
  reports_of_error h (by decide)

theorem reports_parse {detail : String} (h : r.outcome = .error (.parse detail)) :
    r.Reports (.parse detail) :=
  reports_of_error h (Refusal.parse_message_ne detail)

/-- What is reported as lost is not reported as misunderstood. -/
theorem Reports.not_parse (h : r.Reports .transport) : ¬ r.Refused .parse := by
  intro hparse
  have hkind := h.1.refused_iff.1 hparse
  contradiction

/-- The record of a value that was read: what an object holds, or why anything else is of no use. -/
def ReadsShape (r : Retrieval) (v : Json) : Prop :=
  match Findings.ofJson v with
  | .ok found => r.Succeeded ∧ r.outcome = .ok found.value
  | .error shape => r.Reports (.parse shape.message)

/-- What is reported as lost was not read, not even as a value of the wrong shape. -/
theorem Reports.not_readsShape (h : r.Reports .transport) (v : Json) : ¬ r.ReadsShape v := by
  unfold ReadsShape
  cases Findings.ofJson v with
  | ok found =>
      rintro ⟨hok, -⟩
      exact hok.not_refused h.1
  | error shape =>
      rintro ⟨hparse, -⟩
      exact h.not_parse hparse

end Retrieval

/-! ## Answers -/

/-- A body is JSON if it holds a value for a reader with high enough limits. -/
def Json.IsText (body : List UInt8) : Prop := ∃ limits v, decodeWithin limits body = .ok v

namespace Answer

/-- No answer, or one that is not both successful and JSON. -/
inductive IsUnusable : Answer → Prop
  | lost : IsUnusable .lost
  | broken (detail : String) : IsUnusable (.broken detail)
  | status {status : Int} (body : List UInt8) (h : status ≠ 200) : IsUnusable (.arrived status body)
  | body {body : List UInt8} (h : ¬ Json.IsText body) : IsUnusable (.arrived 200 body)

/-- The faults that the exchange does not expect: an unknown one while asking, and a body that nests too
deep for the reader. -/
inductive IsMisread (limits : Json.Limits) : Answer → Prop
  | broken (detail : String) : IsMisread limits (.broken detail)
  | tooDeep {body : List UInt8} {container : Json.Container}
      (h : Json.decodeWithin limits body = .error (.tooDeep container)) :
      IsMisread limits (.arrived 200 body)

/-- No body that nests too deep for the reader. -/
def Fits (limits : Json.Limits) (answer : Answer) : Prop :=
  ∀ status body, answer = .arrived status body →
    ∀ container, Json.decodeWithin limits body ≠ .error (.tooDeep container)

/-- A value that is neither an object nor nothing. -/
def HoldsWrongShape (limits : Json.Limits) (body : List UInt8) : Prop :=
  ∃ v shape, Json.decodeWithin limits body = .ok v ∧ v ≠ .null ∧ Findings.ofJson v = .error shape

variable {limits : Json.Limits} {body : List UInt8} {v : Json} {fault : Json.Fault}

theorem findings_of_status {status : Int} (body : List UInt8) (h : status ≠ 200) :
    ((arrived status body).findings limits).value = .error .transport := by
  simp [findings, h]

theorem findings_of_tooDeep {container : Json.Container}
    (h : Json.decodeWithin limits body = .error (.tooDeep container)) :
    ((arrived 200 body).findings limits).value =
      .error (.parse ((Json.Fault.tooDeep container).message [])) := by
  simp [findings, h]

/-- Every fault of a body but one is a matter of transport. -/
theorem findings_of_fault (h : Json.decodeWithin limits body = .error fault)
    (hdeep : ∀ container, fault ≠ .tooDeep container) :
    ((arrived 200 body).findings limits).value = .error .transport := by
  cases fault with
  | tooDeep container => exact absurd rfl (hdeep container)
  | malformed cause offset => simp [findings, h]
  | tooManyDigits digits limit => simp [findings, h]
  | undecodable bytes => simp [findings, h]

theorem findings_of_null (h : Json.decodeWithin limits body = .ok .null) :
    ((arrived 200 body).findings limits).value = .error .transport := by
  simp [findings, h]

theorem findings_of_value (h : Json.decodeWithin limits body = .ok v) (hv : v ≠ .null) :
    ((arrived 200 body).findings limits).value =
      match Findings.ofJson v with
      | .ok found => .ok found.value
      | .error shape => .error (.parse shape.message) := by
  cases v with
  | null => exact absurd rfl hv
  | obj members => simp [findings, h, Findings.ofJson]
  | bool b => simp [findings, h, Findings.ofJson]
  | int n => simp [findings, h, Findings.ofJson]
  | real x => simp [findings, h, Findings.ofJson]
  | str s => simp [findings, h, Findings.ofJson]
  | arr items => simp [findings, h, Findings.ofJson]

theorem findings_of_unusable {answer : Answer} (h : answer.IsUnusable)
    (hmisread : ¬ answer.IsMisread limits) :
    (answer.findings limits).value = .error .transport := by
  cases h with
  | lost => rfl
  | broken detail => exact absurd (.broken detail) hmisread
  | status body hstatus => exact findings_of_status body hstatus
  | @body body htext =>
      cases hread : Json.decodeWithin limits body with
      | ok v => exact absurd ⟨limits, v, hread⟩ htext
      | error fault =>
          refine findings_of_fault hread ?_
          rintro container rfl
          exact hmisread (.tooDeep hread)

theorem findings_of_misread {answer : Answer} (h : answer.IsMisread limits) :
    ∃ detail, (answer.findings limits).value = .error (.parse detail) := by
  cases h with
  | broken detail => exact ⟨detail, rfl⟩
  | tooDeep hdeep => exact ⟨_, findings_of_tooDeep hdeep⟩

/-- An answer is not understood for one of two reasons: an unexpected fault, or a value of the wrong
shape. -/
theorem findings_parse_iff (answer : Answer) :
    (∃ detail, (answer.findings limits).value = .error (.parse detail)) ↔
      answer.IsMisread limits ∨
        ∃ body, answer = .arrived 200 body ∧ HoldsWrongShape limits body := by
  constructor
  · rintro ⟨detail, hparse⟩
    cases answer with
    | lost => simp [findings, Refusal.transport, Refusal.parse] at hparse
    | broken reason => exact .inl (.broken reason)
    | arrived status body =>
        have hnot : ((arrived status body).findings limits).value ≠ .error .transport := by
          simp [hparse, Refusal.transport, Refusal.parse]
        obtain rfl : status = 200 := by
          by_contra hstatus
          exact hnot (findings_of_status body hstatus)
        cases hread : Json.decodeWithin limits body with
        | error fault =>
            cases fault with
            | tooDeep container => exact .inl (.tooDeep hread)
            | _ => exact absurd (findings_of_fault hread (by simp)) hnot
        | ok v =>
            have hv : v ≠ .null := by
              rintro rfl
              exact hnot (findings_of_null hread)
            rw [findings_of_value hread hv] at hparse
            cases hshape : Findings.ofJson v with
            | ok found => simp [hshape] at hparse
            | error shape => exact .inr ⟨body, rfl, v, shape, hread, hv, hshape⟩
  · rintro (hmisread | ⟨body, rfl, v, shape, hread, hv, hshape⟩)
    · exact findings_of_misread hmisread
    · exact ⟨shape.message, by rw [findings_of_value hread hv, hshape]⟩

theorem exists_value_of_findings {answer : Answer} {found : Findings}
    (h : (answer.findings limits).value = .ok found) :
    ∃ body v noted, answer = .arrived 200 body ∧ Json.decodeWithin limits body = .ok v ∧
      v ≠ .null ∧ Findings.ofJson v = .ok noted ∧ noted.value = found := by
  cases answer with
  | lost => contradiction
  | broken reason => contradiction
  | arrived status body =>
      obtain rfl : status = 200 := by
        by_contra hstatus
        rw [findings_of_status body hstatus] at h
        contradiction
      cases hread : Json.decodeWithin limits body with
      | error fault =>
          cases fault with
          | tooDeep container =>
              rw [findings_of_tooDeep hread] at h
              contradiction
          | _ =>
              rw [findings_of_fault hread (by simp)] at h
              contradiction
      | ok v =>
          have hv : v ≠ .null := by
            rintro rfl
            rw [findings_of_null hread] at h
            contradiction
          rw [findings_of_value hread hv] at h
          cases hshape : Findings.ofJson v with
          | error shape =>
              rw [hshape] at h
              contradiction
          | ok noted =>
              rw [hshape] at h
              exact ⟨body, v, noted, rfl, hread, hv, hshape, Except.ok.inj h⟩

/-- What one reader finds in an answer every other finds, if the answer fits it. -/
theorem findings_of_fits {room other : Nat} {answer : Answer} {found : Findings}
    (h : (answer.findings (.within room)).value = .ok found) (hfits : answer.Fits (.within other)) :
    (answer.findings (.within other)).value = .ok found := by
  obtain ⟨body, v, noted, rfl, hread, hv, hshape, rfl⟩ := exists_value_of_findings h
  have hother : Json.decodeWithin (.within other) body = .ok v := by
    rcases Nat.le_total room other with hle | hle
    · rw [Json.decodeWithin_of_le hle (by simp [hread]), hread]
    · rw [← Json.decodeWithin_of_le hle (hfits 200 body rfl), hread]
  rw [findings_of_value hother hv, hshape]

end Answer

namespace Gateway

variable {g : Gateway} {query session : String} {service : Service} {body : List UInt8} {v : Json}

/-! ## Exchanges -/

/-- There is a link, but the request cannot be made for it. -/
def CannotAsk (g : Gateway) (body : Json) : Prop :=
  ∃ link detail, g.link = some link ∧ link.augmentRequest body = .error detail

/-- The ways in which asking goes, by link and body. -/
theorem ask_cases (g : Gateway) (body : Json) (service : Service) :
    (g.link = none ∧ ¬ g.CannotAsk body ∧ (g.ask body service).requests = [] ∧
      (g.ask body service).result.outcome = .error .transport) ∨
    (g.link ≠ none ∧ g.CannotAsk body ∧ (g.ask body service).requests = [] ∧
      ∃ detail, (g.ask body service).result.outcome = .error (.parse detail)) ∨
    (g.link ≠ none ∧ ¬ g.CannotAsk body ∧ (g.ask body service).requests ≠ [] ∧
      (g.ask body service).result.outcome =
        (service.augment.answer.findings service.room.answerLimits).value) := by
  unfold ask CannotAsk
  cases g.link with
  | none => exact .inl ⟨rfl, by simp, rfl, rfl⟩
  | some link =>
      cases hmade : link.augmentRequest body with
      | error detail =>
          exact .inr (.inl ⟨by simp, ⟨link, detail, rfl, hmade⟩, by simp [hmade, still], detail,
            by simp [hmade, still]⟩)
      | ok request => exact .inr (.inr ⟨by simp, by simp [hmade], by simp [hmade], by simp [hmade]⟩)

/-- Something is found if the question can be made and something is found in the answer. -/
theorem ask_outcome_eq_ok_iff {body : Json} {found : Findings} :
    (g.ask body service).result.outcome = .ok found ↔
      ∃ link request, g.link = some link ∧ link.augmentRequest body = .ok request ∧
        (service.augment.answer.findings service.room.answerLimits).value = .ok found := by
  unfold ask
  cases g.link with
  | none => simp [still]
  | some link => cases hmade : link.augmentRequest body <;> simp [hmade, still]

theorem augment_eq_ask (hon : g.settings.isEnabled = true) (hquery : query ≠ "") (session : String)
    (service : Service) :
    g.augment query session service =
      g.ask (augmentBody g.settings (.str query) (.str session)) service := by
  rcases augmentFor_cases g (.str session) query service with ⟨hoff, -⟩ | ⟨-, hempty, -⟩ | ⟨-, -, h⟩
  · rw [hon] at hoff
    contradiction
  · exact absurd hempty hquery
  · exact h

/-- The service was asked and gave this answer. -/
structure Replied (g : Gateway) (query session : String) (service : Service) (status : Int)
    (body : List UInt8) : Prop where
  asked : (g.augment query session service).requests ≠ []
  answer : service.augment.answer = .arrived status body

/-- Once the service was asked, the outcome is what its answer amounts to. -/
theorem Replied.outcome {status : Int} (h : g.Replied query session service status body) :
    (g.augment query session service).result.outcome =
      ((Answer.arrived status body).findings service.room.answerLimits).value := by
  rw [← h.answer]
  have hasked := h.asked
  unfold augment at hasked ⊢
  rcases augmentFor_cases g (.str session) query service with ⟨-, hstill⟩ | ⟨-, -, hstill⟩ |
    ⟨-, -, hask⟩
  · exact absurd (by rw [hstill]; rfl) hasked
  · exact absurd (by rw [hstill]; rfl) hasked
  -- only an answer is reported after a request
  · rw [hask] at hasked ⊢
    rcases ask_cases g (augmentBody g.settings (.str query) (.str session)) service with
      ⟨-, -, hnone, -⟩ | ⟨-, -, hnone, -⟩ | ⟨-, -, -, hout⟩
    · exact absurd hnone hasked
    · exact absurd hnone hasked
    · exact hout

/-! ## Answers that were read -/

theorem Replied.readsShape (h : g.Replied query session service 200 body)
    (hbody : Json.decodeWithin service.room.answerLimits body = .ok v) (hv : v ≠ .null) :
    (g.augment query session service).result.ReadsShape v := by
  have hout := h.outcome
  rw [Answer.findings_of_value hbody hv] at hout
  unfold Retrieval.ReadsShape
  cases hshape : Findings.ofJson v with
  | ok found =>
      rw [hshape] at hout
      exact ⟨Retrieval.succeeded_of_ok hout, hout⟩
  | error shape =>
      rw [hshape] at hout
      exact Retrieval.reports_parse hout

theorem Replied.reports_transport_of_null (h : g.Replied query session service 200 body)
    (hbody : Json.decodeWithin service.room.answerLimits body = .ok .null) :
    (g.augment query session service).result.Reports .transport := by
  have hout := h.outcome
  rw [Answer.findings_of_null hbody] at hout
  exact Retrieval.reports_transport hout

/-- A value that the service sends is read for what it is unless it is `null`, which is reported as if
no answer had come. -/
theorem readsShape_iff (h : g.Replied query session service 200 body)
    (hbody : Json.decodeWithin service.room.answerLimits body = .ok v) :
    ((g.augment query session service).result.ReadsShape v ↔ v ≠ .null) ∧
      (v = .null → (g.augment query session service).result.Reports .transport) := by
  refine ⟨⟨?_, h.readsShape hbody⟩, ?_⟩
  · rintro hread rfl
    exact (h.reports_transport_of_null hbody).not_readsShape .null hread
  · rintro rfl
    exact h.reports_transport_of_null hbody

theorem isEnabled_linked : linked.settings.isEnabled = true := by
  rw [settings_linked]
  rfl

theorem not_cannotAsk_linked :
    ¬ linked.CannotAsk (augmentBody linked.settings (.str "leave") (.str "")) := by
  have hmade : (linked.link.map fun link => (link.augmentRequest
      (augmentBody linked.settings (.str "leave") (.str ""))).isOk) = some true := by
    decide +kernel
  rintro ⟨link, detail, hlink, hfails⟩
  rw [hlink, Option.map_some, hfails] at hmade
  exact Bool.false_ne_true (Option.some.inj hmade)

theorem replied_linked (status : Int) (body : List UInt8) :
    linked.Replied "leave" "" (.always (.arrived status body)) status body := by
  refine ⟨?_, rfl⟩
  rw [augment_eq_ask isEnabled_linked (by decide)]
  rcases ask_cases linked (augmentBody linked.settings (.str "leave") (.str ""))
    (.always (.arrived status body)) with ⟨hlink, -⟩ | ⟨-, hcannot, -⟩ | ⟨-, -, hasked, -⟩
  · exact absurd hlink (by decide +kernel)
  · exact absurd hcannot not_cannotAsk_linked
  · exact hasked

theorem readsShape_iff_list :
    linked.Replied "leave" "" (.always (.arrived 200 (Json.arr []).bytes)) 200 (Json.arr []).bytes ∧
      Json.decodeWithin Room.usual.answerLimits (Json.arr []).bytes = .ok (.arr []) ∧
      (linked.augment "leave" "" (.always (.arrived 200 (Json.arr []).bytes))).result.ReadsShape
        (.arr []) := by
  have hbytes : (Json.arr []).bytes = [91, 93] := by decide +kernel
  have hbody : Json.decodeWithin Room.usual.answerLimits (Json.arr []).bytes = .ok (.arr []) := by
    rw [hbytes]
    rfl
  refine ⟨replied_linked _ _, hbody, ?_⟩
  exact (readsShape_iff (replied_linked _ _) hbody).1.2 (by simp)

theorem not_readsShape_null :
    linked.Replied "leave" "" (.always (.arrived 200 Json.null.bytes)) 200 Json.null.bytes ∧
      Json.decodeWithin Room.usual.answerLimits Json.null.bytes = .ok .null ∧
      ¬ (linked.augment "leave" "" (.always (.arrived 200 Json.null.bytes))).result.ReadsShape
        .null := by
  have hbytes : Json.null.bytes = [110, 117, 108, 108] := by decide +kernel
  have hbody : Json.decodeWithin Room.usual.answerLimits Json.null.bytes = .ok .null := by
    rw [hbytes]
    rfl
  refine ⟨replied_linked _ _, hbody, ?_⟩
  exact ((replied_linked _ _).reports_transport_of_null hbody).not_readsShape .null

/-! ## Exchanges that came to nothing -/

/-- The exchange came to nothing: there is no link, the request could not be made, or the answer is
unusable. -/
def Unusable (g : Gateway) (query session : String) (service : Service) : Prop :=
  g.link = none ∨ g.CannotAsk (augmentBody g.settings (.str query) (.str session)) ∨
    service.augment.answer.IsUnusable

/-- The exchange came to nothing by a fault that it does not expect. -/
def Misread (g : Gateway) (query session : String) (service : Service) : Prop :=
  g.link ≠ none ∧ (g.CannotAsk (augmentBody g.settings (.str query) (.str session)) ∨
    service.augment.answer.IsMisread service.room.answerLimits)

theorem ask_refused_parse_iff (g : Gateway) (body : Json) (service : Service) :
    (g.ask body service).result.Refused .parse ↔
      ∃ detail, (g.ask body service).result.outcome = .error (.parse detail) := by
  rcases ask_outcome_cases g body service with ⟨found, h⟩ | h | ⟨detail, h⟩
  · exact iff_of_false (Retrieval.succeeded_of_ok h).not_refused (by simp [h])
  · exact iff_of_false (Retrieval.reports_transport h).not_parse
      (by simp [h, Refusal.transport, Refusal.parse])
  · exact iff_of_true (Retrieval.reports_parse h).1 ⟨detail, h⟩

theorem reports_transport_iff_of_unusable (hon : g.settings.isEnabled = true) (hquery : query ≠ "")
    (h : g.Unusable query session service) :
    (g.augment query session service).result.Reports .transport ↔
      ¬ g.Misread query session service := by
  rw [augment_eq_ask hon hquery]
  rcases ask_cases g (augmentBody g.settings (.str query) (.str session)) service with
    ⟨hlink, -, -, hout⟩ | ⟨hlink, hcannot, -, detail, hout⟩ | ⟨hlink, hcan, -, hout⟩
  · exact iff_of_true (Retrieval.reports_transport hout) (fun hmisread => hmisread.1 hlink)
  · refine iff_of_false ?_ (not_not_intro ⟨hlink, .inl hcannot⟩)
    intro hlost
    exact hlost.not_parse (Retrieval.reports_parse hout).1
  -- the question was sent, so what remains depends on the answer alone
  · have hunusable : service.augment.answer.IsUnusable := by
      simpa [Unusable, hlink, hcan] using h
    have hmisread : g.Misread query session service ↔
        service.augment.answer.IsMisread service.room.answerLimits := by
      simp [Misread, hlink, hcan]
    rw [hmisread]
    constructor
    · intro hlost hmis
      obtain ⟨detail, hparse⟩ := Answer.findings_of_misread hmis
      exact hlost.not_parse (Retrieval.reports_parse (hout.trans hparse)).1
    · intro hmis
      exact Retrieval.reports_transport (hout.trans (Answer.findings_of_unusable hunusable hmis))

theorem refused_parse_iff (hon : g.settings.isEnabled = true) (hquery : query ≠ "") :
    (g.augment query session service).result.Refused .parse ↔
      g.Misread query session service ∨
        ∃ body, g.Replied query session service 200 body ∧
          Answer.HoldsWrongShape service.room.answerLimits body := by
  have hask := augment_eq_ask hon hquery session service
  rw [hask, ask_refused_parse_iff]
  rcases ask_cases g (augmentBody g.settings (.str query) (.str session)) service with
    ⟨hlink, -, hnone, hout⟩ | ⟨hlink, hcannot, -, hout⟩ | ⟨hlink, hcan, hasked, hout⟩
  · refine iff_of_false (by simp [hout, Refusal.transport, Refusal.parse]) ?_
    rintro (⟨hlinked, -⟩ | ⟨body, hreplied, -⟩)
    · exact hlinked hlink
    · exact hreplied.asked (hask ▸ hnone)
  · exact iff_of_true hout (.inl ⟨hlink, .inl hcannot⟩)
  · rw [hout, Answer.findings_parse_iff]
    refine or_congr (by simp [Misread, hlink, hcan]) ?_
    constructor
    · rintro ⟨body, hanswer, hshape⟩
      exact ⟨body, ⟨hask ▸ hasked, hanswer⟩, hshape⟩
    · rintro ⟨body, hreplied, hshape⟩
      exact ⟨body, hreplied.answer, hshape⟩

/-- An exchange that came to nothing is reported as a matter of transport unless its fault is not
expected.  Such a fault and a value of the wrong shape are what is reported as not understood. -/
theorem failedExchange_reports (hon : g.settings.isEnabled = true) (hquery : query ≠ "") :
    (g.Unusable query session service →
      ((g.augment query session service).result.Reports .transport ↔
        ¬ g.Misread query session service)) ∧
    ((g.augment query session service).result.Refused .parse ↔
      g.Misread query session service ∨
        ∃ body, g.Replied query session service 200 body ∧
          Answer.HoldsWrongShape service.room.answerLimits body) :=
  ⟨reports_transport_iff_of_unusable hon hquery, refused_parse_iff hon hquery⟩

theorem failedExchange_reports_lost :
    linked.settings.isEnabled = true ∧ "leave" ≠ "" ∧ linked.Unusable "leave" "" (.always .lost) ∧
      (linked.augment "leave" "" (.always .lost)).result.Reports .transport := by
  have hunusable : linked.Unusable "leave" "" (.always .lost) := .inr (.inr .lost)
  refine ⟨isEnabled_linked, by decide, hunusable, ?_⟩
  have hquery : "leave" ≠ "" := by decide
  refine ((failedExchange_reports isEnabled_linked hquery).1 hunusable).2 ?_
  rintro ⟨-, hfault | hmisread⟩
  · exact not_cannotAsk_linked hfault
  · cases hmisread

theorem failedExchange_misread :
    linked.settings.isEnabled = true ∧ "leave" ≠ "" ∧
      linked.Unusable "leave" "" (.always (.broken "simulated failure")) ∧
      (linked.augment "leave" "" (.always (.broken "simulated failure"))).result.Refused .parse ∧
      ¬ (linked.augment "leave" "" (.always (.broken "simulated failure"))).result.Reports
        .transport := by
  have hmisread : linked.Misread "leave" "" (.always (.broken "simulated failure")) :=
    ⟨by decide +kernel, .inr (.broken _)⟩
  have hparse := (refused_parse_iff isEnabled_linked (by decide)).2 (.inl hmisread)
  exact ⟨isEnabled_linked, by decide, .inr (.inr (.broken _)), hparse,
    fun hlost => hlost.not_parse hparse⟩

end Gateway

end Grounding
