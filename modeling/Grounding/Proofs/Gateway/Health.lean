import Grounding.Proofs.Gateway.Change
import Grounding.Proofs.Json.Grammar

/-!
# When a service is healthy

The health of a service is what its report says and nothing else: a flag that is true, under the last name
"ready" of an object, in an answer that arrived in good order.  Whatever else may come back is no health.
-/

namespace Grounding

theorem isReady_eq_true_iff {report : Json} :
    isReady report = true ↔
      ∃ members, report = .obj members ∧ Json.lookup "ready" members = some (.bool true) := by
  unfold isReady
  constructor
  · intro h
    split at h
    · next ready hready =>
      subst h
      cases report with
      | obj members => exact ⟨members, rfl, hready⟩
      | _ => contradiction
    · contradiction
  · rintro ⟨members, rfl, hready⟩
    rw [Json.get?, hready]

theorem Answer.value?_eq_some_iff {limits : Json.Limits} {answer : Answer} {report : Json} :
    answer.value? limits = some report ↔
      ∃ body, answer = .arrived 200 body ∧ Json.decodeWithin limits body = .ok report := by
  cases answer with
  | lost => simp [value?]
  | broken detail => simp [value?]
  | arrived status body =>
      unfold value?
      dsimp only
      split_ifs with hstatus
      · simp [hstatus]
      · obtain rfl : status = 200 := not_not.1 hstatus
        simp only [arrived.injEq, true_and, exists_eq_left']
        cases Json.decodeWithin limits body with
        | error fault => simp [Except.toOption]
        | ok value => simp [Except.toOption]

/-- What the text of a body is read as. -/
theorem Json.decodeWithin_eq_ok_iff {limits : Limits} {body : List UInt8} {v : Json} :
    decodeWithin limits body = .ok v ↔
      ∃ text, bodyText body = .ok text ∧ Reads limits text (.value v) := by
  unfold decodeWithin
  cases bodyText body with
  | error fault => simp
  | ok text => simp [decodeText_eq_ok_iff]

namespace Answer

/-- The answer arrived with status 200, and its body is an object whose last member "ready" is true. -/
def ReportsReady (limits : Json.Limits) (answer : Answer) : Prop :=
  ∃ body text written, answer = .arrived 200 body ∧ Json.bodyText body = .ok text ∧
    Json.Reads limits text (.object written) ∧ Json.IsLast "ready" (.bool true) written

theorem reportsReady_iff {limits : Json.Limits} {answer : Answer} :
    answer.ReportsReady limits ↔ ((answer.value? limits).map isReady).getD false = true := by
  constructor
  · rintro ⟨body, text, written, hanswer, htext, hreads, hlast⟩
    have hvalue : answer.value? limits = some (.obj (Json.settle written)) := by
      rw [value?_eq_some_iff]
      refine ⟨body, hanswer, Json.decodeWithin_eq_ok_iff.2 ⟨text, htext, ?_⟩⟩
      exact Json.reads_obj_iff.2 ⟨written, hreads, rfl⟩
    rw [hvalue, Option.map_some, Option.getD_some, isReady_eq_true_iff]
    exact ⟨_, rfl, Json.lookup_settle_eq_some_iff.2 hlast⟩
  · intro h
    cases hvalue : answer.value? limits with
    | none =>
        rw [hvalue] at h
        contradiction
    | some report =>
        rw [hvalue, Option.map_some, Option.getD_some, isReady_eq_true_iff] at h
        obtain ⟨members, rfl, hready⟩ := h
        obtain ⟨body, hanswer, hdecode⟩ := value?_eq_some_iff.1 hvalue
        obtain ⟨text, htext, hreads⟩ := Json.decodeWithin_eq_ok_iff.1 hdecode
        obtain ⟨written, hobject, rfl⟩ := Json.reads_obj_iff.1 hreads
        exact ⟨body, text, written, hanswer, htext, hobject, Json.lookup_settle_eq_some_iff.1 hready⟩

/-- Of two members the last one counts, and a number is no flag. -/
example :
    ((arrived 200 "\x7b\"ready\": 1, \"ready\": true\x7d".toUTF8.toList).value? (.within 2)).map
        isReady = some true ∧
      ((arrived 200 "\x7b\"ready\": true, \"ready\": 1\x7d".toUTF8.toList).value? (.within 2)).map
        isReady = some false := by
  decide +kernel

end Answer

namespace Gateway

/-- A look at the health leaves every gateway as it is, and whatever the service does it says that the
service is healthy exactly if the gateway is switched on and has a link that a request can be made for, and
the answer reports that the service is ready. -/
theorem isHealthy_iff (g : Gateway) (service : Service) :
    (g.isHealthy service).gateway = g ∧
    ((g.isHealthy service).result = true ↔
      g.settings.isEnabled = true ∧
      (∃ link request, g.link = some link ∧ link.healthRequest = .ok request) ∧
      service.health.answer.ReportsReady service.room.answerLimits) := by
  refine ⟨isHealthy_gateway g service, ?_⟩
  rw [Answer.reportsReady_iff]
  unfold isHealthy
  cases henabled : g.settings.isEnabled with
  | false => simp [still]
  | true =>
      cases hlink : g.link with
      | none => simp [still]
      | some link =>
          cases hrequest : link.healthRequest with
          | error detail => simp [still, hrequest]
          | ok request => simp [hrequest]

end Gateway

end Grounding
