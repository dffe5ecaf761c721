import Grounding.Proofs.Gateway.LinkHistory
import Grounding.Proofs.Gateway.Requests
import Grounding.Proofs.Network.Resolution

/-!
# The traffic of a run

What is asked comes from the settings in force, but it goes to where the link leads, and the link may be
much older.  Because the link of an enabled gateway always agrees with its host and port, the traffic of a
run can be told from the settings alone: method, URL and body of every request, and when there is none.
-/

namespace Grounding

/-- What a request says, whichever client sends it. -/
def Request.content (r : Request) : Method × String × Option Json := (r.method, r.url, r.body)

/-! ## What an operation is worth -/

/-- A request with a method and a body, if there is a URL for it. -/
def Sending.contents (method : Method) (body : Option Json) :
    Sending → List (Method × String × Option Json)
  | .url target => [(method, target, body)]
  | .fails _ => []

/-- The question that a query is worth, if it is not empty and can be sent. -/
def Settings.question (s : Settings) (binding : Binding) (query session : String) :
    List (Method × String × Option Json) :=
  if query ≠ "" ∧ s.CanSend query session then
    binding.augment.contents .post (some (s.questionBody query session))
  else []

/-- What an operation makes an enabled gateway with a link send. -/
def Operation.traffic (s : Settings) (binding : Binding) :
    Operation → List (Method × String × Option Json)
  | .augment query session _ => s.question binding query session
  | .prepare messages options session _ _ =>
    if (Conversation.shouldAugment messages options).value then
      s.question binding (Conversation.lastQuery messages) session
    else []
  | .checkHealth _ => binding.health.contents .get none
  | .update _ | .close | .readSettings => []

theorem Link.content_augmentRequest (link : Link) (body : Json) :
    (link.augmentRequest body).toOption.toList.map Request.content =
      if body.sendFault? = none then link.client.binding.augment.contents .post (some body)
      else [] := by
  unfold augmentRequest
  cases link.client.binding.augment with
  | fails detail => simp [Except.toOption, Sending.contents]
  | url url => cases body.sendFault? <;> rfl

theorem Link.content_healthRequest (link : Link) :
    link.healthRequest.toOption.toList.map Request.content =
      link.client.binding.health.contents .get none := by
  unfold healthRequest
  cases link.client.binding.health with
  | fails detail => simp [Except.toOption, Sending.contents]
  | url url => rfl

namespace Gateway

variable {platform : Platform} {g : Gateway} {s : Settings} {link : Link}

/-- A linked gateway asks the question of settings whose values it puts into the body. -/
theorem content_augmentFor (hs : s.Valid) (hon : g.settings.isEnabled = true)
    (hlink : g.link = some link) {query session : String}
    (hbody : augmentBody g.settings (.str query) (.str session) = s.questionBody query session)
    (service : Service) :
    (g.augmentFor (.str session) query service).requests.map Request.content =
      s.question link.client.binding query session := by
  rw [augmentFor_requests hon hlink, hbody, Settings.question]
  by_cases hquery : query = ""
  · simp [hquery]
  · rw [if_neg hquery, Link.content_augmentRequest]
    simp only [Settings.sendFault?_questionBody hs, ne_eq, hquery, not_false_eq_true, true_and]

theorem content_step (hs : s.Valid) (hg : g.settings = s.values) (hon : s.enabled = true)
    (hlink : g.link = some link) (op : Operation) :
    (Session.step g op).requests.map Request.content = op.traffic s link.client.binding := by
  have henabled : g.settings.isEnabled = true := by rw [hg, Settings.isEnabled_values, hon]
  have hbody (query session : String) :
      augmentBody g.settings (.str query) (.str session) = s.questionBody query session := by
    rw [hg, Settings.augmentBody_values]
  cases op with
  | update new => simp [Session.step, Operation.traffic]
  | close => rfl
  | readSettings => rfl
  | augment query session service => exact content_augmentFor hs henabled hlink (hbody _ _) service
  | checkHealth service =>
      rw [Session.step, Session.ofOutcome, isHealthy_requests henabled hlink]
      exact link.content_healthRequest
  | prepare messages options session today service =>
      rw [Session.step, Session.ofOutcome, prepare, prepareFor, Operation.traffic]
      dsimp only
      split_ifs
      · exact content_augmentFor hs henabled hlink (hbody _ _) service
      · rfl

/-- While no settings enable the gateway, no step sends anything. -/
theorem requests_run_of_disabled {ops : List Operation} (hoff : g.settings.isEnabled = false)
    (hops : ∀ new, .update new ∈ ops → new.isEnabled = false) :
    ∀ after ∈ Session.run g ops, after.requests = [] := by
  induction ops generalizing g with
  | nil => simp [Session.run]
  | cons op rest ih =>
      have hrest : ∀ new, .update new ∈ rest → new.isEnabled = false :=
        fun new hnew => hops new (List.mem_cons_of_mem op hnew)
      intro after hafter
      rcases List.mem_cons.1 hafter with rfl | hafter
      · exact step_requests_of_disabled hoff op
      · rcases step_gateway g op with ⟨new, rfl, h⟩ | ⟨rfl, h⟩ | ⟨-, h⟩
        · exact ih (by rw [h, update_settings]; exact hops new (by simp)) hrest after hafter
        · exact ih (by rw [h]; exact hoff) hrest after hafter
        · exact ih (by rw [h]; exact hoff) hrest after hafter

/-- The link of an enabled gateway is bound to the URL of the settings in force. -/
theorem FollowsHistory.binding?_eq {past : List LinkEvent} (hg : FollowsHistory platform g past)
    (hsettings : g.settings = s.values) (hon : s.enabled = true) (hlink : g.link = some link) :
    s.binding? platform = some link.client.binding := by
  have henabled : g.settings.isEnabled = true := by rw [hsettings, Settings.isEnabled_values, hon]
  obtain ⟨built, hvalid, -, hhost, hport, number, hbuild⟩ := hg.link_current henabled hlink
  rw [hsettings] at hhost hport
  rw [← Settings.binding?_congr (Json.str.inj hhost) (Json.int.inj hport),
    Link.binding?_of_build hvalid hbuild]

/-- In a run in which nothing fails, each step sends what its operation is worth under the settings in
force if they are enabled and there is a link, and nothing otherwise.  The requests go to the URL of host
and port in force; for a plain host that is the base URL with their path behind it.  Nothing at all is sent
from settings that disable the gateway up to the next ones that enable it. -/
theorem traffic_of_run {ops : List Operation} (h : Session.Sound platform s ops) :
    (∀ i op, ops[i]? = some op → ∃ (current : Settings) (after : Session),
      (Session.final platform s (ops.take i)).settings = current.values ∧
      (Session.run (create platform s.values).2.1 ops)[i]? = some after ∧
      (current.enabled = false ∨ (Session.final platform s (ops.take i)).link = none →
        after.requests = []) ∧
      (current.enabled = true → (Session.final platform s (ops.take i)).link ≠ none →
        ∃ binding, current.binding? platform = some binding ∧
          (Endpoint.IsPlain current.host →
            ∃ base, current.base? platform.tls = some base ∧ binding.SendsTo base) ∧
          after.requests.map Request.content = op.traffic current binding)) ∧
    ∀ before off between rest, ops = before ++ .update off :: between ++ rest →
      off.isEnabled = false → (∀ new, .update new ∈ between → new.isEnabled = false) →
      ∀ after ∈ Session.run (Session.final platform s (before ++ [.update off])) between,
        after.requests = [] := by
  constructor
  · intro i op hop
    have hfollows := followsHistory_of_sound (h.take i)
    obtain ⟨current, hvalid, hcurrent⟩ := hfollows.settings
    have hrun : (Session.run (create platform s.values).2.1 ops)[i]? =
        some (Session.step (Session.final platform s (ops.take i)) op) := by
      rw [Session.run_getElem?, hop, Option.map_some, Session.final]
    refine ⟨current, _, hcurrent, hrun, ?_, ?_⟩
    · rintro (hoff | hlink)
      · refine step_requests_of_disabled ?_ op
        rw [hcurrent, Settings.isEnabled_values, hoff]
      · exact step_requests_of_unlinked hlink op
    · intro hon hlink
      obtain ⟨link, hlink⟩ := Option.ne_none_iff_exists'.1 hlink
      have hbinding := hfollows.binding?_eq hcurrent hon hlink
      exact ⟨link.client.binding, hbinding, fun hplain => Settings.sendsTo_base hplain hbinding,
        content_step hvalid hcurrent hon hlink op⟩
  · rintro before off between rest - hoff hbetween
    refine requests_run_of_disabled ?_ hbetween
    rw [Session.final, Session.last_append, Session.last_cons, Session.last_nil, Session.step,
      Session.ofChange_gateway, update_settings, hoff]

/-- A service that never answers. -/
def deaf : Service := .always .lost

/-- A question while the gateway is off, and one after it was enabled again for another host. -/
def errand : List Operation :=
  [.update { enabled := false : Settings }.values, .augment "leave" "" deaf,
    .update { host := "[::1]", enabled := true : Settings }.values, .augment "leave" "s-9" deaf]

theorem sound_errand : Session.Sound .usual { enabled := true } errand := by
  have hnear : Endpoint.IsPlain "localhost" ∧ Endpoint.ownPort? "localhost" = none := by
    decide +kernel
  have hfar : Endpoint.IsPlain "[::1]" ∧ Endpoint.ownPort? "[::1]" = none := by decide +kernel
  refine Session.sound_of_linkable (Settings.valid_default _ _)
    (Settings.not_unlinkable_default true hnear.1 hnear.2) ?_
  simp only [errand, List.forall_mem_cons]
  exact ⟨Operation.isLinkable_default _ hnear.1 hnear.2, trivial,
    Operation.isLinkable_default _ hfar.1 hfar.2, trivial, by simp⟩

theorem traffic_of_run_errand :
    Session.Sound .usual { enabled := true } errand ∧
      (∃ after,
        (Session.run (create .usual { enabled := true : Settings }.values).2.1 errand)[3]? =
          some after ∧
        after.requests.map Request.content =
          [(.post, "http://[::1]:8001/api/v1/llama/augment",
            some ({ host := "[::1]", enabled := true : Settings }.questionBody "leave" "s-9"))]) ∧
      ∀ after ∈ Session.run (Session.final .usual { enabled := true } (errand.take 1))
        [.augment "leave" "" deaf], after.requests = [] := by
  obtain ⟨hsteps, hquiet⟩ := traffic_of_run sound_errand
  refine ⟨sound_errand, ?_, hquiet [] _ _ _ rfl rfl (by simp)⟩
  obtain ⟨current, after, hcurrent, hafter, -, hsent⟩ := hsteps 3 _ rfl
  have hlast : (Session.final .usual { enabled := true } (errand.take 3)).settings =
      { host := "[::1]", enabled := true : Settings }.values := by
    simp [Session.final, errand, Session.step, Session.ofChange_gateway]
  obtain rfl := Settings.values_injective (hcurrent.symm.trans hlast)
  obtain ⟨binding, -, hplain, hcontent⟩ := hsent rfl (by decide +kernel)
  obtain ⟨base, hbase, hsends⟩ := hplain (by decide +kernel)
  have hresolved : ({ host := "[::1]", enabled := true } : Settings).base? true =
      some "http://[::1]:8001" := by
    decide +kernel
  obtain rfl := Option.some.inj (hresolved.symm.trans hbase)
  have hcan : ({ host := "[::1]", enabled := true } : Settings).CanSend "leave" "s-9" := by
    decide +kernel
  have hurl : "http://[::1]:8001" ++ augmentPath = "http://[::1]:8001/api/v1/llama/augment" := by
    decide
  refine ⟨after, hafter, ?_⟩
  rw [hcontent, Operation.traffic, Settings.question, if_pos ⟨by decide, hcan⟩,
    hsends.augment (by decide), hurl, Sending.contents]

/-- A gateway that is enabled and linked sends nothing for a query that has no encoding. -/
theorem not_asked_loneHalf :
    Session.Sound .usual { enabled := true } [.augment Text.loneHalf "" deaf] ∧
      Text.loneHalf ≠ "" ∧ (Session.final .usual { enabled := true } []).link ≠ none ∧
      ∀ after ∈ Session.run (create .usual { enabled := true : Settings }.values).2.1
        [.augment Text.loneHalf "" deaf], after.requests = [] := by
  have hsound : Session.Sound .usual { enabled := true } [.augment Text.loneHalf "" deaf] :=
    Session.sound_of_linkable (Settings.valid_default _ _)
      (Settings.not_unlinkable_default true (by decide +kernel) (by decide +kernel))
      (by simp [Operation.IsLinkable])
  refine ⟨hsound, by decide, by decide +kernel, ?_⟩
  intro after hafter
  obtain rfl := List.mem_singleton.1 hafter
  obtain ⟨link, hlink⟩ : ∃ link, (create .usual { enabled := true : Settings }.values).2.1.link =
      some link := Option.ne_none_iff_exists'.1 (by decide +kernel)
  have hcontent := content_step (Settings.valid_default _ _) (create_settings .usual _) rfl hlink
    (.augment Text.loneHalf "" deaf)
  have hcannot : ¬ ({ enabled := true } : Settings).CanSend Text.loneHalf "" := fun hcan =>
    Bool.false_ne_true (Text.isWhole_loneHalf.symm.trans hcan.query)
  rw [Operation.traffic, Settings.question, if_neg fun hsends => hcannot hsends.2,
    List.map_eq_nil_iff] at hcontent
  exact hcontent

end Gateway

end Grounding
