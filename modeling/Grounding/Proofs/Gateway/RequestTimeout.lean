import Grounding.Proofs.Gateway.LinkHistory
import Grounding.Proofs.Gateway.Requests
import Grounding.Proofs.Network.Resolution

/-!
# How long requests wait

A client keeps the timeout that it was opened with, and a change of the timeout alone opens no other
client.  A request waits therefore as long as the settings said when the link was last rebuilt, which need
not be what they say now.
-/

namespace Grounding

/-- Every request of a run waits as long as the settings in force say. -/
def Session.WaitsAsConfigured (platform : Platform) (s : Settings) (ops : List Operation) : Prop :=
  ∀ i after r, (run (Gateway.create platform s.values).2.1 ops)[i]? = some after →
    r ∈ after.requests → ∃ current : Settings,
      (final platform s (ops.take i)).settings = current.values ∧
      timeoutOfMillis current.timeoutMs = some r.timeout

namespace Gateway

variable {platform : Platform} {g : Gateway} {s : Settings} {ops : List Operation}

/-- In a run in which nothing fails, a request waits as long as those settings say for which the link was
last rebuilt.  They have the host and port of the settings in force, but not always their timeout. -/
theorem request_timeout_of_run (h : Session.Sound platform s ops) {i : Nat} {after : Session}
    {r : Request} (hafter : (Session.run (create platform s.values).2.1 ops)[i]? = some after)
    (hr : r ∈ after.requests) :
    ∃ (built current : Settings) (link : Link),
      (Session.final platform s (ops.take i)).settings = current.values ∧
      (Session.final platform s (ops.take i)).link = some link ∧
      LinkEvent.lastRebuild? (Session.record platform s (ops.take i)) =
        some (built.values, .ok link) ∧
      built.host = current.host ∧ built.port = current.port ∧
      timeoutOfMillis built.timeoutMs = some r.timeout := by
  have hfollows := followsHistory_of_sound (h.take i)
  obtain ⟨current, -, hcurrent⟩ := hfollows.settings
  rw [Session.run_getElem?, Option.map_eq_some_iff] at hafter
  obtain ⟨op, -, rfl⟩ := hafter
  obtain ⟨hon, link, hlink, -, htimeout⟩ := client_of_mem_step hr
  obtain ⟨built, hvalid, hlast, hhost, hport, number, hbuild⟩ := hfollows.link_current hon hlink
  rw [hcurrent] at hhost hport
  refine ⟨built, current, link, hcurrent, hlink, hlast, Json.str.inj hhost, Json.int.inj hport, ?_⟩
  rw [Link.timeout_of_build hvalid hbuild, htimeout]

/-- A shorter timeout, and then a question. -/
def hurry : List Operation :=
  [.update { timeoutMs := 100, enabled := true : Settings }.values,
    .augment "leave" "" (.always .lost)]

theorem sound_hurry : Session.Sound .usual { enabled := true } hurry := by
  have hplain : Endpoint.IsPlain "localhost" := by decide +kernel
  have hport : Endpoint.ownPort? "localhost" = none := by decide +kernel
  have hvalid : ({ timeoutMs := 100, enabled := true } : Settings).Valid := by
    constructor <;> decide +kernel
  have htimeout : ¬ ({ timeoutMs := 100, enabled := true } : Settings).HasOverlongTimeout := by
    unfold Settings.HasOverlongTimeout
    decide +kernel
  refine Session.sound_of_linkable (Settings.valid_default _ _)
    (Settings.not_unlinkable_default true hplain hport) ?_
  simp only [hurry, List.forall_mem_cons]
  exact ⟨⟨_, hvalid, Settings.not_unlinkable hplain hport htimeout, rfl⟩, trivial, by simp⟩

theorem settings_hurry : (Session.final .usual { enabled := true } (hurry.take 1)).settings =
    { timeoutMs := 100, enabled := true : Settings }.values := by
  simp [Session.final, hurry, Session.step, Session.ofChange_gateway]

/-- The question goes out with the five seconds of the opening. -/
theorem request_hurry :
    ∃ after r, (Session.run (create .usual { enabled := true : Settings }.values).2.1 hurry)[1]? =
      some after ∧ r ∈ after.requests ∧ timeoutOfMillis 5000 = some r.timeout := by
  have hsent : (Session.run (create .usual { enabled := true : Settings }.values).2.1 hurry)[1]?.map
      (fun after => after.requests.map fun r => some r.timeout) = some [timeoutOfMillis 5000] := by
    decide +kernel
  obtain ⟨after, hafter, hrequests⟩ := Option.map_eq_some_iff.1 hsent
  obtain ⟨r, hr, htimeout⟩ := List.map_eq_singleton_iff.1 hrequests
  exact ⟨after, r, hafter, by simp [hr], htimeout.symm⟩

theorem request_timeout_of_run_hurry :
    Session.Sound .usual { enabled := true } hurry ∧
      ∃ after r, (Session.run (create .usual { enabled := true : Settings }.values).2.1 hurry)[1]? =
        some after ∧ r ∈ after.requests ∧
        (Session.final .usual { enabled := true } (hurry.take 1)).settings =
          { timeoutMs := 100, enabled := true : Settings }.values ∧
        timeoutOfMillis ({ enabled := true } : Settings).timeoutMs = some r.timeout := by
  obtain ⟨after, r, hafter, hr, -⟩ := request_hurry
  refine ⟨sound_hurry, after, r, hafter, hr, settings_hurry, ?_⟩
  obtain ⟨built, -, link, -, -, hlast, -, -, htimeout⟩ :=
    request_timeout_of_run sound_hurry hafter hr
  -- the change keeps the link, so the opening is still the latest rebuild
  have hkeeps : (create .usual { enabled := true : Settings }.values).2.1.mustRebuild
      { timeoutMs := 100, enabled := true : Settings }.values = false := by
    decide +kernel
  have hopening : LinkEvent.lastRebuild? (Session.record .usual { enabled := true } (hurry.take 1)) =
      some ({ enabled := true : Settings }.values,
        (Link.build .usual { enabled := true : Settings }.values 0).value) := by
    simp [Session.record, Session.history, hurry, linkEvents, hkeeps, openingEvents,
      LinkEvent.lastRebuild?]
  obtain ⟨hbuilt, -⟩ := Prod.mk.inj (Option.some.inj (hlast.symm.trans hopening))
  obtain rfl := Settings.values_injective hbuilt
  exact htimeout

theorem not_waitsAsConfigured_hurry :
    Session.Sound .usual { enabled := true } hurry ∧
      ¬ Session.WaitsAsConfigured .usual { enabled := true } hurry := by
  refine ⟨sound_hurry, ?_⟩
  intro hwaits
  obtain ⟨after, r, hafter, hr, hsent⟩ := request_hurry
  obtain ⟨current, hcurrent, htimeout⟩ := hwaits 1 after r hafter hr
  obtain rfl := Settings.values_injective (hcurrent.symm.trans settings_hurry)
  have hother : timeoutOfMillis 100 ≠ timeoutOfMillis 5000 := by decide +kernel
  exact hother (htimeout.trans hsent.symm)

end Gateway

end Grounding
