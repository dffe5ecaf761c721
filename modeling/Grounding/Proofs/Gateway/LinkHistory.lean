import Grounding.Proofs.Gateway.Run

/-!
# The link and its history

Whether a link has to be rebuilt is decided by comparing settings with the ones right before them, and
settings that disable the gateway keep the old link.  What an enabled gateway is linked to depends
therefore on its whole history.  The history is recorded beside the run; the invariant is that the
latest rebuild was made for the current host and port whenever the gateway is enabled.
-/

namespace Grounding

/-- Something that was done about the link. -/
inductive LinkEvent where
  /-- A rebuild for the settings, and what building gave. -/
  | rebuilt (settings : Settings.Values) (built : Except LinkFault Link)
  | released

/-! ## Histories, latest event first -/

namespace LinkEvent

/-- The link that is in place after a history. -/
def link? : List LinkEvent → Option Link
  | .rebuilt _ (.ok link) :: _ => some link
  | _ => none

/-- The settings of the latest rebuild, and what it gave. -/
def lastRebuild? : List LinkEvent → Option (Settings.Values × Except LinkFault Link)
  | [] => none
  | .rebuilt settings built :: _ => some (settings, built)
  | .released :: rest => lastRebuild? rest

/-- The link was released after the latest rebuild. -/
def ReleasedSince : List LinkEvent → Prop
  | .released :: _ => True
  | _ => False

theorem lastRebuild?_of_link? {history : List LinkEvent} {link : Link}
    (h : link? history = some link) :
    ∃ settings, lastRebuild? history = some (settings, .ok link) := by
  match history with
  | [] => contradiction
  | .released :: rest => contradiction
  | .rebuilt settings (.error fault) :: rest => contradiction
  | .rebuilt settings (.ok found) :: rest =>
      obtain rfl := Option.some.inj h
      exact ⟨settings, rfl⟩

theorem mem_of_lastRebuild? {history : List LinkEvent} {settings : Settings.Values}
    {built : Except LinkFault Link} (h : lastRebuild? history = some (settings, built)) :
    .rebuilt settings built ∈ history := by
  induction history with
  | nil => contradiction
  | cons event rest ih =>
      cases event with
      | released => exact List.mem_cons_of_mem _ (ih h)
      | rebuilt other result =>
          obtain ⟨rfl, rfl⟩ := Prod.mk.inj (Option.some.inj h)
          simp

/-- Where a rebuild gave a link and none is in place, it was released since. -/
theorem releasedSince_of_link?_eq_none {history : List LinkEvent} {settings : Settings.Values}
    {link : Link} (h : link? history = none)
    (hlast : lastRebuild? history = some (settings, .ok link)) : ReleasedSince history := by
  match history with
  | [] => contradiction
  | .released :: rest => trivial
  | .rebuilt _ (.error fault) :: rest => simp [lastRebuild?] at hlast
  | .rebuilt _ (.ok found) :: rest => contradiction

end LinkEvent

/-! ## Recording -/

/-- What opening a gateway does about the link. -/
def Gateway.openingEvents (platform : Platform) (settings : Settings.Values) : List LinkEvent :=
  if settings.isEnabled then [.rebuilt settings (Link.build platform settings 0).value] else []

/-- What an operation does about the link. -/
def Gateway.linkEvents (g : Gateway) : Operation → List LinkEvent
  | .update settings =>
    if g.mustRebuild settings then
      [.rebuilt settings (Link.build g.platform settings g.opened).value]
    else []
  | .close => [.released]
  | _ => []

namespace Session

/-- The history at the end of a run that goes on from an earlier one. -/
def history (g : Gateway) : List Operation → List LinkEvent → List LinkEvent
  | [], past => past
  | op :: rest, past => history (step g op).gateway rest (g.linkEvents op ++ past)

/-- The history of a run that starts with an opening. -/
def record (platform : Platform) (s : Settings) (ops : List Operation) : List LinkEvent :=
  history (Gateway.create platform s.values).2.1 ops
    (Gateway.openingEvents platform s.values)

end Session

/-! ## The invariant -/

namespace Gateway

variable {platform : Platform} {g : Gateway} {past : List LinkEvent}

/-- A rebuild that happened: for checked settings, with what building from them gives, and settled. -/
def IsRecord (platform : Platform) : LinkEvent → Prop
  | .rebuilt settings built =>
    (∃ s : Settings, s.Valid ∧ settings = s.values) ∧ Link.Settled built ∧
      ∃ number, (Link.build platform settings number).value = built
  | .released => True

/-- What a gateway and its history have in common after any number of steps that did not fail. -/
structure FollowsHistory (platform : Platform) (g : Gateway) (past : List LinkEvent) : Prop where
  platform_eq : g.platform = platform
  settings : ∃ s : Settings, s.Valid ∧ g.settings = s.values
  link_eq : g.link = LinkEvent.link? past
  recorded : ∀ event ∈ past, IsRecord platform event
  current : g.settings.isEnabled = true → ∃ settings built,
    LinkEvent.lastRebuild? past = some (settings, built) ∧
      settings.host = g.settings.host ∧ settings.port = g.settings.port

/-- A rebuild that does not fail makes the history current, whatever it was before. -/
theorem followsHistory_rebuild (hplatform : g.platform = platform)
    (hsettings : ∃ s : Settings, s.Valid ∧ g.settings = s.values)
    (hpast : ∀ event ∈ past, IsRecord platform event) (hdone : g.rebuild.1 = .ok ()) :
    FollowsHistory platform g.rebuild.2.1
      (.rebuilt g.settings (Link.build g.platform g.settings g.opened).value :: past) := by
  have hsettled := (rebuild_ok_iff g).1 hdone
  refine ⟨by rw [rebuild_platform, hplatform], by rwa [rebuild_settings], ?_, ?_, ?_⟩
  · rcases rebuild_cases g with ⟨link, _, hbuilt, h⟩ | ⟨fault, _, hbuilt, h⟩ | ⟨_, _, _, _, h⟩
    · rw [h, hbuilt]
      rfl
    · rw [h, hbuilt]
      rfl
    · rw [h] at hdone
      contradiction
  · intro event hevent
    rcases List.mem_cons.1 hevent with rfl | hevent
    · exact ⟨hsettings, hsettled, g.opened, by rw [hplatform]⟩
    · exact hpast event hevent
  · intro _
    rw [rebuild_settings]
    exact ⟨_, _, rfl, rfl, rfl⟩

theorem followsHistory_create {s : Settings} (hs : s.Valid)
    (hdone : (create platform s.values).1 = .ok ()) :
    FollowsHistory platform (create platform s.values).2.1 (openingEvents platform s.values) := by
  unfold create openingEvents at *
  dsimp only at *
  split_ifs at hdone ⊢ with henabled
  · exact followsHistory_rebuild rfl ⟨s, hs, rfl⟩ (by simp) hdone
  · exact ⟨rfl, ⟨s, hs, rfl⟩, rfl, by simp, fun h => absurd h henabled⟩

theorem FollowsHistory.update {s : Settings} (hg : FollowsHistory platform g past) (hs : s.Valid)
    (hdone : (g.update s.values).1 = .ok ()) :
    FollowsHistory platform (g.update s.values).2.1 (g.linkEvents (.update s.values) ++ past) := by
  rcases update_cases g s.values with ⟨hmust, h⟩ | ⟨hmust, h⟩
  · rw [h] at hdone ⊢
    simp only [linkEvents, hmust, if_true, List.singleton_append]
    exact followsHistory_rebuild (g := { g with settings := s.values }) hg.platform_eq
      ⟨s, hs, rfl⟩ hg.recorded hdone
  · rw [h]
    simp only [linkEvents, hmust, Bool.false_eq_true, if_false, List.nil_append]
    refine ⟨hg.platform_eq, ⟨s, hs, rfl⟩, hg.link_eq, hg.recorded, ?_⟩
    -- without a rebuild, enabled settings agree with enabled ones before
    intro henabled
    obtain ⟨old, -, hold⟩ := hg.settings
    have hsame : ¬ old.CallsForRebuild s := by
      rw [← mustRebuild_values_iff hold, hmust]
      simp
    obtain ⟨hhost, hport, hbefore⟩ := Settings.not_callsForRebuild_iff.1 hsame (by
      rwa [← Settings.isEnabled_values])
    obtain ⟨settings, built, hlast, hlasthost, hlastport⟩ := hg.current (by
      rw [hold, Settings.isEnabled_values, hbefore])
    refine ⟨settings, built, hlast, ?_, ?_⟩
    · rw [hlasthost, hold, Settings.values, Settings.values, hhost]
    · rw [hlastport, hold, Settings.values, Settings.values, hport]

theorem FollowsHistory.close (hg : FollowsHistory platform g past) :
    FollowsHistory platform g.close (g.linkEvents .close ++ past) := by
  refine ⟨hg.platform_eq, hg.settings, rfl, ?_, hg.current⟩
  intro event hevent
  rcases List.mem_cons.1 hevent with rfl | hevent
  · trivial
  · exact hg.recorded event hevent

theorem linkEvents_of_not_isChange {op : Operation} (h : ¬ op.IsChange) :
    g.linkEvents op = [] := by
  cases op with
  | update settings => exact absurd trivial h
  | close => exact absurd trivial h
  | _ => rfl

theorem FollowsHistory.step {op : Operation} (hg : FollowsHistory platform g past)
    (hop : op.IsChecked) (hdone : ∀ fault, (Session.step g op).result ≠ .failed fault) :
    FollowsHistory platform (Session.step g op).gateway (g.linkEvents op ++ past) := by
  rcases step_gateway g op with ⟨new, rfl, h⟩ | ⟨rfl, h⟩ | ⟨hop, h⟩
  · obtain ⟨s, hs, rfl⟩ := hop
    rw [h]
    cases hresult : (g.update s.values).1 with
    | ok done => exact hg.update hs hresult
    | error fault =>
        exact absurd ((Session.step_failed_iff g _ fault).2 ⟨_, rfl, hresult⟩) (hdone fault)
  · rw [h]
    exact hg.close
  · rw [h, linkEvents_of_not_isChange hop]
    exact hg

theorem FollowsHistory.run {ops : List Operation} (hg : FollowsHistory platform g past)
    (hops : ∀ op ∈ ops, op.IsChecked)
    (hdone : ∀ after ∈ Session.run g ops, ∀ fault, after.result ≠ .failed fault) :
    FollowsHistory platform (Session.last g ops) (Session.history g ops past) := by
  induction ops generalizing g past with
  | nil => exact hg
  | cons op rest ih =>
      have hstep := hg.step (hops op (by simp)) (hdone _ (by simp [Session.run]))
      rw [Session.last_cons]
      exact ih hstep (fun next hnext => hops next (by simp [hnext]))
        (fun after hafter => hdone after (by simp [Session.run, hafter]))

/-- A run in which nothing fails leaves a gateway that its record explains. -/
theorem followsHistory_of_sound {s : Settings} {ops : List Operation}
    (h : Session.Sound platform s ops) :
    FollowsHistory platform (Session.final platform s ops) (Session.record platform s ops) :=
  (followsHistory_create h.valid h.created).run h.checked h.done

/-! ## What it says about the link -/

/-- The link of an enabled gateway comes from the latest rebuild, for its host and port. -/
theorem FollowsHistory.link_current (hg : FollowsHistory platform g past) {link : Link}
    (henabled : g.settings.isEnabled = true) (hlink : g.link = some link) :
    ∃ built : Settings, built.Valid ∧
      LinkEvent.lastRebuild? past = some (built.values, .ok link) ∧
      built.values.host = g.settings.host ∧ built.values.port = g.settings.port ∧
      ∃ number, (Link.build platform built.values number).value = .ok link := by
  rw [hg.link_eq] at hlink
  obtain ⟨settings, hlast⟩ := LinkEvent.lastRebuild?_of_link? hlink
  obtain ⟨other, result, hother, hhost, hport⟩ := hg.current henabled
  obtain ⟨rfl, -⟩ := Prod.mk.inj (Option.some.inj (hlast.symm.trans hother))
  have hmem := LinkEvent.mem_of_lastRebuild? hlast
  obtain ⟨⟨built, hvalid, rfl⟩, -, number, hbuild⟩ := hg.recorded _ hmem
  exact ⟨built, hvalid, hlast, hhost, hport, number, hbuild⟩

/-- An enabled gateway without a link could not be linked to its host and port, or gave the link up
since it was last built for them. -/
theorem FollowsHistory.no_link (hg : FollowsHistory platform g past)
    (henabled : g.settings.isEnabled = true) (hlink : g.link = none) :
    ∃ (built : Settings) (result : Except LinkFault Link),
      LinkEvent.lastRebuild? past = some (built.values, result) ∧
      built.values.host = g.settings.host ∧ built.values.port = g.settings.port ∧
      ((∃ fault, result = .error (.host fault)) ∨ LinkEvent.ReleasedSince past) := by
  rw [hg.link_eq] at hlink
  obtain ⟨settings, result, hlast, hhost, hport⟩ := hg.current henabled
  obtain ⟨⟨built, -, rfl⟩, hsettled, -⟩ := hg.recorded _ (LinkEvent.mem_of_lastRebuild? hlast)
  refine ⟨built, result, hlast, hhost, hport, ?_⟩
  rcases hsettled with ⟨link, rfl⟩ | hfault
  · exact .inr (LinkEvent.releasedSince_of_link?_eq_none hlink hlast)
  · exact .inl hfault

theorem link_last_eq_none {ops : List Operation} (hg : g.link = none)
    (hops : ∀ new, .update new ∈ ops → new.isEnabled = false) :
    (Session.last g ops).link = none := by
  induction ops generalizing g with
  | nil => exact hg
  | cons op rest ih =>
      rw [Session.last_cons]
      refine ih ?_ (fun new hnew => hops new (by simp [hnew]))
      rcases step_gateway g op with ⟨new, rfl, h⟩ | ⟨rfl, h⟩ | ⟨-, h⟩
      · rw [h]
        rcases update_cases g new with ⟨hmust, _⟩ | ⟨_, hupdate⟩
        · have hoff := hops new (by simp)
          simp [mustRebuild, hoff] at hmust
        · rw [hupdate]
          exact hg
      · rw [h]
        rfl
      · rw [h]
        exact hg

theorem link_create_of_disabled {s : Settings} (hs : s.enabled = false) :
    (create platform s.values).2.1.link = none := by
  simp [create, hs]

/-- After a run in which nothing failed, an enabled gateway is linked to its own host and port, or the
latest rebuild for them gave no link, or that link was released.  Without the switch there is none. -/
theorem link_agrees_with_settings {s : Settings} {ops : List Operation}
    (h : Session.Sound platform s ops) :
    ∃ current : Settings, (Session.final platform s ops).settings = current.values ∧
      (Session.final platform s ops).link = LinkEvent.link? (Session.record platform s ops) ∧
      (∀ link, current.enabled = true → (Session.final platform s ops).link = some link →
        (∃ built : Settings,
          LinkEvent.lastRebuild? (Session.record platform s ops) = some (built.values, .ok link) ∧
          built.host = current.host ∧ built.port = current.port ∧
          ∃ number, (Link.build platform built.values number).value = .ok link) ∧
        ∃ site, Site.ofHost current.host = .ok site ∧
          link.endpoint =
            ⟨(Link.usable platform.tls site).scheme, site.host, site.port.getD current.port⟩) ∧
      (current.enabled = true → (Session.final platform s ops).link = none →
        ∃ (built : Settings) (result : Except LinkFault Link),
          LinkEvent.lastRebuild? (Session.record platform s ops) = some (built.values, result) ∧
          built.host = current.host ∧ built.port = current.port ∧
          ((∃ fault, result = .error (.host fault)) ∨
            LinkEvent.ReleasedSince (Session.record platform s ops))) ∧
      (s.enabled = false → (∀ new, .update new ∈ ops → new.isEnabled = false) →
        (Session.final platform s ops).link = none) := by
  have hfinal := followsHistory_of_sound h
  obtain ⟨current, -, hcurrent⟩ := hfinal.settings
  have hon : current.enabled = true → (Session.final platform s ops).settings.isEnabled = true := by
    intro henabled
    rw [hcurrent, Settings.isEnabled_values, henabled]
  refine ⟨current, hcurrent, hfinal.link_eq, ?_, ?_, ?_⟩
  · intro link henabled hlink
    obtain ⟨built, hvalid, hlast, hhost, hport, number, hbuild⟩ :=
      hfinal.link_current (hon henabled) hlink
    rw [hcurrent] at hhost hport
    have hhost : built.host = current.host := Json.str.inj hhost
    have hport : built.port = current.port := Json.int.inj hport
    have hendpoint := Link.endpoint_of_build hvalid hbuild
    rw [hhost, hport] at hendpoint
    exact ⟨⟨built, hlast, hhost, hport, number, hbuild⟩, hendpoint⟩
  · intro henabled hlink
    obtain ⟨built, result, hlast, hhost, hport, hreason⟩ := hfinal.no_link (hon henabled) hlink
    rw [hcurrent] at hhost hport
    exact ⟨built, result, hlast, Json.str.inj hhost, Json.int.inj hport, hreason⟩
  · intro hoff hops
    exact link_last_eq_none (link_create_of_disabled hoff) hops

/-- Off, to another host while off, and on again. -/
def detour : List Operation :=
  [.update { enabled := false : Settings }.values,
    .update { host := "[::1]", enabled := false : Settings }.values,
    .update { host := "[::1]", enabled := true : Settings }.values]

theorem linkable_detour : ∀ op ∈ detour, op.IsLinkable .usual := by
  have hnear : Endpoint.IsPlain "localhost" ∧ Endpoint.ownPort? "localhost" = none := by
    decide +kernel
  have hfar : Endpoint.IsPlain "[::1]" ∧ Endpoint.ownPort? "[::1]" = none := by
    decide +kernel
  simp only [detour, List.forall_mem_cons]
  exact ⟨Operation.isLinkable_default _ hnear.1 hnear.2,
    Operation.isLinkable_default _ hfar.1 hfar.2, Operation.isLinkable_default _ hfar.1 hfar.2,
    by simp⟩

theorem link_agrees_with_settings_detour :
    Session.Sound .usual { enabled := true } detour ∧
      ∃ link, (Session.final .usual { enabled := true } detour).link = some link ∧
        link.endpoint = ⟨.http, "[::1]", 8001⟩ := by
  have hsound : Session.Sound .usual { enabled := true } detour :=
    Session.sound_of_linkable (Settings.valid_default _ _)
      (Settings.not_unlinkable_default true (by decide +kernel) (by decide +kernel)) linkable_detour
  refine ⟨hsound, ?_⟩
  obtain ⟨current, hcurrent, -, hlinked, -, -⟩ := link_agrees_with_settings hsound
  have hlast : (Session.final .usual { enabled := true } detour).settings =
      { host := "[::1]", enabled := true : Settings }.values := by
    simp [Session.final, detour, Session.step, Session.ofChange_gateway]
  obtain rfl := Settings.values_injective (hcurrent.symm.trans hlast)
  obtain ⟨link, hlink⟩ :
      ∃ link, (Session.final .usual { enabled := true } detour).link = some link := by
    rw [← Option.isSome_iff_exists]
    decide +kernel
  obtain ⟨-, site, hsite, hendpoint⟩ := hlinked link rfl hlink
  have hnamed : Site.ofHost "[::1]" = .ok ⟨.http, "[::1]", none⟩ := by
    decide +kernel
  obtain rfl := Except.ok.inj (hsite.symm.trans hnamed)
  exact ⟨link, hlink, hendpoint⟩

end Gateway

end Grounding
