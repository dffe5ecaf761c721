import Grounding.Proofs.Gateway.FailedChange
import Grounding.Proofs.Gateway.LinkHistory
import Grounding.Proofs.Gateway.Requests
import Mathlib.Data.List.Nodup

/-!
# Clients are neither lost nor left open

A client is opened with every link that is built and has to be closed by whoever gives the link up: a
rebuild that replaces it, a rebuild that the host setting defeats, and closing.  A change that fails keeps
it, and so does one that only switches the gateway off.  Through all of them the open client is that of
the link in place, if there is one, and every other client was closed once.
-/

namespace Grounding

namespace Link

theorem number_of_connect {platform : Platform} {values : Settings.Values} {host : String}
    {number : Nat} {site : Site} {link : Link}
    (h : connect platform values host number site = .ok link) : link.client.number = number := by
  unfold connect at h
  split at h
  · contradiction
  split at h
  · contradiction
  split at h
  · contradiction
  dsimp only at h
  split at h
  · contradiction
  obtain rfl := Except.ok.inj h
  rfl

/-- A client has the number that it was built with. -/
theorem number_of_build {platform : Platform} {values : Settings.Values} {number : Nat} {link : Link}
    (h : (build platform values number).value = .ok link) : link.client.number = number := by
  unfold build at h
  split at h
  · contradiction
  dsimp only at h
  split at h
  · contradiction
  exact number_of_connect h

end Link

/-- The clients that building gave, latest first. -/
def LinkEvent.clients : List LinkEvent → List Client
  | [] => []
  | .rebuilt _ (.ok link) :: rest => link.client :: clients rest
  | .rebuilt _ (.error _) :: rest => clients rest
  | .released :: rest => clients rest

namespace Gateway

open LinkEvent (clients)

def IsOpen (g : Gateway) (c : Client) : Prop := c.number ∉ g.closed

/-- The open client is that of the link, and what is closed was opened before and is closed once. -/
structure OwnsClients (g : Gateway) (past : List LinkEvent) : Prop where
  numbered : (clients past).map (·.number) = (List.range g.opened).reverse
  isOpen_iff : ∀ c ∈ clients past, g.IsOpen c ↔ g.link.map (·.client) = some c
  current : ∀ link, g.link = some link → link.client ∈ clients past
  opened : ∀ n ∈ g.closed, n < g.opened
  closedOnce : g.closed.Nodup

variable {platform : Platform} {g : Gateway} {past : List LinkEvent} {settings : Settings.Values}

theorem OwnsClients.number_lt (h : OwnsClients g past) {c : Client} (hc : c ∈ clients past) :
    c.number < g.opened := by
  have hmem := List.mem_map_of_mem (f := (·.number)) hc
  simpa [h.numbered] using hmem

/-! ## Giving a link up -/

section Retire

variable (h : OwnsClients g past)
include h

/-- When a link is given up, no client is left open. -/
theorem OwnsClients.mem_retire {c : Client} (hc : c ∈ clients past) : c.number ∈ g.retire := by
  have hopen := h.isOpen_iff c hc
  unfold IsOpen at hopen
  unfold retire
  cases hlink : g.link with
  | none => simpa [hlink] using hopen
  | some link =>
      by_cases hclosed : c.number ∈ g.closed
      · exact List.mem_cons_of_mem _ hclosed
      · have hown : link.client = c := by simpa [hlink] using hopen.1 hclosed
        rw [← hown]
        exact List.mem_cons_self

theorem OwnsClients.mem_retire_of_lt {n : Nat} (hn : n < g.opened) : n ∈ g.retire := by
  have hmem : n ∈ (clients past).map (·.number) := by
    rw [h.numbered, List.mem_reverse]
    exact List.mem_range.2 hn
  obtain ⟨c, hc, rfl⟩ := List.mem_map.1 hmem
  exact h.mem_retire hc

/-- Closing leaves no client open that was ever opened. -/
theorem OwnsClients.mem_closed_close {n : Nat} (hn : n < g.close.opened) : n ∈ g.close.closed :=
  h.mem_retire_of_lt hn

theorem OwnsClients.lt_of_mem_retire {n : Nat} (hn : n ∈ g.retire) : n < g.opened := by
  unfold retire at hn
  cases hlink : g.link with
  | none =>
      rw [hlink] at hn
      exact h.opened n hn
  | some link =>
      rw [hlink] at hn
      rcases List.mem_cons.1 hn with rfl | hn
      · exact h.number_lt (h.current link hlink)
      · exact h.opened n hn

theorem OwnsClients.nodup_retire : g.retire.Nodup := by
  unfold retire
  cases hlink : g.link with
  | none => exact h.closedOnce
  | some link =>
      have hown : g.IsOpen link.client :=
        (h.isOpen_iff _ (h.current link hlink)).2 (by rw [hlink]; rfl)
      exact List.nodup_cons.2 ⟨hown, h.closedOnce⟩

/-- Without a link in its place, all clients are closed. -/
theorem OwnsClients.released {events : List LinkEvent} (hevents : clients events = clients past) :
    OwnsClients { g with link := none, closed := g.retire } events where
  numbered := by rw [hevents, h.numbered]
  isOpen_iff := by
    intro c hc
    rw [hevents] at hc
    exact iff_of_false (fun hopen => hopen (h.mem_retire hc)) (by simp)
  current := by simp
  opened := fun n hn => h.lt_of_mem_retire hn
  closedOnce := h.nodup_retire

/-- With a new link in its place, only the new client is open. -/
theorem OwnsClients.replaced {link : Link} (hnumber : link.client.number = g.opened)
    (settings : Settings.Values) :
    OwnsClients { g with link := some link, opened := g.opened + 1, closed := g.retire }
      (.rebuilt settings (.ok link) :: past) where
  numbered := by
    rw [clients, List.map_cons, h.numbered, hnumber, List.range_succ, List.reverse_concat]
  isOpen_iff := by
    intro c hc
    rcases List.mem_cons.1 hc with rfl | hc
    · refine iff_of_true (fun hclosed => ?_) rfl
      have hlt := h.lt_of_mem_retire hclosed
      rw [hnumber] at hlt
      exact Nat.lt_irrefl _ hlt
    · refine iff_of_false (fun hopen => hopen (h.mem_retire hc)) ?_
      intro hsame
      have hnew : link.client = c := Option.some.inj hsame
      have hlt := h.number_lt hc
      rw [← hnew, hnumber] at hlt
      exact Nat.lt_irrefl _ hlt
  current := by
    intro other hother
    obtain rfl := Option.some.inj hother
    exact List.mem_cons_self
  opened := fun n hn => Nat.lt_succ_of_lt (h.lt_of_mem_retire hn)
  closedOnce := h.nodup_retire

end Retire

/-! ## Steps -/

/-- A rebuild hands over the client, whether it gives a link, gives none or fails. -/
theorem OwnsClients.rebuild (h : OwnsClients g past) :
    OwnsClients g.rebuild.2.1
      (.rebuilt g.settings (Link.build g.platform g.settings g.opened).value :: past) := by
  rcases rebuild_cases g with ⟨link, _, hbuilt, hcase⟩ | ⟨fault, _, hbuilt, hcase⟩ |
    ⟨fault, _, hbuilt, -, hcase⟩
  · rw [hcase, hbuilt]
    exact h.replaced (Link.number_of_build hbuilt) g.settings
  · rw [hcase, hbuilt]
    exact h.released rfl
  · rw [hcase, hbuilt]
    exact ⟨h.numbered, h.isOpen_iff, h.current, h.opened, h.closedOnce⟩

/-- Other settings are no matter for the clients. -/
theorem OwnsClients.withSettings (h : OwnsClients g past) (settings : Settings.Values) :
    OwnsClients { g with settings := settings } past :=
  ⟨h.numbered, h.isOpen_iff, h.current, h.opened, h.closedOnce⟩

theorem ownsClients_create (platform : Platform) (settings : Settings.Values) :
    OwnsClients (create platform settings).2.1 (openingEvents platform settings) := by
  have hfresh : OwnsClients ⟨settings, none, 0, [], platform⟩ [] :=
    ⟨rfl, by simp [clients], by simp, by simp, List.nodup_nil⟩
  unfold create openingEvents
  dsimp only
  split_ifs
  · exact hfresh.rebuild
  · exact hfresh

theorem OwnsClients.update (h : OwnsClients g past) (new : Settings.Values) :
    OwnsClients (g.update new).2.1 (g.linkEvents (.update new) ++ past) := by
  rcases update_cases g new with ⟨hmust, hcase⟩ | ⟨hmust, hcase⟩
  · rw [hcase]
    simp only [linkEvents, hmust, if_true, List.singleton_append]
    exact (h.withSettings new).rebuild
  · rw [hcase]
    simp only [linkEvents, hmust, Bool.false_eq_true, if_false, List.nil_append]
    exact h.withSettings new

theorem OwnsClients.step (h : OwnsClients g past) (op : Operation) :
    OwnsClients (Session.step g op).gateway (g.linkEvents op ++ past) := by
  rcases step_gateway g op with ⟨new, rfl, hcase⟩ | ⟨rfl, hcase⟩ | ⟨hop, hcase⟩
  · rw [hcase]
    exact h.update new
  · rw [hcase]
    exact h.released rfl
  · rw [hcase, linkEvents_of_not_isChange hop]
    exact h

theorem OwnsClients.run (h : OwnsClients g past) (ops : List Operation) :
    OwnsClients (Session.last g ops) (Session.history g ops past) := by
  induction ops generalizing g past with
  | nil => exact h
  | cons op rest ih =>
      rw [Session.last_cons]
      exact ih (h.step op)

/-- A step that sends something leaves the gateway as it is. -/
theorem step_gateway_of_mem_requests {op : Operation} {r : Request}
    (hr : r ∈ (Session.step g op).requests) : (Session.step g op).gateway = g := by
  rcases step_gateway g op with ⟨new, rfl, -⟩ | ⟨rfl, -⟩ | ⟨-, hcase⟩
  · simp [Session.step] at hr
  · simp [Session.step] at hr
  · exact hcase

/-- A request goes through an open client, which is still open afterwards. -/
theorem OwnsClients.client_of_mem_step (h : OwnsClients g past) {op : Operation} {r : Request}
    (hr : r ∈ (Session.step g op).requests) :
    ∃ c ∈ clients past, r.client = c.number ∧ g.IsOpen c ∧
      (Session.step g op).gateway.IsOpen c := by
  rw [step_gateway_of_mem_requests hr]
  obtain ⟨-, link, hlink, hclient, -⟩ := Gateway.client_of_mem_step hr
  have hmem := h.current link hlink
  have hopen : g.IsOpen link.client := (h.isOpen_iff _ hmem).2 (by rw [hlink]; rfl)
  exact ⟨link.client, hmem, hclient, hopen, hopen⟩

/-! ## Runs -/

/-- The clients that were opened from an opening to the end of a run, latest first. -/
def openedClients (platform : Platform) (settings : Settings.Values) (ops : List Operation) :
    List Client :=
  clients (Session.history (create platform settings).2.1 ops (openingEvents platform settings))

theorem ownsClients_of_run (platform : Platform) (settings : Settings.Values) (ops : List Operation) :
    OwnsClients (Session.last (create platform settings).2.1 ops)
      (Session.history (create platform settings).2.1 ops (openingEvents platform settings)) :=
  (ownsClients_create platform settings).run ops

/-- After any run, whether its steps fail or not, a client is open exactly when it is that of the link in
place; so there is at most one, none is closed twice, and every request went through an open one. -/
theorem open_client_of_run (platform : Platform) (settings : Settings.Values) (ops : List Operation) :
    let start := (create platform settings).2.1
    let last := Session.last start ops
    let opened := openedClients platform settings ops
    (opened.map (·.number)).Nodup ∧
    (∀ c ∈ opened, last.IsOpen c ↔ last.link.map (·.client) = some c) ∧
    (∀ link, last.link = some link → link.client ∈ opened) ∧
    (∀ a ∈ opened, ∀ b ∈ opened, last.IsOpen a → last.IsOpen b → a = b) ∧
    last.closed.Nodup ∧
    (∀ n ∈ last.closed, ∃ c ∈ opened, c.number = n) ∧
    ∀ i after r, (Session.run start ops)[i]? = some after → r ∈ after.requests →
      ∃ c ∈ openedClients platform settings (ops.take i), r.client = c.number ∧
        (Session.last start (ops.take i)).IsOpen c ∧ after.gateway.IsOpen c := by
  have h := ownsClients_of_run platform settings ops
  refine ⟨?_, h.isOpen_iff, h.current, ?_, h.closedOnce, ?_, ?_⟩
  · rw [openedClients, h.numbered]
    exact List.nodup_reverse.2 List.nodup_range
  · intro a ha b hb hopenA hopenB
    have hsame := ((h.isOpen_iff a ha).1 hopenA).symm.trans ((h.isOpen_iff b hb).1 hopenB)
    exact Option.some.inj hsame
  · intro n hn
    refine List.mem_map.1 ?_
    rw [openedClients, h.numbered, List.mem_reverse, List.mem_range]
    exact h.opened n hn
  · intro i after r hafter hr
    rw [Session.run_getElem?, Option.map_eq_some_iff] at hafter
    obtain ⟨op, -, rfl⟩ := hafter
    exact (ownsClients_of_run platform settings (ops.take i)).client_of_mem_step hr

/-- To another host, to one that makes the change fail, and a question. -/
def moves : List Operation :=
  [.update { host := "[::1]", enabled := true : Settings }.values, .update ornamental.values,
    .augment "leave" "" (.always .lost)]

theorem open_client_of_run_moves :
    ∃ after r, (Session.run (create .usual nearby.values).2.1 moves)[2]? = some after ∧
      r ∈ after.requests ∧ ∃ c ∈ openedClients .usual nearby.values (moves.take 2),
        r.client = c.number ∧
        (Session.last (create .usual nearby.values).2.1 (moves.take 2)).IsOpen c ∧
        after.gateway.IsOpen c := by
  have hsent : (Session.run (create .usual nearby.values).2.1 moves)[2]?.map
      (fun after => after.requests.map (·.client)) = some [1] := by
    decide +kernel
  obtain ⟨after, hafter, hrequests⟩ := Option.map_eq_some_iff.1 hsent
  obtain ⟨r, hr, -⟩ := List.map_eq_singleton_iff.1 hrequests
  have hmem : r ∈ after.requests := by simp [hr]
  obtain ⟨-, -, -, -, -, -, hthrough⟩ := open_client_of_run .usual nearby.values moves
  exact ⟨after, r, hafter, hmem, hthrough 2 after r hafter hmem⟩

end Gateway

end Grounding
