import Grounding.Conversation.Basic
import Grounding.Context.Basic
import Grounding.Gateway.Exchange

/-!
# The gateway

A gateway owns its settings and at most one link.  Its operations are steps from one gateway to the
next; each reports what it did on the network and how many notices it gave.  A link is built when
settings become usable and replaced when host, port or the master switch change; its client is closed
when the link is given up.
-/

namespace Grounding

structure Gateway where
  settings : Settings.Values
  link : Option Link
  /-- How many clients were ever opened; the next one takes this number. -/
  opened : Nat
  /-- The numbers of the clients that were closed, latest first. -/
  closed : List Nat
  platform : Platform

/-- What one operation gives back and leaves behind. -/
structure Outcome (α : Type) where
  result : α
  gateway : Gateway
  clock : Binary64
  requests : List Request
  notices : Nat

namespace Gateway

/-- The numbers of the clients closed when the current link is given up. -/
def retire (g : Gateway) : List Nat :=
  match g.link with
  | some link => link.client.number :: g.closed
  | none => g.closed

/-- A result without any effect. -/
def still {α : Type} (g : Gateway) (service : Service) (result : α) (notices : Nat) : Outcome α :=
  ⟨result, g, service.clock, [], notices⟩

/-- Builds a link for the current settings.  If the host is unusable there is no link from now on; any
other fault is the caller's, and leaves the link as it was. -/
def rebuild (g : Gateway) : Except LinkFault Unit × Gateway × Nat :=
  let built := Link.build g.platform g.settings g.opened
  match built.value with
  | .ok link =>
    (.ok (), { g with link := some link, opened := g.opened + 1, closed := g.retire },
      built.notices)
  | .error (.host _) => (.ok (), { g with link := none, closed := g.retire }, built.notices + 1)
  | .error fault => (.error fault, g, built.notices)

def create (platform : Platform) (settings : Settings.Values) :
    Except LinkFault Unit × Gateway × Nat :=
  let fresh : Gateway := ⟨settings, none, 0, [], platform⟩
  if settings.isEnabled then fresh.rebuild else (.ok (), fresh, 0)

def mustRebuild (g : Gateway) (settings : Settings.Values) : Bool :=
  settings.isEnabled &&
    !(settings.host.same g.settings.host && settings.port.same g.settings.port &&
      settings.enabled.same g.settings.enabled)

def update (g : Gateway) (settings : Settings.Values) :
    Except LinkFault Unit × Gateway × Nat :=
  let next := { g with settings := settings }
  if g.mustRebuild settings then next.rebuild else (.ok (), next, 0)

def close (g : Gateway) : Gateway := { g with link := none, closed := g.retire }

/-- The duration between two readings of the clock, in milliseconds. -/
def elapsedMillis (start finish : Binary64) : Binary64 := (finish - start) * .ofNat 1000

def ask (g : Gateway) (body : Json) (service : Service) : Outcome Retrieval :=
  match g.link with
  | none => g.still service ⟨elapsedMillis service.clock service.clock, .error .transport⟩ 1
  | some link =>
    match link.augmentRequest body with
    | .error detail =>
      g.still service ⟨elapsedMillis service.clock service.clock, .error (.parse detail)⟩ 1
    | .ok request =>
      let finish := service.clock + service.augment.elapsed
      let found := service.augment.answer.findings service.room.answerLimits
      ⟨⟨elapsedMillis service.clock finish, found.value⟩, g, finish, [request], found.notices⟩

/-- Asks the service for context on behalf of a session.  Without the master switch or without a query
nothing is measured and nothing is sent. -/
def augmentFor (g : Gateway) (session : Json) (query : String) (service : Service) :
    Outcome Retrieval :=
  if !g.settings.isEnabled then g.still service ⟨.zero, .error .disabled⟩ 0
  else if query = "" then g.still service ⟨.zero, .error .emptyQuery⟩ 0
  else g.ask (augmentBody g.settings (.str query) session) service

/-- Asks the service for context; an empty session is none. -/
def augment (g : Gateway) (query session : String) (service : Service) : Outcome Retrieval :=
  g.augmentFor (.str session) query service

def isHealthy (g : Gateway) (service : Service) : Outcome Bool :=
  if !g.settings.isEnabled then g.still service false 0
  else
    match g.link with
    | none => g.still service false 0
    | some link =>
      match link.healthRequest with
      | .error _ => g.still service false 1
      | .ok request =>
        let report := service.health.answer.value? service.room.answerLimits
        ⟨(report.map isReady).getD false, g, service.clock + service.health.elapsed, [request],
          if report.isNone then 1 else 0⟩

/-- Messages ready for a model, and the retrieval that was made for them. -/
structure Prepared where
  messages : Json
  retrieval : Option Retrieval

/-- The context that a retrieval provides: the block of its passages, or the service's own context
when there are none. -/
def contextOf (r : Retrieval) : String :=
  match r.outcome with
  | .error _ => ""
  | .ok findings =>
    if findings.passages.isEmpty then findings.context else Context.render findings.passages

/-- Decides, asks on behalf of a session and injects, in one step. -/
def prepareFor (g : Gateway) (session : Json) (messages : Json) (options : Conversation.Options)
    (today : Date) (service : Service) : Outcome Prepared :=
  let gate := Conversation.shouldAugment messages options
  if gate.value then
    let asked := g.augmentFor session (Conversation.lastQuery messages) service
    ⟨⟨Conversation.inject messages (contextOf asked.result) today, some asked.result⟩,
      asked.gateway, asked.clock, asked.requests, gate.notices + asked.notices⟩
  else g.still service ⟨messages, none⟩ gate.notices

/-- Decides, asks and injects in one step; an empty session is none. -/
def prepare (g : Gateway) (messages : Json) (options : Conversation.Options) (session : String)
    (today : Date) (service : Service) : Outcome Prepared :=
  g.prepareFor (.str session) messages options today service

end Gateway

end Grounding
