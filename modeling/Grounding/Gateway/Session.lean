import Grounding.Gateway.Basic

/-!
# Sessions

A session is the history of one gateway: an opening and then any sequence of operations.  A step that
fails is part of the history, and the next step goes on from what it left behind.
-/

namespace Grounding

inductive Operation where
  | update (settings : Settings.Values)
  | close
  | readSettings
  | augment (query session : String) (service : Service)
  | checkHealth (service : Service)
  | prepare (messages : Json) (options : Conversation.Options) (session : String) (today : Date)
      (service : Service)

inductive Operation.Result where
  | done
  | failed (fault : LinkFault)
  | settings (settings : Settings.Values)
  | retrieval (retrieval : Retrieval)
  | health (healthy : Bool)
  | prepared (prepared : Gateway.Prepared)

/-- What is left behind after one step of a session. -/
structure Session where
  gateway : Gateway
  requests : List Request
  notices : Nat
  /-- The clock, if the step read it. -/
  clock : Option Binary64
  result : Operation.Result

namespace Session

def ofOutcome {α : Type} (wrap : α → Operation.Result) (o : Outcome α) : Session :=
  ⟨o.gateway, o.requests, o.notices, some o.clock, wrap o.result⟩

def ofChange : Except LinkFault Unit × Gateway × Nat → Session
  | (.ok (), g, notices) => ⟨g, [], notices, none, .done⟩
  | (.error fault, g, notices) => ⟨g, [], notices, none, .failed fault⟩

def step (g : Gateway) : Operation → Session
  | .update settings => ofChange (g.update settings)
  | .close => ⟨g.close, [], 0, none, .done⟩
  | .readSettings => ⟨g, [], 0, none, .settings g.settings⟩
  | .augment query session service => ofOutcome .retrieval (g.augment query session service)
  | .checkHealth service => ofOutcome .health (g.isHealthy service)
  | .prepare messages options session today service =>
    ofOutcome .prepared (g.prepare messages options session today service)

def run (g : Gateway) : List Operation → List Session
  | [] => []
  | op :: rest => step g op :: run (step g op).gateway rest

end Session

end Grounding
