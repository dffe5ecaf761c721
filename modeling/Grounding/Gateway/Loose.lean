import Grounding.Conversation.Loose
import Grounding.Gateway.Basic

/-!
# Calls with arguments of any type

Queries, sessions and options may come from callers that do not check their types.  What counts as
nothing is treated like an empty text.  A list may stand for a query; a session may be anything.  A
call that has no result may still have asked the service.
-/

namespace Grounding

inductive CallFault where
  /-- The query has no length. -/
  | noLength (kind : String)
  /-- The query has a length but no beginning. -/
  | noBeginning
  | options (fault : Conversation.OptionsFault)
  | injection (fault : Conversation.InjectionFault)
deriving DecidableEq

def CallFault.message : CallFault → String
  | .noLength kind =>
    "object of type " ++ Text.singleQuote.toString ++ kind ++ Text.singleQuote.toString ++
      " has no len()"
  | .noBeginning =>
    "unhashable type: " ++ Text.singleQuote.toString ++ "slice" ++ Text.singleQuote.toString
  | .options fault => fault.message
  | .injection fault => fault.message

namespace Gateway

def answered {α : Type} (o : Outcome α) : Outcome (Except CallFault α) :=
  { o with result := .ok o.result }

/-- Asks the service for context with a query and a session of any type. -/
def augmentLoose (g : Gateway) (query session : Json) (service : Service) :
    Outcome (Except CallFault Retrieval) :=
  if query.isNothing then answered (g.augmentFor session "" service)
  else
    match query with
    | .str text => answered (g.augmentFor session text service)
    | v =>
      if !g.settings.isEnabled then answered (g.augmentFor session "" service)
      else
        match v with
        | .arr _ => answered (g.ask (augmentBody g.settings v session) service)
        | .obj _ => g.still service (.error .noBeginning) 0
        | _ => g.still service (.error (.noLength v.kind)) 0

/-- Decides, asks and injects with options and a session of any type, and messages of any depth. -/
def prepareLoose (g : Gateway) (messages options session : Json) (today : Date)
    (service : Service) : Outcome (Except CallFault Prepared) :=
  match Conversation.Options.ofJson options with
  | .error fault => g.still service (.error (.options fault)) 0
  | .ok options =>
    let prepared := g.prepareFor session messages options today service
    if prepared.result.retrieval.isSome && service.room.isTooDeep messages then
      { prepared with result := .error (.injection .tooDeep) }
    else answered prepared

end Gateway

end Grounding
