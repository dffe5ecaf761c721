import Grounding.Json.Encoding
import Grounding.Network.Link
import Grounding.Retrieval.Basic
import Grounding.Room

/-!
# Requests and answers

What is sent to the retrieval service, what may come back, and how it is understood.  A failed
exchange is a matter of transport; only an answer with status 200 whose body holds a value is judged
by its content.
-/

namespace Grounding

inductive Method where
  | get
  | post
deriving DecidableEq

def Method.name : Method → String
  | .get => "GET"
  | .post => "POST"

structure Request where
  client : Nat
  method : Method
  url : String
  timeout : Binary64
  body : Option Json

namespace Request

/-- Every client asks for JSON. -/
def accept : String := "application/json"

def contentType (r : Request) : Option String := r.body.map fun _ => "application/json"

end Request

inductive Answer where
  /-- The connection failed or timed out, or the answer was no HTTP. -/
  | lost
  /-- Something else went wrong while asking. -/
  | broken (detail : String)
  | arrived (status : Int) (body : List UInt8)

structure Reply where
  elapsed : Binary64
  answer : Answer

/-- The service as it answers now, the clock by which durations are measured, and the room that the caller
leaves. -/
structure Service where
  clock : Binary64
  augment : Reply
  health : Reply
  room : Room

/-- The body of a request for context.  The session is named only if there is one. -/
def augmentBody (values : Settings.Values) (query session : Json) : Json :=
  .obj ([("query", query), ("max_results", values.maxResults),
    ("similarity_threshold", values.similarityThreshold),
    ("include_tools", values.includeTools)] ++
    if session.isNothing then [] else [("session_id", session)])

namespace Link

/-- The request for context with a body, or what goes wrong while it is made. -/
def augmentRequest (link : Link) (body : Json) : Except String Request :=
  match link.client.binding.augment with
  | .fails detail => .error detail
  | .url url =>
    match body.sendFault? with
    | some fault => .error fault.message
    | none => .ok ⟨link.client.number, .post, url, link.client.timeout, some body⟩

/-- The request for the health report, or what goes wrong while it is made. -/
def healthRequest (link : Link) : Except String Request :=
  match link.client.binding.health with
  | .fails detail => .error detail
  | .url url => .ok ⟨link.client.number, .get, url, link.client.timeout, none⟩

end Link

namespace Answer

/-- What an answer to a request for context amounts to, and how many notices it deserves. -/
def findings (limits : Json.Limits) : Answer → Noted (Except Refusal Findings)
  | .lost => ⟨.error .transport, 1⟩
  | .broken detail => ⟨.error (.parse detail), 1⟩
  | .arrived status body =>
    if status ≠ 200 then ⟨.error .transport, 1⟩
    else
      match Json.decodeWithin limits body with
      | .error (.tooDeep container) =>
        ⟨.error (.parse ((Json.Fault.tooDeep container).message [])), 1⟩
      | .error _ => ⟨.error .transport, 1⟩
      | .ok .null => ⟨.error .transport, 0⟩
      | .ok value =>
        match Findings.ofJson value with
        | .error shape => ⟨.error (.parse shape.message), 1⟩
        | .ok found => ⟨.ok found.value, found.notices⟩

def value? (limits : Json.Limits) : Answer → Option Json
  | .arrived status body => if status ≠ 200 then none else (Json.decodeWithin limits body).toOption
  | _ => none

end Answer

/-- A service is ready when its report says so, with a flag and not merely with something like it. -/
def isReady (report : Json) : Bool :=
  match report.get? "ready" with
  | some (.bool ready) => ready
  | _ => false

end Grounding
