import Grounding.Conversation.Basic
import Grounding.Http.Message
import Grounding.Json.Encoding
import Grounding.Room
import Grounding.Settings.Basic

/-!
# Bodies of calls

A body is read as JSON and then checked field by field.  A body that is no JSON is reported with the
offset at which reading stopped; one that cannot be read for another reason is a bad call.  A fault of
a field quotes what it is about to the caller, so a value that cannot be sent, because of a number without a
form in JSON or a text without an encoding, or that nests too deep, cannot even be complained about.
-/

namespace Grounding.Http

inductive BodyFault where
  | refused (faults : List Input.Fault)
  /-- The body is at fault, and what is wrong with it cannot be quoted. -/
  | unquotable
  | unreadable

def BodyFault.response : BodyFault → Response
  | .refused faults => .refused faults
  | .unquotable => .internalError
  | .unreadable => .unreadableBody

/-- What stands at the end of a path, or at the last step of it that leads anywhere. -/
def partAt (body : Json) : List Input.Step → Json
  | [] => body
  | .field name :: rest =>
    match body.get? name with
    | some part => partAt part rest
    | none => body
  | .item index :: rest =>
    match body with
    | .arr items =>
      match items[index]? with
      | some part => partAt part rest
      | none => body
    | _ => body

/-- Whether a value can be quoted in a response. -/
def isQuotable (room : Room) (v : Json) : Bool := v.sendFault?.isNone && v.depth ≤ room.quotes

def refuse (room : Room) (body : Json) (faults : List Input.Fault) : BodyFault :=
  if faults.all fun f => isQuotable room (partAt body f.path) then .refused faults else .unquotable

/-- The members of a body, which must be there and be an object. -/
def readBody (room : Room) (body : List UInt8) : Except BodyFault (List (String × Json)) :=
  if body.isEmpty then .error (.refused [⟨[], .missing⟩])
  else
    match Json.decodeWithin room.bodyLimits body with
    | .error (.malformed _ offset) => .error (.refused [⟨[.item offset], .malformedBody⟩])
    | .error _ => .error .unreadable
    | .ok (.obj members) => .ok members
    | .ok value => .error (refuse room value [⟨[], .notFields⟩])

structure AugmentBody where
  query : String
  session : String

def AugmentBody.ofMembers (members : List (String × Json)) :
    Except (List Input.Fault) AugmentBody :=
  let query := Input.field members "query" "" Input.readText
  let session := Input.field members "session_id" "" Input.readText
  match query, session with
  | .ok query, .ok session => .ok ⟨query, session⟩
  | _, _ => .error (Input.faultsOf query ++ Input.faultsOf session)

structure PrepareBody where
  messages : List Json
  options : Conversation.Options
  session : String

def isObject : Json → Bool
  | .obj _ => true
  | _ => false

/-- The faults of the entries of a list that must be objects. -/
def entryFaults (start : Nat) : List Json → List Input.Fault
  | [] => []
  | v :: rest =>
    if isObject v then entryFaults (start + 1) rest
    else ⟨[.field "messages", .item start], .notObject⟩ :: entryFaults (start + 1) rest

/-- The messages of a body, and the faults among them. -/
def readMessages (members : List (String × Json)) : List Json × List Input.Fault :=
  match Json.lookup "messages" members with
  | none => ([], [⟨[.field "messages"], .missing⟩])
  | some (.arr items) => (items, entryFaults 0 items)
  | some _ => ([], [⟨[.field "messages"], .notList⟩])

def readOptions : Json → Except Input.Defect Conversation.Options
  | .obj members => .ok members
  | _ => .error .notObject

def PrepareBody.ofMembers (members : List (String × Json)) :
    Except (List Input.Fault) PrepareBody :=
  let (messages, faults) := readMessages members
  let options := Input.field members "params" [] readOptions
  let session := Input.field members "session_id" "" Input.readText
  match faults, options, session with
  | [], .ok options, .ok session => .ok ⟨messages, options, session⟩
  | _, _, _ => .error (faults ++ Input.faultsOf options ++ Input.faultsOf session)

def readChecked {α : Type} (room : Room) (body : List UInt8)
    (check : List (String × Json) → Except (List Input.Fault) α) : Except BodyFault α :=
  match readBody room body with
  | .error fault => .error fault
  | .ok members =>
    match check members with
    | .error faults => .error (refuse room (.obj members) faults)
    | .ok a => .ok a

end Grounding.Http
