import Grounding.Input.Fault
import Grounding.Platform

/-!
# Calls and responses

What the gateway's own HTTP surface receives and sends.  Responses are JSON, in which a number that
is not finite has no form and is written as null.  A text without an encoding spoils the response; a
member name without one may be shown in another form.
-/

namespace Grounding.Http

/-- A call; an empty body is no body. -/
structure Call where
  method : String
  /-- The path without escapes. -/
  path : List Char
  body : List UInt8

inductive Content where
  | json (value : Json)
  | text (value : String)

structure Response where
  status : Nat
  content : Content

mutual

/-- A value with null in place of every number that is not finite. -/
def finiteOnly : Json → Json
  | .real x => if x.isFinite then .real x else .null
  | .arr items => .arr (finiteItems items)
  | .obj members => .obj (finiteMembers members)
  | v => v

def finiteItems : List Json → List Json
  | [] => []
  | v :: rest => finiteOnly v :: finiteItems rest

def finiteMembers : List (String × Json) → List (String × Json)
  | [] => []
  | (name, v) :: rest => (name, finiteOnly v) :: finiteMembers rest

end

mutual

/-- A value with every member name that has no encoding in the form in which responses show it; the last
of several members that are shown alike counts. -/
def shownNames (platform : Platform) : Json → Option Json
  | .arr items => (shownItems platform items).map .arr
  | .obj members =>
    (shownMembers platform members).map fun shown =>
      .obj (if members.all fun entry => Text.isWhole entry.1 then shown else Json.settle shown)
  | v => some v

def shownItems (platform : Platform) : List Json → Option (List Json)
  | [] => some []
  | v :: rest =>
    match shownNames platform v, shownItems platform rest with
    | some shown, some others => some (shown :: others)
    | _, _ => none

def shownMembers (platform : Platform) : List (String × Json) → Option (List (String × Json))
  | [] => some []
  | (name, v) :: rest =>
    let key := if Text.isWhole name then some name else platform.shownName? name
    match key, shownNames platform v, shownMembers platform rest with
    | some key, some shown, some others => some ((key, shown) :: others)
    | _, _, _ => none

end

namespace Response

def internalError : Response := ⟨500, .text "Internal Server Error"⟩

/-- A response with a value; if the value cannot be sent, the call fails. -/
def ok (value : Json) : Response :=
  if (finiteOnly value).sendFault?.isNone then ⟨200, .json (finiteOnly value)⟩ else internalError

def detail (status : Nat) (text : String) : Response :=
  ⟨status, .json (.obj [("detail", .str text)])⟩

def notFound : Response := detail 404 "Not Found"

def methodNotAllowed : Response := detail 405 "Method Not Allowed"

/-- The caller is to call again without the slashes at the end of its path. -/
def moved : Response := ⟨307, .text ""⟩

def unreadableBody : Response := detail 400 "There was an error parsing the body"

/-- How deep a value of any type may nest in a response. -/
def depthLimit : Nat := 255

def stepJson : Input.Step → Json
  | .field name => .str name
  | .item index => .int index

def faultJson (f : Input.Fault) : Json :=
  .obj [("type", .str f.defect.code), ("loc", .arr (f.path.map stepJson)),
    ("msg", .str f.defect.message)]

/-- A refused body; every fault lies somewhere in the body. -/
def refused (faults : List Input.Fault) : Response :=
  ⟨422, .json (.obj [("detail",
    .arr (faults.map fun f => faultJson (f.under (.field "body"))))])⟩

end Response

end Grounding.Http
