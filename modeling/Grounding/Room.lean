import Grounding.Json.Decode

/-!
# Room for nested calls

An interpreter bounds how deep calls may nest, and whatever follows a value down its containers nests calls
for each of them.  How much of that is left depends on how deep the caller stands already, so the room comes
with every call and is no constant of a gateway.
-/

namespace Grounding

/-- How many calls nest while a value is copied: for a scalar, for a container at least, and for each
container on top of what is in it. -/
structure CopyCost where
  scalar : Nat
  container : Nat
  level : Nat
  level_pos : 0 < level

namespace CopyCost

variable (cost : CopyCost)

mutual

/-- How many calls nest while a value is copied. -/
def calls : Json → Nat
  | .arr items => max cost.container (cost.level + callsOfItems items)
  | .obj members => max cost.container (cost.level + callsOfMembers members)
  | _ => cost.scalar

def callsOfItems : List Json → Nat
  | [] => 0
  | v :: rest => max (calls v) (callsOfItems rest)

def callsOfMembers : List (String × Json) → Nat
  | [] => 0
  | (_, v) :: rest => max (max cost.scalar (calls v)) (callsOfMembers rest)

end

end CopyCost

structure Room where
  /-- How deep containers may nest in an answer of the service. -/
  answers : Nat
  /-- How deep containers may nest in the body of a call. -/
  bodies : Nat
  /-- How deep a value may nest to be quoted in an error. -/
  quotes : Nat
  /-- How many calls may nest while messages are copied. -/
  copies : Nat
  copyCost : CopyCost

namespace Room

/-- The cost of the `copy` module of CPython 3.11, whose functions count as calls like any others: two for
each value, one more for the number that identifies a container. -/
def copyCost311 : CopyCost := ⟨2, 3, 2, Nat.succ_pos 1⟩

/-- The room under the default limit of CPython, 1000 nested calls, a few of which lie below every call and
some more below one that comes in over HTTP.  Decoding takes one call for a container. -/
def usual : Room := ⟨988, 968, 960, 995, copyCost311⟩

def answerLimits (r : Room) : Json.Limits := .within r.answers

def bodyLimits (r : Room) : Json.Limits := .within r.bodies

/-- Whether messages are a list that nests too deep to be copied; anything else is never copied. -/
def isTooDeep (r : Room) : Json → Bool
  | .arr items => r.copies < r.copyCost.calls (.arr items)
  | _ => false

end Room

end Grounding
