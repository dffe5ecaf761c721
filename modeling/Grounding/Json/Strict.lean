import Grounding.Json.Value
import Grounding.Number.Numeral

/-!
# Values that can be sent

A value that is sent to somebody else is written in strict JSON: a number that is not finite has no
form there, and neither has an integer of too many digits.
-/

namespace Grounding.Json

inductive WriteFault where
  | notFinite
  | integer (fault : NumeralFault)
deriving DecidableEq

def WriteFault.message : WriteFault → String
  | .notFinite => "Out of range float values are not JSON compliant"
  | .integer fault => fault.message

mutual

/-- The first part of a value that cannot be written, if there is one. -/
def writeFault? : Json → Option WriteFault
  | .int n =>
    match writeInteger n with
    | .error fault => some (.integer fault)
    | .ok _ => none
  | .real x => if x.isFinite then none else some .notFinite
  | .arr items => itemsFault? items
  | .obj members => membersFault? members
  | _ => none

def itemsFault? : List Json → Option WriteFault
  | [] => none
  | v :: rest => (writeFault? v).or (itemsFault? rest)

def membersFault? : List (String × Json) → Option WriteFault
  | [] => none
  | (_, v) :: rest => (writeFault? v).or (membersFault? rest)

end

@[simp] theorem writeFault?_str (s : String) : writeFault? (.str s) = none := rfl

@[simp] theorem writeFault?_bool (b : Bool) : writeFault? (.bool b) = none := rfl

@[simp] theorem writeFault?_real (x : Binary64) :
    writeFault? (.real x) = if x.isFinite then none else some .notFinite := rfl

@[simp] theorem writeFault?_arr (items : List Json) :
    writeFault? (.arr items) = itemsFault? items := rfl

@[simp] theorem writeFault?_obj (members : List (String × Json)) :
    writeFault? (.obj members) = membersFault? members := rfl

@[simp] theorem membersFault?_nil : membersFault? [] = none := rfl

@[simp] theorem membersFault?_cons (name : String) (v : Json) (rest : List (String × Json)) :
    membersFault? ((name, v) :: rest) = (writeFault? v).or (membersFault? rest) := rfl

section Integers

-- the power that bounds what can be written must not be computed
attribute [local irreducible] writeInteger

theorem writeFault?_int (n : Int) :
    writeFault? (.int n) =
      match writeInteger n with
      | .error fault => some (.integer fault)
      | .ok _ => none := rfl

end Integers

end Grounding.Json
