import Grounding.Json.Strict
import Grounding.Json.Written

/-!
# Values that can be encoded

What is sent goes out as UTF-8, which has no place for a half of a surrogate pair.  So a value can be sent if
it can be written in strict JSON and no text in it, names included, holds such a half.
-/

namespace Grounding.Json

mutual

/-- Whether all texts of a value have an encoding. -/
def isWhole : Json → Bool
  | .str s => Text.isWhole s
  | .arr items => areWhole items
  | .obj members => areWholeMembers members
  | _ => true

def areWhole : List Json → Bool
  | [] => true
  | v :: rest => isWhole v && areWhole rest

def areWholeMembers : List (String × Json) → Bool
  | [] => true
  | (name, v) :: rest => Text.isWhole name && isWhole v && areWholeMembers rest

end

/-- The first halves in a text: where they begin, how many stand in a row, and the first of them. -/
structure Torn where
  start : Nat
  count : Nat
  half : Nat
deriving DecidableEq

def Torn.ofPoints (points : List Nat) : Torn :=
  let start := points.findIdx Text.isHalf
  ⟨start, ((points.drop start).takeWhile Text.isHalf).length, points[start]?.getD 0⟩

def Torn.ofText (s : String) : Torn := .ofPoints (Text.points s.toList)

def Torn.message (t : Torn) : String :=
  let quote := Text.singleQuote.toString
  let halves :=
    if t.count = 1 then
      "character " ++ quote ++ String.ofList (codeEscape t.half) ++ quote ++ " in position " ++
        toString t.start
    else "characters in position " ++ toString t.start ++ "-" ++ toString (t.start + t.count - 1)
  quote ++ "utf-8" ++ quote ++ " codec can't encode " ++ halves ++ ": surrogates not allowed"

/-- Why a value cannot be sent. -/
inductive SendFault where
  | write (fault : WriteFault)
  | encode (torn : Torn)
deriving DecidableEq

def SendFault.message : SendFault → String
  | .write fault => fault.message
  | .encode torn => torn.message

/-- The text that is sent for a value. -/
def sentText (v : Json) : String := write .unicode "" v

/-- What keeps a value from being sent.  All of it is written before it is encoded. -/
def sendFault? (v : Json) : Option SendFault :=
  match v.writeFault? with
  | some fault => some (.write fault)
  | none => if v.isWhole then none else some (.encode (.ofText v.sentText))

theorem sendFault?_eq_none_iff {v : Json} :
    v.sendFault? = none ↔ v.writeFault? = none ∧ v.isWhole = true := by
  unfold sendFault?
  cases v.writeFault? <;> cases v.isWhole <;> simp

end Grounding.Json
