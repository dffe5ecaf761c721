import Grounding.Context.Basic

/-!
# Loosely typed passages

A caller may hand in passages that are not typed yet: any sequence of records, where a record is an
object or a sequence of pairs of a name and a value.  A text is a sequence of its characters and an
object a sequence of its names.  Each record is then validated like any passage.
-/

namespace Grounding.Context

inductive LooseFault where
  | notSequence (kind : String)
  | notPairLike (index : Nat)
  | notPair (index length : Nat)
  | unusableName (kind : String)
  | invalid (faults : List Input.Fault)

def LooseFault.message : LooseFault → String
  | .notSequence kind => Text.singleQuote.toString ++ kind ++ Text.singleQuote.toString ++
      " object is not iterable"
  | .notPairLike index =>
    "cannot convert dictionary update sequence element #" ++ toString index ++ " to a sequence"
  | .notPair index length =>
    "dictionary update sequence element #" ++ toString index ++ " has length " ++
      toString length ++ "; 2 is required"
  | .unusableName kind =>
    "unhashable type: " ++ Text.singleQuote.toString ++ kind ++ Text.singleQuote.toString
  | .invalid _ => "validation failed"

def elements? : Json → Option (List Json)
  | .arr items => some items
  | .str s => some ((Text.points s.toList).map fun n => .str (String.ofList (Text.ofPoint n)))
  | .obj members => some (members.map fun m => .str m.1)
  | _ => none

/-- Adds one pair to the members read so far.  A name that is a scalar but no text names no field and
is dropped. -/
def addPair (members : List (String × Json)) (name value : Json) :
    Except LooseFault (List (String × Json)) :=
  match name with
  | .str s => .ok (Json.assign s value members)
  | .arr _ | .obj _ => .error (.unusableName name.kind)
  | _ => .ok members

/-- The members that a sequence of pairs describes, from the pair number `index` on. -/
def membersOfPairs (index : Nat) (members : List (String × Json)) :
    List Json → Except LooseFault (List (String × Json))
  | [] => .ok members
  | pair :: rest =>
    match elements? pair with
    | none => .error (.notPairLike index)
    | some [name, value] =>
      match addPair members name value with
      | .error fault => .error fault
      | .ok members => membersOfPairs (index + 1) members rest
    | some parts => .error (.notPair index parts.length)

def recordMembers (v : Json) : Except LooseFault (List (String × Json)) :=
  match v with
  | .obj members => .ok members
  | _ =>
    match elements? v with
    | none => .error (.notSequence v.kind)
    | some pairs => membersOfPairs 0 [] pairs

def loosePassage (v : Json) : Except LooseFault Passage :=
  match recordMembers v with
  | .error fault => .error fault
  | .ok members =>
    match Passage.ofMembers members with
    | .error faults => .error (.invalid faults)
    | .ok p => .ok p

/-- The passages of a sequence, up to the first that fails. -/
def loosePassages : List Json → Except LooseFault (List Passage)
  | [] => .ok []
  | v :: rest =>
    match loosePassage v with
    | .error fault => .error fault
    | .ok p =>
      match loosePassages rest with
      | .error fault => .error fault
      | .ok passages => .ok (p :: passages)

def renderLoose (v : Json) : Except LooseFault String :=
  if v.isNothing then .ok ""
  else
    match elements? v with
    | none => .error (.notSequence v.kind)
    | some items =>
      match loosePassages items with
      | .error fault => .error fault
      | .ok passages => .ok (render passages)

end Grounding.Context
