import Grounding.Notices
import Grounding.Retrieval.Passage

/-!
# What the service found

A reply may hold a ready-made context, passages, suggested tools and the time that the service says
it took.  Every part is optional and read on its own, so one bad part never spoils another.
-/

namespace Grounding

structure Findings where
  context : String := ""
  passages : List Passage := []
  tools : List String := []
  serviceLatency : Binary64 := .zero
deriving DecidableEq

namespace Findings

def text? : Json → Option String
  | .str s => some s
  | _ => none

/-- The elements of a list that read, and how many did not. -/
def passagesOf (items : List Json) : Noted (List Passage) :=
  ⟨items.filterMap Passage.ofReply?, items.countP fun item => (Passage.ofReply? item).isNone⟩

/-- The passages of a reply.  A field that is present and no list is ignored with a notice. -/
def readPassages (members : List (String × Json)) : Noted (List Passage) :=
  match Json.getD "chunks" members with
  | .arr items => passagesOf items
  | .null => ⟨[], 0⟩
  | _ => ⟨[], 1⟩

/-- The suggested tools of a reply.  Names that are no texts are left out silently. -/
def readTools (members : List (String × Json)) : Noted (List String) :=
  match Json.getD "suggested_tools" members with
  | .arr items => ⟨items.filterMap text?, 0⟩
  | .null => ⟨[], 0⟩
  | _ => ⟨[], 1⟩

def ofMembers (members : List (String × Json)) : Noted Findings :=
  let passages := readPassages members
  let tools := readTools members
  ⟨{ context := lenientText members "augmented_context" ""
     passages := passages.value
     tools := tools.value
     serviceLatency := lenientNumber members "latency_ms" },
    passages.notices + tools.notices⟩

end Findings

/-- A reply that is no object; `kind` is what it is instead. -/
structure WrongShape where
  kind : String
deriving DecidableEq

def WrongShape.message (w : WrongShape) : String := "expected a JSON object, got " ++ w.kind

def Findings.ofJson : Json → Except WrongShape (Noted Findings)
  | .obj members => .ok (ofMembers members)
  | v => .error ⟨v.kind⟩

end Grounding
