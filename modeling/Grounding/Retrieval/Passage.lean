import Grounding.Input.Scalar

/-!
# Retrieved passages

A passage is a piece of text, the source it comes from, and how similar it is to the query.  The
lenient reading is for what the service sends: a field of the wrong type takes its default.  The
strict reading is for what a caller hands in: a field of the wrong type is a fault.
-/

namespace Grounding

structure Passage where
  content : String := ""
  source : String := "unknown"
  similarity : Binary64 := .zero
deriving DecidableEq

def lenientText (members : List (String × Json)) (name default : String) : String :=
  match Json.lookup name members with
  | some (.str s) => s
  | _ => default

/-- The double of a JSON number; a flag is no number. -/
def numberOf? : Json → Option Binary64
  | .int n => some (.ofInt n)
  | .real x => some x
  | _ => none

/-- A number field of a reply.  Only finite doubles count as numbers. -/
def lenientNumber (members : List (String × Json)) (name : String) : Binary64 :=
  match (Json.lookup name members).bind numberOf? with
  | some x => if x.isFinite then x else .zero
  | none => .zero

namespace Passage

/-- One entry of a reply; nothing if it is not an object. -/
def ofReply? : Json → Option Passage
  | .obj members =>
    some {
      content := lenientText members "content" ""
      source := lenientText members "source" "unknown"
      similarity := lenientNumber members "similarity" }
  | _ => none

def ofMembers (members : List (String × Json)) : Except (List Input.Fault) Passage :=
  let content := Input.field members "content" "" Input.readText
  let source := Input.field members "source" "unknown" Input.readText
  let similarity := Input.field members "similarity" .zero Input.readNumber
  match content, source, similarity with
  | .ok content, .ok source, .ok similarity => .ok ⟨content, source, similarity⟩
  | _, _, _ =>
    .error (Input.faultsOf content ++ Input.faultsOf source ++ Input.faultsOf similarity)

def ofJson : Json → Except (List Input.Fault) Passage
  | .obj members => ofMembers members
  | _ => .error [⟨[], .notRecord "ContextChunk"⟩]

def toJson (p : Passage) : Json :=
  .obj [("content", .str p.content), ("source", .str p.source), ("similarity", .real p.similarity)]

end Passage

end Grounding
