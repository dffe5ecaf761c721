import Grounding.Proofs.Retrieval.Reading

/-!
# Findings as a reply

Findings can be sent on as a reply of their own.  Such a reply has every member in the type that is expected
of it, so nothing falls back to a default and nothing is skipped.  Reading is thus a normalization: what it
makes of any reply is read as itself, and it reaches exactly the findings whose numbers are finite.
-/

namespace Grounding

/-! ## Members of the expected type -/

section Member

variable {members : List (String × Json)} {name : String}

theorem lenientText_of_lookup {s : String} (h : Json.lookup name members = some (.str s))
    (default : String) : lenientText members name default = s := by
  rw [lenientText, h]

theorem lenientNumber_of_lookup {x : Binary64} (h : Json.lookup name members = some (.real x))
    (hx : x.isFinite = true) : lenientNumber members name = x := by
  rw [lenientNumber, h]
  exact if_pos hx

end Member

/-! ## Entries -/

namespace Passage

theorem ofReply?_toJson {p : Passage} (h : p.similarity.isFinite = true) :
    ofReply? p.toJson = some p := by
  have hnumber : lenientNumber [("content", .str p.content), ("source", .str p.source),
      ("similarity", .real p.similarity)] "similarity" = p.similarity :=
    lenientNumber_of_lookup rfl h
  rw [toJson, ofReply?, hnumber]
  rfl

theorem filterMap_ofReply?_toJson {passages : List Passage}
    (h : ∀ p ∈ passages, p.similarity.isFinite = true) :
    (passages.map toJson).filterMap ofReply? = passages := by
  induction passages with
  | nil => rfl
  | cons p rest ih =>
      have hp : ofReply? p.toJson = some p := ofReply?_toJson (h p List.mem_cons_self)
      have hrest := ih fun q hq => h q (List.mem_cons_of_mem p hq)
      rw [List.map_cons, List.filterMap_cons_some hp, hrest]

end Passage

/-! ## Replies -/

namespace Findings

/-- The members of a reply that holds these findings. -/
def replyMembers (f : Findings) : List (String × Json) :=
  [("augmented_context", .str f.context), ("chunks", .arr (f.passages.map Passage.toJson)),
    ("suggested_tools", .arr (f.tools.map .str)), ("latency_ms", .real f.serviceLatency)]

def toReply (f : Findings) : Json := .obj f.replyMembers

variable {f : Findings}

theorem readPassages_replyMembers (h : ∀ p ∈ f.passages, p.similarity.isFinite = true) :
    readPassages f.replyMembers = ⟨f.passages, 0⟩ := by
  have hsent : Json.lookup "chunks" f.replyMembers =
      some (.arr (f.passages.map Passage.toJson)) := rfl
  have hskipped : (f.passages.map Passage.toJson).countP (fun item => !item.isObject) = 0 := by
    rw [List.countP_eq_zero]
    intro item hitem
    obtain ⟨p, -, rfl⟩ := List.mem_map.1 hitem
    exact Bool.false_ne_true
  rw [readPassages_eq, Json.entriesOf_of_lookup hsent, Passage.filterMap_ofReply?_toJson h, hskipped]
  rfl

theorem readTools_replyMembers (f : Findings) : readTools f.replyMembers = ⟨f.tools, 0⟩ := by
  have hsent : Json.lookup "suggested_tools" f.replyMembers = some (.arr (f.tools.map .str)) := rfl
  have hkept : (f.tools.map Json.str).filterMap text? = f.tools := by
    rw [List.filterMap_map]
    exact List.filterMap_some
  rw [readTools_eq, Json.entriesOf_of_lookup hsent, hkept]
  rfl

/-- Findings with finite numbers are read back from their reply, without a notice. -/
theorem ofJson_toReply (h : f.HasFiniteNumbers) : ofJson f.toReply = .ok ⟨f, 0⟩ := by
  have hcontext : lenientText f.replyMembers "augmented_context" "" = f.context :=
    lenientText_of_lookup rfl ""
  have hlatency : lenientNumber f.replyMembers "latency_ms" = f.serviceLatency :=
    lenientNumber_of_lookup rfl h.serviceLatency
  rw [toReply, ofJson, ofMembers, readPassages_replyMembers h.similarity, readTools_replyMembers,
    hcontext, hlatency]
  rfl

theorem hasFiniteNumbers_of_ofJson {v : Json} {found : Noted Findings} (h : ofJson v = .ok found) :
    found.value.HasFiniteNumbers := by
  obtain ⟨members, -, rfl⟩ := ofJson_eq_ok h
  exact hasFiniteNumbers_ofMembers members

/-- What any reply is read as is read as itself.  Findings come out of some reply exactly if their numbers
are finite, and then out of their own, with all passages and tools in their order. -/
theorem reading_normalizes :
    (∀ members, ∃ found, ofJson (.obj members) = .ok found ∧
      ofJson found.value.toReply = .ok ⟨found.value, 0⟩) ∧
    (∀ f : Findings, ofJson f.toReply = .ok ⟨f, 0⟩ ↔ f.HasFiniteNumbers) ∧
    ∀ f : Findings,
      (∃ members found, ofJson (.obj members) = .ok found ∧ found.value = f) ↔
        f.HasFiniteNumbers := by
  refine ⟨?_, ?_, ?_⟩
  · intro members
    exact ⟨ofMembers members, rfl, ofJson_toReply (hasFiniteNumbers_ofMembers members)⟩
  · intro f
    exact ⟨hasFiniteNumbers_of_ofJson, ofJson_toReply⟩
  · intro f
    constructor
    · rintro ⟨members, found, hfound, rfl⟩
      exact hasFiniteNumbers_of_ofJson hfound
    · intro h
      exact ⟨f.replyMembers, ⟨f, 0⟩, ofJson_toReply h, rfl⟩

end Findings

end Grounding
