import Grounding.Context.Loose
import Grounding.Proofs.Retrieval.Reading

/-!
# Two readings of an entry

What the service sends is read leniently, and what a caller hands in is read strictly.  The two differ in
what they do about a member of the wrong type, and the strict reading takes some texts and flags for
numbers.  Where every member that is there has its own type, nothing of this matters: both come to the same
passage, so it is all one to the block whether its passages were read before.
-/

namespace Grounding

/-! ## Members -/

/-- Nothing stands there, or a text. -/
def AllowsText (field : Option Json) : Prop :=
  field = none ∨ ∃ s, field = some (.str s)

/-- Nothing stands there, or a number that a finite double can stand for. -/
def AllowsNumber (field : Option Json) : Prop :=
  field = none ∨ HoldsNumber field

section Member

variable {members : List (String × Json)} {name : String}

theorem field_readText_of_allowsText (h : AllowsText (Json.lookup name members)) (default : String) :
    Input.field members name default Input.readText = .ok (lenientText members name default) := by
  rcases h with habsent | ⟨s, htext⟩
  · rw [Input.field, lenientText, habsent]
  · rw [Input.field, lenientText, htext]
    rfl

theorem readNumber_of_holdsNumber {v : Json} (h : HoldsNumber (some v)) :
    ∃ x, numberOf? v = some x ∧ x.isFinite = true ∧ Input.readNumber v = .ok x := by
  cases v with
  | int n =>
      have hfinite : (Binary64.ofInt n).isFinite = true := (Binary64.isFinite_ofInt n).2 h
      exact ⟨.ofInt n, rfl, hfinite, if_pos hfinite⟩
  | real x => exact ⟨x, rfl, h, rfl⟩
  | _ => contradiction

theorem field_readNumber_of_allowsNumber (h : AllowsNumber (Json.lookup name members)) :
    Input.field members name .zero Input.readNumber = .ok (lenientNumber members name) := by
  rcases h with habsent | hnumber
  · rw [Input.field, lenientNumber, habsent]
    rfl
  · cases hfield : Json.lookup name members with
    | none =>
        rw [hfield] at hnumber
        contradiction
    | some v =>
        rw [hfield] at hnumber
        obtain ⟨x, hvalue, hfinite, hread⟩ := readNumber_of_holdsNumber hnumber
        rw [Input.field, lenientNumber, hfield, Option.bind_some, hvalue]
        simp only [hread, hfinite, if_true]

end Member

/-! ## Entries -/

/-- An object with texts and a number in their places, as far as they are there; its other members may be
anything. -/
structure Passage.IsWellTyped (item : Json) : Prop where
  isObject : item.isObject = true
  content : AllowsText (item.get? "content")
  source : AllowsText (item.get? "source")
  similarity : AllowsNumber (item.get? "similarity")

theorem Passage.IsWellTyped.exists_members {item : Json} (h : IsWellTyped item) :
    ∃ members p, item = .obj members ∧ ofReply? item = some p ∧ ofMembers members = .ok p := by
  cases item with
  | obj members =>
      refine ⟨members, _, rfl, rfl, ?_⟩
      rw [ofMembers, field_readText_of_allowsText h.content, field_readText_of_allowsText h.source,
        field_readNumber_of_allowsNumber h.similarity]
  | _ => exact absurd h.isObject Bool.false_ne_true

/-! ## Blocks -/

namespace Context

theorem loosePassages_of_isWellTyped {items : List Json}
    (h : ∀ item ∈ items, Passage.IsWellTyped item) :
    ∃ passages, items.map Passage.ofReply? = passages.map some ∧
      items.map Passage.ofJson = passages.map .ok ∧ loosePassages items = .ok passages := by
  induction items with
  | nil => exact ⟨[], rfl, rfl, rfl⟩
  | cons item rest ih =>
      obtain ⟨members, p, rfl, hlenient, hstrict⟩ := (h item List.mem_cons_self).exists_members
      obtain ⟨passages, hlenients, hstricts, hloose⟩ :=
        ih fun other hother => h other (List.mem_cons_of_mem _ hother)
      have hentry : Passage.ofJson (.obj members) = .ok p := hstrict
      have hrecord : loosePassage (.obj members) = .ok p := by
        simp only [loosePassage, recordMembers, hstrict]
      refine ⟨p :: passages, ?_, ?_, ?_⟩
      · rw [List.map_cons, hlenient, hlenients, List.map_cons]
      · rw [List.map_cons, hentry, hstricts, List.map_cons]
      · simp only [loosePassages, hrecord, hloose]

/-- Entries of the right types are read alike by both readings, and make the same block as their passages. -/
theorem readings_agree {items : List Json} (h : ∀ item ∈ items, Passage.IsWellTyped item) :
    ∃ passages, items.map Passage.ofReply? = passages.map some ∧
      items.map Passage.ofJson = passages.map .ok ∧
      renderLoose (.arr items) = .ok (render passages) := by
  obtain ⟨passages, hlenient, hstrict, hloose⟩ := loosePassages_of_isWellTyped h
  refine ⟨passages, hlenient, hstrict, ?_⟩
  cases items with
  | nil =>
      obtain rfl : passages = [] := List.map_eq_nil_iff.1 hlenient.symm
      rfl
  | cons item rest =>
      have hsome : (Json.arr (item :: rest)).isNothing = false := rfl
      simp only [renderLoose, hsome, elements?, hloose, Bool.false_eq_true, if_false]

/-- Entries with an integer between two doubles, a negative zero beside a member of no interest, and nothing. -/
def handedIn : List Json :=
  [.obj [("content", .str "a"), ("similarity", .int (2 ^ 53 + 1))],
    .obj [("source", .str "b"), ("similarity", .real Binary64.zero.neg), ("page", .arr [.null])],
    .obj []]

theorem readings_agree_handedIn :
    (∀ item ∈ handedIn, Passage.IsWellTyped item) ∧
      ∃ passages, passages.length = 3 ∧ handedIn.map Passage.ofReply? = passages.map some ∧
        handedIn.map Passage.ofJson = passages.map .ok ∧
        renderLoose (.arr handedIn) = .ok (render passages) := by
  have hinteger : AllowsNumber (some (.int (2 ^ 53 + 1))) :=
    .inr ((Binary64.isFinite_ofInt _).1 (by decide +kernel))
  have hzero : Binary64.zero.neg.isFinite = true := by decide +kernel
  have htyped : ∀ item ∈ handedIn, Passage.IsWellTyped item := by
    simp only [handedIn, List.forall_mem_cons]
    exact ⟨⟨rfl, .inr ⟨_, rfl⟩, .inl rfl, hinteger⟩, ⟨rfl, .inl rfl, .inr ⟨_, rfl⟩, .inr hzero⟩,
      ⟨rfl, .inl rfl, .inl rfl, .inl rfl⟩, by simp⟩
  obtain ⟨passages, hlenient, hstrict, hblock⟩ := readings_agree htyped
  have hlength : passages.length = 3 := by
    rw [← List.length_map some, ← hlenient]
    rfl
  exact ⟨htyped, passages, hlength, hlenient, hstrict, hblock⟩

end Context

end Grounding
