import Grounding.Json.Sent
import Grounding.Proofs.Number.DigitRun

/-!
# Scalars inside a value

Whether a value can be written is a matter of the numbers in it: none may be infinite or no number at all,
and no integer may have more digits than are ever written.  Whether it can be sent is a matter of its texts,
too.
-/

namespace Grounding.Json

/-! ## Properties of all scalars -/

/-- Induction over what a value holds. -/
@[elab_as_elim]
theorem inductionOnParts {motive : Json → Prop} (null : motive .null)
    (bool : ∀ b, motive (.bool b)) (int : ∀ n, motive (.int n)) (real : ∀ x, motive (.real x))
    (str : ∀ s, motive (.str s))
    (arr : ∀ items, (∀ v ∈ items, motive v) → motive (.arr items))
    (obj : ∀ members, (∀ entry ∈ members, motive entry.2) → motive (.obj members)) :
    ∀ v, motive v
  | .null => null
  | .bool b => bool b
  | .int n => int n
  | .real x => real x
  | .str s => str s
  | .arr items => arr items fun v _ => inductionOnParts null bool int real str arr obj v
  | .obj members =>
    obj members fun entry _ => inductionOnParts null bool int real str arr obj entry.2
termination_by v => sizeOf v
decreasing_by
  · next hmem =>
    have hlt := List.sizeOf_lt_of_mem hmem
    simp only [Json.arr.sizeOf_spec]
    omega
  · next hmem =>
    have hlt := List.sizeOf_lt_of_mem hmem
    obtain ⟨name, v⟩ := entry
    simp only [Json.obj.sizeOf_spec, Prod.mk.sizeOf_spec] at hlt ⊢
    omega

mutual

/-- All scalars in a value have a property. -/
def Every (p : Json → Prop) : Json → Prop
  | .null => p .null
  | .bool b => p (.bool b)
  | .int n => p (.int n)
  | .real x => p (.real x)
  | .str s => p (.str s)
  | .arr items => EveryItem p items
  | .obj members => EveryMember p members

def EveryItem (p : Json → Prop) : List Json → Prop
  | [] => True
  | v :: rest => Every p v ∧ EveryItem p rest

def EveryMember (p : Json → Prop) : List (String × Json) → Prop
  | [] => True
  | (_, v) :: rest => Every p v ∧ EveryMember p rest

end

section Decidability

variable {p : Json → Prop} [DecidablePred p]

mutual

def decideEvery : (v : Json) → Decidable (Every p v)
  | .null => inferInstanceAs (Decidable (p .null))
  | .bool b => inferInstanceAs (Decidable (p (.bool b)))
  | .int n => inferInstanceAs (Decidable (p (.int n)))
  | .real x => inferInstanceAs (Decidable (p (.real x)))
  | .str s => inferInstanceAs (Decidable (p (.str s)))
  | .arr items => decideEveryItem items
  | .obj members => decideEveryMember members

def decideEveryItem : (items : List Json) → Decidable (EveryItem p items)
  | [] => .isTrue trivial
  | v :: rest => @instDecidableAnd _ _ (decideEvery v) (decideEveryItem rest)

def decideEveryMember : (members : List (String × Json)) → Decidable (EveryMember p members)
  | [] => .isTrue trivial
  | (_, v) :: rest => @instDecidableAnd _ _ (decideEvery v) (decideEveryMember rest)

end

instance : DecidablePred (Every p) := decideEvery

end Decidability

section Every

variable {p : Json → Prop} {items : List Json} {members : List (String × Json)} {v : Json}

@[simp] theorem every_null : Every p .null ↔ p .null := Iff.rfl

@[simp] theorem every_bool {b : Bool} : Every p (.bool b) ↔ p (.bool b) := Iff.rfl

@[simp] theorem every_int {n : Int} : Every p (.int n) ↔ p (.int n) := Iff.rfl

@[simp] theorem every_real {x : Binary64} : Every p (.real x) ↔ p (.real x) := Iff.rfl

@[simp] theorem every_str {s : String} : Every p (.str s) ↔ p (.str s) := Iff.rfl

@[simp] theorem every_arr : Every p (.arr items) ↔ ∀ v ∈ items, Every p v := by
  change EveryItem p items ↔ _
  induction items with
  | nil => simp [EveryItem]
  | cons v rest ih => simp [EveryItem, ih]

@[simp] theorem every_obj : Every p (.obj members) ↔ ∀ entry ∈ members, Every p entry.2 := by
  change EveryMember p members ↔ _
  induction members with
  | nil => simp [EveryMember]
  | cons entry rest ih => simp [EveryMember, ih]

theorem Every.lookup {name : String} (h : Every p (.obj members))
    (hv : Json.lookup name members = some v) : Every p v :=
  every_obj.1 h _ (mem_of_lookup hv)

theorem Every.assign (h : Every p (.obj members)) (hv : Every p v) (name : String) :
    Every p (.obj (Json.assign name v members)) := by
  rw [every_obj] at h ⊢
  intro entry hentry
  rcases mem_assign hentry with hnew | hold
  · rwa [hnew]
  · exact h entry hold

/-- Settling members brings no values. -/
theorem Every.settle (h : Every p (.obj members)) : Every p (.obj (Json.settle members)) := by
  have hfold (done : List (String × Json)) (hdone : Every p (.obj done)) :
      Every p (.obj (members.foldl (fun done entry => Json.assign entry.1 entry.2 done) done)) := by
    induction members generalizing done with
    | nil => exact hdone
    | cons entry rest ih =>
        rw [every_obj, List.forall_mem_cons, ← every_obj] at h
        exact ih h.2 _ (hdone.assign h.1 entry.1)
  exact hfold [] (by simp)

end Every

/-! ## Numbers that can be written -/

/-- Not a number that is infinite or none at all. -/
def FiniteNumber : Json → Prop
  | .real x => x.isFinite = true
  | _ => True

/-- Not an integer of more digits than are ever written. -/
def ShortInteger : Json → Prop
  | .int n => n.natAbs < Nat.pow 10 numeralDigitLimit
  | _ => True

instance : DecidablePred FiniteNumber
  | .real x => inferInstanceAs (Decidable (x.isFinite = true))
  | .null | .bool _ | .int _ | .str _ | .arr _ | .obj _ => .isTrue trivial

/-- All numbers in a value are finite. -/
abbrev IsFinite : Json → Prop := Every FiniteNumber

/-- No integer in a value has more digits than are ever written. -/
abbrev HasShortIntegers : Json → Prop := Every ShortInteger

section Scalars

variable {x : Binary64} {n : Int} {b : Bool} {s : String}

@[simp] theorem finiteNumber_real : FiniteNumber (.real x) ↔ x.isFinite = true := Iff.rfl

@[simp] theorem finiteNumber_null : FiniteNumber .null := trivial

@[simp] theorem finiteNumber_bool : FiniteNumber (.bool b) := trivial

@[simp] theorem finiteNumber_int : FiniteNumber (.int n) := trivial

@[simp] theorem finiteNumber_str : FiniteNumber (.str s) := trivial

theorem shortInteger_int : ShortInteger (.int n) ↔ n.natAbs < Nat.pow 10 numeralDigitLimit := Iff.rfl

@[simp] theorem shortInteger_real : ShortInteger (.real x) := trivial

@[simp] theorem shortInteger_null : ShortInteger .null := trivial

@[simp] theorem shortInteger_bool : ShortInteger (.bool b) := trivial

@[simp] theorem shortInteger_str : ShortInteger (.str s) := trivial

end Scalars

theorem itemsFault?_eq_none_iff {items : List Json} :
    itemsFault? items = none ↔ ∀ v ∈ items, v.writeFault? = none := by
  induction items with
  | nil => simp [itemsFault?]
  | cons v rest ih => simp [itemsFault?, ih]

theorem membersFault?_eq_none_iff {members : List (String × Json)} :
    membersFault? members = none ↔ ∀ entry ∈ members, entry.2.writeFault? = none := by
  induction members with
  | nil => simp
  | cons entry rest ih =>
      obtain ⟨name, v⟩ := entry
      rw [membersFault?_cons, Option.or_eq_none_iff, ih, List.forall_mem_cons]

/-- A value can be written if all its numbers can. -/
theorem writeFault?_eq_none_iff (v : Json) :
    v.writeFault? = none ↔ v.Every FiniteNumber ∧ v.Every ShortInteger := by
  induction v using inductionOnParts with
  | null => exact iff_of_true rfl ⟨trivial, trivial⟩
  | bool b => exact iff_of_true rfl ⟨trivial, trivial⟩
  | str s => exact iff_of_true rfl ⟨trivial, trivial⟩
  | int n =>
      have hwritable := writeInteger_ok_iff n
      rw [writeFault?_int]
      cases hwrite : writeInteger n with
      | error fault =>
          rw [hwrite] at hwritable
          refine iff_of_false (by simp) ?_
          rintro ⟨-, hshort⟩
          obtain ⟨text, htext⟩ := hwritable.2 hshort
          cases htext
      | ok text =>
          rw [hwrite] at hwritable
          exact iff_of_true rfl ⟨trivial, hwritable.1 ⟨text, rfl⟩⟩
  | real x =>
      rw [writeFault?_real, every_real, every_real, finiteNumber_real]
      cases x.isFinite <;> simp
  | arr items ih =>
      rw [writeFault?_arr, itemsFault?_eq_none_iff, every_arr, every_arr, ← forall₂_and]
      exact forall₂_congr ih
  | obj members ih =>
      rw [writeFault?_obj, membersFault?_eq_none_iff, every_obj, every_obj, ← forall₂_and]
      exact forall₂_congr ih

/-! ## Texts that can be encoded -/

@[simp] theorem isWhole_arr {items : List Json} :
    isWhole (.arr items) = true ↔ ∀ v ∈ items, isWhole v = true := by
  change areWhole items = true ↔ _
  induction items with
  | nil => simp [areWhole]
  | cons v rest ih => simp [areWhole, ih]

@[simp] theorem isWhole_obj {members : List (String × Json)} :
    isWhole (.obj members) = true ↔
      ∀ entry ∈ members, Text.isWhole entry.1 = true ∧ isWhole entry.2 = true := by
  change areWholeMembers members = true ↔ _
  induction members with
  | nil => simp [areWholeMembers]
  | cons entry rest ih => simp [areWholeMembers, ih]

@[simp] theorem isWhole_str {s : String} : isWhole (.str s) = Text.isWhole s := rfl

theorem isWhole_of_lookup {members : List (String × Json)} {v : Json}
    (h : isWhole (.obj members) = true) (name : String) (hv : Json.lookup name members = some v) :
    isWhole v = true :=
  (isWhole_obj.1 h _ (mem_of_lookup hv)).2

theorem isWhole_assign {name : String} {members : List (String × Json)} {v : Json}
    (h : isWhole (.obj members) = true) (hname : Text.isWhole name = true) (hv : isWhole v = true) :
    isWhole (.obj (Json.assign name v members)) = true := by
  rw [isWhole_obj] at h ⊢
  intro entry hentry
  rcases mem_assign hentry with rfl | hold
  · exact ⟨hname, hv⟩
  · exact h entry hold

@[simp] theorem isWhole_null : isWhole .null = true := rfl

@[simp] theorem isWhole_bool {b : Bool} : isWhole (.bool b) = true := rfl

@[simp] theorem isWhole_int {n : Int} : isWhole (.int n) = true := rfl

@[simp] theorem isWhole_real {x : Binary64} : isWhole (.real x) = true := rfl

/-- A value can be sent if its numbers can be written and its texts encoded. -/
theorem sendFault?_eq_none_iff_parts (v : Json) :
    v.sendFault? = none ↔ v.IsFinite ∧ v.HasShortIntegers ∧ v.isWhole = true := by
  rw [sendFault?_eq_none_iff, writeFault?_eq_none_iff, and_assoc]

end Grounding.Json
