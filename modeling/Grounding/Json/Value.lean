import Grounding.Number.Binary64

/-!
# JSON values

Integers and other numbers are different values: a number written with a point or an exponent is
real, all others are integers of any size.  An object keeps its members in the order in which their
names first arrived, and a name stands for one value.
-/

namespace Grounding

inductive Json where
  | null
  | bool (value : Bool)
  | int (value : Int)
  | real (value : Binary64)
  | str (value : String)
  | arr (items : List Json)
  | obj (members : List (String × Json))

namespace Json

instance : Inhabited Json := ⟨.null⟩

def lookup (name : String) : List (String × Json) → Option Json
  | [] => none
  | (key, value) :: rest => if key = name then some value else lookup name rest

/-- The members with one of them set.  A new name goes to the end, a present one keeps its place. -/
def assign (name : String) (value : Json) : List (String × Json) → List (String × Json)
  | [] => [(name, value)]
  | (key, old) :: rest =>
    if key = name then (key, value) :: rest else (key, old) :: assign name value rest

/-- Members as they were written, the last value of each name winning. -/
def settle (written : List (String × Json)) : List (String × Json) :=
  written.foldl (fun members entry => assign entry.1 entry.2 members) []

/-- The value of a member; nothing for a value that is no object. -/
def get? (name : String) : Json → Option Json
  | .obj members => lookup name members
  | _ => none

def getD (name : String) (members : List (String × Json)) : Json :=
  (lookup name members).getD .null

/-- The name of the kind of a value, as messages show it. -/
def kind : Json → String
  | .null => "NoneType"
  | .bool _ => "bool"
  | .int _ => "int"
  | .real _ => "float"
  | .str _ => "str"
  | .arr _ => "list"
  | .obj _ => "dict"

def isNothing : Json → Bool
  | .null => true
  | .bool b => !b
  | .int n => n == 0
  | .real x => x.units? == some 0
  | .str s => s == ""
  | .arr items => items.isEmpty
  | .obj members => members.isEmpty

/-- The number that a value stands for, in the units of doubles; a flag counts as one or zero. -/
def units? : Json → Option Int
  | .bool b => some (if b then Binary64.unitsPerOne else 0)
  | .int n => some (n * Binary64.unitsPerOne)
  | .real x => x.units?
  | _ => none

mutual

/-- Whether two values are the same to a reader: numbers are compared by what they denote, whether
they are whole, real or flags, and objects without regard to order. -/
def same : Json → Json → Bool
  | .null, .null => true
  | .bool a, .bool b => a == b
  | .int a, .int b => a == b
  | .str a, .str b => a == b
  | .real a, .real b => a.atMost b && b.atMost a
  | .arr a, .arr b => sameItems a b
  | .obj a, .obj b => a.length == b.length && sameMembers b a
  | a, b => (units? a).isSome && units? a == units? b

def sameItems : List Json → List Json → Bool
  | [], [] => true
  | a :: as, b :: bs => same a b && sameItems as bs
  | _, _ => false

/-- Whether all members of the second object are in the first. -/
def sameMembers (found : List (String × Json)) : List (String × Json) → Bool
  | [] => true
  | (name, a) :: rest =>
    (match lookup name found with
      | some b => same a b
      | none => false) && sameMembers found rest

end

mutual

/-- How deep a value nests; a scalar and an empty container have depth one. -/
def depth : Json → Nat
  | .arr items => depthOfItems items + 1
  | .obj members => depthOfMembers members + 1
  | _ => 1

def depthOfItems : List Json → Nat
  | [] => 0
  | v :: rest => max (depth v) (depthOfItems rest)

def depthOfMembers : List (String × Json) → Nat
  | [] => 0
  | (_, v) :: rest => max (depth v) (depthOfMembers rest)

end

theorem mem_of_lookup {name : String} {value : Json} {members : List (String × Json)}
    (h : lookup name members = some value) : (name, value) ∈ members := by
  induction members with
  | nil => contradiction
  | cons entry rest ih =>
      obtain ⟨key, old⟩ := entry
      by_cases hkey : key = name
      · obtain rfl : old = value := by simpa [lookup, hkey] using h
        rw [hkey]
        exact List.mem_cons_self
      · exact List.mem_cons_of_mem _ (ih (by simpa [lookup, hkey] using h))

/-- Setting a member brings no other. -/
theorem mem_assign {name : String} {value : Json} {members : List (String × Json)}
    {entry : String × Json} (h : entry ∈ assign name value members) :
    entry = (name, value) ∨ entry ∈ members := by
  induction members with
  | nil => exact .inl (List.mem_singleton.1 h)
  | cons first rest ih =>
      obtain ⟨key, old⟩ := first
      by_cases hkey : key = name
      · rw [assign, if_pos hkey] at h
        rcases List.mem_cons.1 h with rfl | hrest
        · exact .inl (by rw [hkey])
        · exact .inr (List.mem_cons_of_mem _ hrest)
      · rw [assign, if_neg hkey] at h
        rcases List.mem_cons.1 h with rfl | hrest
        · exact .inr List.mem_cons_self
        · exact (ih hrest).imp_right (List.mem_cons_of_mem _)

@[simp] theorem lookup_assign_self (name : String) (value : Json)
    (members : List (String × Json)) : lookup name (assign name value members) = some value := by
  induction members with
  | nil => simp [assign, lookup]
  | cons entry rest ih =>
      obtain ⟨key, old⟩ := entry
      by_cases h : key = name <;> simp [assign, lookup, h, ih]

theorem lookup_assign_of_ne {name other : String} (h : name ≠ other) (value : Json)
    (members : List (String × Json)) :
    lookup other (assign name value members) = lookup other members := by
  induction members with
  | nil => simp [assign, lookup, h]
  | cons entry rest ih =>
      obtain ⟨key, old⟩ := entry
      by_cases hk : key = name
      · subst hk
        simp [assign, lookup, h]
      · simp [assign, lookup, hk, ih]

end Json

end Grounding
