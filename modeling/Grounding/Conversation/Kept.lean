import Grounding.Conversation.Loose

/-!
# Messages that a caller keeps

Messages are objects in memory, and a caller goes on using its own after a text was put in front of one.  So
all of them are copied first, each to a place of its own, and then the last copy that is a message of the
user is changed where it stands.  What is inside a message is replaced and never changed in place, so a
message has one place for all that it holds.  An object that stood among the messages twice would be copied
once; messages that come from outside hold none.
-/

namespace Grounding.Conversation

/-- Objects, each at its place. -/
structure Memory where
  objects : List Json

/-- Places of objects in some order, none of them twice. -/
structure Places where
  toList : List Nat
  nodup : toList.Nodup

def Places.range (start count : Nat) : Places := ⟨List.range' start count, List.nodup_range'⟩

namespace Memory

def size (m : Memory) : Nat := m.objects.length

def read (m : Memory) (place : Nat) : Json := m.objects[place]?.getD .null

def write (m : Memory) (place : Nat) (value : Json) : Memory := ⟨m.objects.set place value⟩

/-- The list of the objects at these places. -/
def list (m : Memory) (places : Places) : Json := .arr (places.toList.map m.read)

/-- Copies objects to new places. -/
def copy (m : Memory) (places : Places) : Places × Memory :=
  (.range m.size places.toList.length, ⟨m.objects ++ places.toList.map m.read⟩)

/-- Puts a text in front of the first of the objects that is a message of the user. -/
def prefaceFirst (lead : String) (m : Memory) : List Nat → Memory
  | [] => m
  | place :: rest =>
    if isUserMessage (m.read place) then m.write place (prefaceMessage lead (m.read place))
    else m.prefaceFirst lead rest

theorem read_write_self {m : Memory} {place : Nat} (h : place < m.size) (value : Json) :
    (m.write place value).read place = value := by
  rw [write, read, List.getElem?_set_self h, Option.getD_some]

theorem read_write_of_ne {place other : Nat} (h : place ≠ other) (m : Memory) (value : Json) :
    (m.write place value).read other = m.read other := by
  rw [write, read, List.getElem?_set_ne h, read]

theorem read_copy_of_lt {m : Memory} {place : Nat} (h : place < m.size) (places : Places) :
    (m.copy places).2.read place = m.read place := by
  rw [copy, read, List.getElem?_append_left h, read]

end Memory

/-- The text that a context stands for.  Nothing at all is no context. -/
def contextText? : Json → Option String
  | .str text => some text
  | v => if v.isNothing then some "" else none

/-- Puts a context of any type before the last query of the user in copies of messages, and returns the
places of the copies. -/
def Memory.inject (room : Room) (m : Memory) (places : Places) (context : Json) (today : Date) :
    Except InjectionFault Places × Memory :=
  if room.isTooDeep (m.list places) then (.error .tooDeep, m)
  else
    let (copies, copied) := m.copy places
    match contextText? context with
    | some text => (.ok copies, copied.prefaceFirst (preface text today) copies.toList.reverse)
    | none =>
      if hasUserMessage (m.list places) then (.error (.notText context.kind), copied)
      else (.ok copies, copied)

/-- What putting a context into messages returns, and what the caller's own messages are afterwards. -/
structure Injection where
  result : Except InjectionFault Json
  kept : Json

/-- Puts a context into messages of any type.  No object stands in them twice; what is no list comes back as
it is. -/
def injectKept (room : Room) (messages context : Json) (today : Date) : Injection :=
  match messages with
  | .arr items =>
    let places := Places.range 0 items.length
    let (result, after) := Memory.inject room ⟨items⟩ places context today
    ⟨result.map after.list, after.list places⟩
  | v => ⟨.ok v, v⟩

end Grounding.Conversation
