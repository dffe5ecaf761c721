import Grounding.Conversation.Loose
import Grounding.Proofs.Conversation.LastUser

/-!
# Room for copies

Each container around a value takes calls of its own to be copied, so there are messages that no room
suffices for.  A text in front of a content costs as much as before, or a list of parts with a text in it.
Where there is room for that much, messages that can be copied can be copied again with a text in front of
one of them.
-/

namespace Grounding

namespace CopyCost

variable {cost : CopyCost} {items : List Json} {members : List (String × Json)} {n : Nat}

theorem callsOfItems_le_iff : cost.callsOfItems items ≤ n ↔ ∀ v ∈ items, cost.calls v ≤ n := by
  induction items with
  | nil => simp [callsOfItems]
  | cons v rest ih => rw [callsOfItems, Nat.max_le, ih, List.forall_mem_cons]

theorem callsOfMembers_le_iff :
    cost.callsOfMembers members ≤ n ↔
      ∀ entry ∈ members, cost.scalar ≤ n ∧ cost.calls entry.2 ≤ n := by
  induction members with
  | nil => simp [callsOfMembers]
  | cons entry rest ih =>
      rw [callsOfMembers, Nat.max_le, Nat.max_le, ih, List.forall_mem_cons]

theorem calls_arr_le_iff :
    cost.calls (.arr items) ≤ n ↔
      cost.container ≤ n ∧ cost.level + cost.callsOfItems items ≤ n := by
  rw [calls, Nat.max_le]

theorem calls_obj_le_iff :
    cost.calls (.obj members) ≤ n ↔
      cost.container ≤ n ∧ cost.level + cost.callsOfMembers members ≤ n := by
  rw [calls, Nat.max_le]

/-- A list takes more calls than what is in it. -/
theorem calls_lt_of_mem (cost : CopyCost) {v : Json} (h : v ∈ items) :
    cost.calls v < cost.calls (.arr items) := by
  obtain ⟨-, hlevel⟩ := calls_arr_le_iff.1 (Nat.le_refl (cost.calls (.arr items)))
  have hitem : cost.calls v ≤ cost.callsOfItems items := callsOfItems_le_iff.1 (Nat.le_refl _) v h
  have hpos := cost.level_pos
  omega

theorem calls_lt_of_mem_members (cost : CopyCost) {name : String} {v : Json} (h : (name, v) ∈ members) :
    cost.calls v < cost.calls (.obj members) := by
  obtain ⟨-, hlevel⟩ := calls_obj_le_iff.1 (Nat.le_refl (cost.calls (.obj members)))
  have hmember : cost.calls v ≤ cost.callsOfMembers members :=
    (callsOfMembers_le_iff.1 (Nat.le_refl _) (name, v) h).2
  have hpos := cost.level_pos
  omega

end CopyCost

namespace Conversation

variable {room : Room} {messages : Json} {items : List Json}

theorem isTooDeep_arr_eq_false_iff :
    room.isTooDeep (.arr items) = false ↔ room.copyCost.calls (.arr items) ≤ room.copies := by
  simp [Room.isTooDeep]

/-! ## Messages that no room suffices for -/

/-- A list in a list, so many times. -/
def nested : Nat → Json
  | 0 => .arr []
  | n + 1 => .arr [nested n]

theorem le_calls_nested (cost : CopyCost) (n : Nat) : n ≤ cost.calls (nested n) := by
  induction n with
  | zero => exact Nat.zero_le _
  | succ n ih =>
      exact Nat.succ_le_of_lt (Nat.lt_of_le_of_lt ih (cost.calls_lt_of_mem List.mem_cons_self))

/-- A message of the assistant that nests so many levels deep. -/
def tangled (n : Nat) : Json := .obj [("role", .str "assistant"), ("content", nested n)]

theorem le_calls_tangled (cost : CopyCost) (n : Nat) : n ≤ cost.calls (tangled n) := by
  have hmember : cost.calls (nested n) < cost.calls (tangled n) :=
    cost.calls_lt_of_mem_members (List.mem_cons_of_mem _ List.mem_cons_self)
  exact Nat.le_trans (le_calls_nested cost n) (Nat.le_of_lt hmember)

theorem isTooDeep_of_mem {m : Json} (hm : m ∈ items) (h : room.copies ≤ room.copyCost.calls m) :
    room.isTooDeep (.arr items) = true :=
  decide_eq_true (Nat.lt_of_le_of_lt h (room.copyCost.calls_lt_of_mem hm))

/-! ## Messages with a text in front -/

/-- A part with a text; what the text says does not change what it takes to copy it. -/
def textPart (text : String) : Json := .obj [("type", .str "text"), ("text", .str text)]

/-- There is room to copy a message with one part of text. -/
def IsAmple (room : Room) : Prop :=
  room.isTooDeep (.arr [.obj [("content", .arr [textPart ""])]]) = false

section Costs

variable {cost : CopyCost} {lead : String} {content : Option Json} {message : Json} {n : Nat}

theorem calls_prefaced_le (hn : cost.calls (.arr [textPart ""]) ≤ n)
    (h : ∀ v, content = some v → cost.calls v ≤ n) : cost.calls (prefaced lead content) ≤ n := by
  obtain ⟨hcontainer, hpart⟩ := CopyCost.calls_arr_le_iff.1 hn
  have hscalar : cost.scalar ≤ n := by
    have hmember : cost.calls (.str "") < cost.calls (textPart "") :=
      cost.calls_lt_of_mem_members (List.mem_cons_of_mem _ List.mem_cons_self)
    have hitem := cost.calls_lt_of_mem (List.mem_singleton_self (textPart ""))
    exact Nat.le_of_lt (Nat.lt_of_lt_of_le (Nat.lt_trans hmember hitem) hn)
  cases content with
  | none => exact hscalar
  | some v =>
      have hv : cost.calls v ≤ n := h v rfl
      cases v with
      | arr parts =>
          obtain ⟨-, hparts⟩ := CopyCost.calls_arr_le_iff.1 hv
          refine CopyCost.calls_arr_le_iff.2 ⟨hcontainer, ?_⟩
          change cost.level + max (cost.calls (textPart "")) (cost.callsOfItems parts) ≤ n
          rw [CopyCost.callsOfItems, CopyCost.callsOfItems] at hpart
          omega
      | _ => exact hscalar

theorem calls_prefaceMessage_le
    (hn : cost.calls (.obj [("content", .arr [textPart ""])]) ≤ n) (h : cost.calls message ≤ n) :
    cost.calls (prefaceMessage lead message) ≤ n := by
  cases message with
  | obj members =>
      obtain ⟨hcontainer, hmembers⟩ := CopyCost.calls_obj_le_iff.1 h
      obtain ⟨-, hcontent⟩ := CopyCost.calls_obj_le_iff.1 hn
      rw [CopyCost.callsOfMembers, CopyCost.callsOfMembers] at hcontent
      refine CopyCost.calls_obj_le_iff.2 ⟨hcontainer, ?_⟩
      have hassigned : cost.callsOfMembers (Json.assign "content"
          (prefaced lead (Json.lookup "content" members)) members) ≤ n - cost.level := by
        have hold (entry : String × Json) (hentry : entry ∈ members) :
            cost.calls entry.2 ≤ n - cost.level :=
          (CopyCost.callsOfMembers_le_iff.1 (Nat.le_sub_of_add_le' hmembers) entry hentry).2
        rw [CopyCost.callsOfMembers_le_iff]
        intro entry hentry
        refine ⟨by omega, ?_⟩
        rcases Json.mem_assign hentry with hnew | hkept
        · rw [hnew]
          dsimp only
          exact calls_prefaced_le (by omega) fun v hv => hold _ (Json.mem_of_lookup hv)
        · exact hold entry hkept
      omega
  | _ => exact h

end Costs

/-- Where there is room for a message of one part, messages that can be copied can be copied again with a text
in front of one of them. -/
theorem isTooDeep_inject (hroom : IsAmple room) (h : room.isTooDeep messages = false)
    (context : String) (today : Date) :
    room.isTooDeep (inject messages context today) = false := by
  cases huser : hasUserMessage messages with
  | false => rwa [inject_of_none huser]
  | true =>
      obtain ⟨before, message, after, rfl, hlast⟩ := exists_isLastUser huser
      rw [hlast.inject]
      rw [isTooDeep_arr_eq_false_iff, CopyCost.calls_arr_le_iff] at h ⊢
      rw [IsAmple, isTooDeep_arr_eq_false_iff, CopyCost.calls_arr_le_iff] at hroom
      obtain ⟨hcontainer, hitems⟩ := h
      obtain ⟨-, hpart⟩ := hroom
      refine ⟨hcontainer, ?_⟩
      have hassigned : room.copyCost.callsOfItems
          (before ++ prefaceMessage (preface context today) message :: after) ≤
            room.copies - room.copyCost.level := by
        have hold := CopyCost.callsOfItems_le_iff.1 (Nat.le_sub_of_add_le' hitems)
        rw [CopyCost.callsOfItems, CopyCost.callsOfItems] at hpart
        rw [CopyCost.callsOfItems_le_iff]
        simp only [List.forall_mem_append, List.forall_mem_cons] at hold ⊢
        obtain ⟨hbefore, hmessage, hafter⟩ := hold
        exact ⟨hbefore, calls_prefaceMessage_le (by omega) hmessage, hafter⟩
      omega

end Conversation

end Grounding
