import Grounding.Http.Surface
import Grounding.Proofs.Conversation.LastUser
import Mathlib.Tactic.SplitIfs

/-!
# How deep messages nest

Messages that pass their check are objects.  A text before a message does not change how deep it nests,
unless it replaces a content; so what the text says never decides whether the message is shallow enough to
be sent back.
-/

namespace Grounding.Http

open Conversation (prefaced prefaceMessage inject)

theorem isTooDeep_eq_false_iff {members : List (String × Json)} :
    isTooDeep (.obj members) = false ↔ ∀ entry ∈ members, entry.2.depth ≤ Response.depthLimit := by
  simp [isTooDeep]

/-- None of the messages nests too deep to be sent back. -/
def Shallow (messages : Json) : Prop :=
  ∀ items, messages = .arr items → ∀ m ∈ items, isTooDeep m = false

@[simp] theorem shallow_arr {items : List Json} :
    Shallow (.arr items) ↔ ∀ m ∈ items, isTooDeep m = false := by
  simp [Shallow]

/-! ## Messages with a text in front -/

/-- A content is as deep with one text in front as with another. -/
theorem depth_prefaced_congr (lead other : String) (content : Option Json) :
    (prefaced lead content).depth = (prefaced other content).depth := by
  cases content with
  | none => rfl
  | some v => cases v <;> rfl

theorem depth_prefaced_le {lead : String} {content : Option Json} {n : Nat} (hn : 3 ≤ n)
    (h : ∀ v, content = some v → v.depth ≤ n) : (prefaced lead content).depth ≤ n := by
  cases content with
  | none =>
      show 1 ≤ n
      omega
  | some v =>
      have hv : v.depth ≤ n := h v rfl
      cases v with
      | arr parts =>
          -- The part that comes first is an object of texts, so the list is at least three levels deep.
          simp only [prefaced, Json.depth, Json.depthOfItems, Json.depthOfMembers] at hv ⊢
          omega
      | _ =>
          show 1 ≤ n
          omega

theorem any_assign_congr {p : Json → Bool} {v w : Json} (h : p v = p w) (name : String)
    (members : List (String × Json)) :
    ((Json.assign name v members).any fun entry => p entry.2) =
      (Json.assign name w members).any fun entry => p entry.2 := by
  induction members with
  | nil => simp [Json.assign, h]
  | cons entry rest ih =>
      obtain ⟨key, old⟩ := entry
      by_cases hkey : key = name
      · simp [Json.assign, hkey, h]
      · simp [Json.assign, hkey, ih]

theorem isTooDeep_prefaceMessage_congr (lead other : String) (message : Json) :
    isTooDeep (prefaceMessage lead message) = isTooDeep (prefaceMessage other message) := by
  cases message with
  | obj members =>
      have hdepth := depth_prefaced_congr lead other (Json.lookup "content" members)
      exact any_assign_congr (p := fun v => decide (Response.depthLimit < v.depth))
        (by rw [hdepth]) "content" members
  | _ => rfl

theorem isTooDeep_prefaceMessage {message : Json} (h : isTooDeep message = false) (lead : String) :
    isTooDeep (prefaceMessage lead message) = false := by
  cases message with
  | obj members =>
      have hmembers := isTooDeep_eq_false_iff.1 h
      refine isTooDeep_eq_false_iff.2 fun entry hentry => ?_
      rcases Json.mem_assign hentry with hnew | hold
      · rw [hnew]
        exact depth_prefaced_le (by decide) fun v hv => hmembers _ (Json.mem_of_lookup hv)
      · exact hmembers entry hold
  | _ => rfl

/-- A text in front makes no message too deep. -/
theorem Shallow.inject {messages : Json} (h : Shallow messages) (context : String) (today : Date) :
    Shallow (inject messages context today) := by
  cases huser : Conversation.hasUserMessage messages with
  | false => rwa [Conversation.inject_of_none huser]
  | true =>
      obtain ⟨before, message, after, rfl, hlast⟩ := Conversation.exists_isLastUser huser
      rw [hlast.inject]
      simp only [shallow_arr, List.forall_mem_append, List.forall_mem_cons] at h ⊢
      obtain ⟨hbefore, hmessage, hafter⟩ := h
      exact ⟨hbefore, isTooDeep_prefaceMessage hmessage _, hafter⟩

/-- Whether messages can be sent back does not depend on the text in front of one of them. -/
theorem shallow_inject_congr (messages : Json) (context other : String) (today day : Date) :
    Shallow (inject messages context today) ↔ Shallow (inject messages other day) := by
  cases huser : Conversation.hasUserMessage messages with
  | false => rw [Conversation.inject_of_none huser, Conversation.inject_of_none huser]
  | true =>
      obtain ⟨before, message, after, rfl, hlast⟩ := Conversation.exists_isLastUser huser
      have hdepth := isTooDeep_prefaceMessage_congr (Conversation.preface context today)
        (Conversation.preface other day) message
      rw [hlast.inject, hlast.inject]
      simp only [shallow_arr, List.forall_mem_append, List.forall_mem_cons, hdepth]

end Grounding.Http
