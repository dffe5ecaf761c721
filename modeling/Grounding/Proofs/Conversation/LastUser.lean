import Grounding.Conversation.Loose

/-!
# The last message of the user

The gate, the query and the injection each go through the messages on their own, one forwards and two
backwards.  All three meet at one place: the message of the user that only others' messages follow.  The
gate asks whether there is one, the query is its text, and the injection changes its content alone.
-/

namespace Grounding.Conversation

/-! ## Changing the last of some elements -/

section ChangeLast

variable {α : Type} {p : α → Bool} {f : α → α}

theorem changeFirst_append {before rest : List α} {a : α} (hbefore : ∀ b ∈ before, p b = false)
    (ha : p a = true) : changeFirst p f (before ++ a :: rest) = before ++ f a :: rest := by
  induction before with
  | nil => simp [changeFirst, ha]
  | cons b before ih =>
      have hb := hbefore b (by simp)
      simp [changeFirst, hb, ih fun c hc => hbefore c (by simp [hc])]

theorem changeFirst_of_none {l : List α} (h : ∀ b ∈ l, p b = false) : changeFirst p f l = l := by
  induction l with
  | nil => rfl
  | cons b rest ih =>
      have hb := h b (by simp)
      simp [changeFirst, hb, ih fun c hc => h c (by simp [hc])]

theorem changeLast_append {before after : List α} {a : α} (ha : p a = true)
    (hafter : ∀ b ∈ after, p b = false) :
    changeLast p f (before ++ a :: after) = before ++ f a :: after := by
  have hreverse : (before ++ a :: after).reverse = after.reverse ++ a :: before.reverse := by simp
  unfold changeLast
  rw [hreverse, changeFirst_append (by simpa using hafter) ha]
  simp

theorem changeLast_of_none {l : List α} (h : ∀ b ∈ l, p b = false) : changeLast p f l = l := by
  unfold changeLast
  rw [changeFirst_of_none (by simpa using h), List.reverse_reverse]

end ChangeLast

/-! ## Where the last message of the user stands -/

/-- The message is the user's, and none of those after it is. -/
structure IsLastUser (message : Json) (after : List Json) : Prop where
  isUser : isUserMessage message = true
  othersAfter : ∀ m ∈ after, isUserMessage m = false

theorem hasUserMessage_eq_false_iff {items : List Json} :
    hasUserMessage (.arr items) = false ↔ ∀ m ∈ items, isUserMessage m = false := by
  simp [hasUserMessage]

/-- Messages with one of the user's can be cut at the last of them. -/
theorem exists_isLastUser {messages : Json} (h : hasUserMessage messages = true) :
    ∃ before message after, messages = .arr (before ++ message :: after) ∧
      IsLastUser message after := by
  cases messages with
  | arr items =>
      obtain ⟨message, hfind⟩ : ∃ message, items.reverse.find? isUserMessage = some message := by
        rw [← Option.isSome_iff_exists, List.find?_isSome]
        simpa [hasUserMessage] using h
      obtain ⟨hmessage, after, before, hsplit, hafter⟩ := List.find?_eq_some_iff_append.1 hfind
      refine ⟨before.reverse, message, after.reverse, ?_, hmessage, ?_⟩
      · rw [← List.reverse_reverse items, hsplit]
        simp
      · simpa using hafter
  | _ => contradiction

section Place

variable {before after : List Json} {message : Json} (h : IsLastUser message after)
include h

theorem IsLastUser.hasUserMessage :
    hasUserMessage (.arr (before ++ message :: after)) = true := by
  simp [Conversation.hasUserMessage, h.isUser]

theorem IsLastUser.lastUserMessage? :
    lastUserMessage? (.arr (before ++ message :: after)) = some message := by
  rw [Conversation.lastUserMessage?, List.find?_eq_some_iff_append]
  exact ⟨h.isUser, after.reverse, before.reverse, by simp, by simpa using h.othersAfter⟩

/-- The query is the text of the last message of the user. -/
theorem IsLastUser.lastQuery :
    lastQuery (.arr (before ++ message :: after)) = contentText (message.get? "content") := by
  rw [Conversation.lastQuery, h.lastUserMessage?]

/-- The injection changes the last message of the user and no other. -/
theorem IsLastUser.inject (context : String) (today : Date) :
    inject (.arr (before ++ message :: after)) context today =
      .arr (before ++ prefaceMessage (preface context today) message :: after) := by
  rw [Conversation.inject, changeLast_append h.isUser h.othersAfter]

end Place

theorem lastQuery_of_none {messages : Json} (h : hasUserMessage messages = false) :
    lastQuery messages = "" := by
  cases messages with
  | arr items =>
      have hnone : lastUserMessage? (.arr items) = none := by
        rw [lastUserMessage?, List.find?_eq_none]
        intro m hm
        simp [hasUserMessage_eq_false_iff.1 h m (List.mem_reverse.1 hm)]
      rw [lastQuery, hnone]
  | _ => rfl

theorem inject_of_none {messages : Json} (h : hasUserMessage messages = false) (context : String)
    (today : Date) : inject messages context today = messages := by
  cases messages with
  | arr items => rw [inject, changeLast_of_none (hasUserMessage_eq_false_iff.1 h)]
  | _ => rfl

/-- The gate looks at nothing in the messages but whether one of them is the user's. -/
theorem shouldAugment_congr {one two : Json} (h : hasUserMessage one = hasUserMessage two)
    (options : Options) : shouldAugment one options = shouldAugment two options := by
  unfold shouldAugment
  rw [h]

/-! ## What a text in front does to a message -/

/-- A content with a text in front of it.  A list of parts gets a part of its own, and a content that is
neither a text nor a list is replaced. -/
inductive Leads (lead : String) : Option Json → Json → Prop
  | text (s : String) : Leads lead (some (.str s)) (.str (lead ++ s))
  | parts (parts : List Json) :
      Leads lead (some (.arr parts))
        (.arr (.obj [("type", .str "text"), ("text", .str lead)] :: parts))
  | other {content : Option Json} (htext : ∀ s, content ≠ some (.str s))
      (hparts : ∀ parts, content ≠ some (.arr parts)) : Leads lead content (.str lead)

theorem leads_prefaced (lead : String) (content : Option Json) :
    Leads lead content (prefaced lead content) := by
  cases content with
  | none => exact .other (by simp) (by simp)
  | some v =>
      cases v with
      | str s => exact .text s
      | arr parts => exact .parts parts
      | _ => exact .other (by simp) (by simp)

/-- The same message with a text in front of its content. -/
structure LeadsMessage (lead : String) (old new : Json) : Prop where
  content : ∃ v, new.get? "content" = some v ∧ Leads lead (old.get? "content") v
  others : ∀ name, name ≠ "content" → new.get? name = old.get? name

theorem content_prefaceMessage (lead : String) {message : Json} (h : isUserMessage message = true) :
    (prefaceMessage lead message).get? "content" =
      some (prefaced lead (message.get? "content")) := by
  cases message with
  | obj members => exact Json.lookup_assign_self _ _ _
  | _ => contradiction

theorem leadsMessage_prefaceMessage (lead : String) {message : Json}
    (h : isUserMessage message = true) : LeadsMessage lead message (prefaceMessage lead message) := by
  refine ⟨⟨_, content_prefaceMessage lead h, leads_prefaced lead _⟩, ?_⟩
  intro name hname
  cases message with
  | obj members => exact Json.lookup_assign_of_ne hname.symm _ _
  | _ => contradiction

/-- A message stays the user's, whatever is put in front of its content. -/
theorem isUserMessage_prefaceMessage (lead : String) (message : Json) :
    isUserMessage (prefaceMessage lead message) = isUserMessage message := by
  cases message with
  | obj members =>
      have hrole : Json.lookup "role" (Json.assign "content"
          (prefaced lead (Json.lookup "content" members)) members) = Json.lookup "role" members :=
        Json.lookup_assign_of_ne (by decide) _ _
      simp only [isUserMessage, prefaceMessage, hrole]
  | _ => rfl

theorem IsLastUser.prefaceMessage {message : Json} {after : List Json} (h : IsLastUser message after)
    (lead : String) : IsLastUser (Conversation.prefaceMessage lead message) after :=
  ⟨(isUserMessage_prefaceMessage lead message).trans h.isUser, h.othersAfter⟩

/-- The same messages with a text in front of the last one of the user, if there is one. -/
inductive LeadsMessages (lead : String) : Json → Json → Prop
  | lastUser {before after : List Json} {old new : Json} (h : IsLastUser old after)
      (hnew : LeadsMessage lead old new) :
      LeadsMessages lead (.arr (before ++ old :: after)) (.arr (before ++ new :: after))
  | none {messages : Json} (h : hasUserMessage messages = false) :
      LeadsMessages lead messages messages

theorem leadsMessages_inject (messages : Json) (context : String) (today : Date) :
    LeadsMessages (preface context today) messages (inject messages context today) := by
  cases huser : hasUserMessage messages with
  | false =>
      rw [inject_of_none huser]
      exact .none huser
  | true =>
      obtain ⟨before, message, after, rfl, hlast⟩ := exists_isLastUser huser
      rw [hlast.inject]
      exact .lastUser hlast (leadsMessage_prefaceMessage _ hlast.isUser)

theorem hasUserMessage_inject (messages : Json) (context : String) (today : Date) :
    hasUserMessage (inject messages context today) = hasUserMessage messages := by
  cases huser : hasUserMessage messages with
  | false => rw [inject_of_none huser, huser]
  | true =>
      obtain ⟨before, message, after, rfl, hlast⟩ := exists_isLastUser huser
      rw [hlast.inject, (hlast.prefaceMessage _).hasUserMessage]

/-- The user asks about leave. -/
def leaveMessage : Json := .obj [("role", .str "user"), ("content", .str "leave")]

end Grounding.Conversation
