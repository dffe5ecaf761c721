import Grounding.Proofs.Conversation.Frame

/-!
# Texts in front of texts

The gate, the query and the injection find the same message before an injection and after it.  So a text that
was put in front of a query begins the next one, and texts that are put in front one after the other pile up
on one message, the last of them first.
-/

namespace Grounding.Conversation

theorem preface_ne_empty (context : String) (today : Date) : preface context today ≠ "" := by
  simp [preface, queryMark]

/-! ## Parts that say something -/

/-- A text part with a text that is not empty. -/
def Speaks (part : Json) : Prop :=
  ∃ text, text ≠ "" ∧ part.get? "type" = some (.str "text") ∧ part.get? "text" = some (.str text)

theorem partText?_eq_some_iff {part : Json} {text : String} :
    partText? part = some text ↔ text ≠ "" ∧ part.get? "type" = some (.str "text") ∧
      part.get? "text" = some (.str text) := by
  unfold partText?
  split
  · next kind said hkind hsaid =>
    rw [hkind, hsaid]
    grind
  · next hother => grind

theorem partText?_eq_none_iff {part : Json} : partText? part = none ↔ ¬ Speaks part := by
  rw [Option.eq_none_iff_forall_ne_some]
  simp only [Speaks, ne_eq, partText?_eq_some_iff, not_exists]

theorem partText?_lead {lead : String} (h : lead ≠ "") :
    partText? (.obj [("type", .str "text"), ("text", .str lead)]) = some lead :=
  partText?_eq_some_iff.2 ⟨h, rfl, rfl⟩

/-! ## Queries with texts in front -/

/-- The query of a content with texts in front of it, put there one after the other. -/
def stackedQuery (leads : List String) : Option Json → String
  | some (.arr parts) => " ".intercalate (leads.reverse ++ parts.filterMap partText?)
  | content => String.join leads.reverse ++ contentText content

theorem stackedQuery_nil (content : Option Json) : stackedQuery [] content = contentText content := by
  cases content with
  | none => rfl
  | some v => cases v <;> simp [stackedQuery, contentText]

theorem stackedQuery_prefaced {lead : String} (hlead : lead ≠ "") (leads : List String)
    (content : Option Json) :
    stackedQuery leads (some (prefaced lead content)) = stackedQuery (lead :: leads) content := by
  cases content with
  | none => simp [stackedQuery, prefaced, contentText]
  | some v =>
      cases v with
      | arr parts => simp [stackedQuery, prefaced, List.filterMap_cons_some (partText?_lead hlead)]
      | _ => simp [stackedQuery, prefaced, contentText, String.append_assoc]

/-- A text in front of a message is the first of those that are put there. -/
theorem stackedQuery_prefaceMessage {message : Json} (huser : isUserMessage message = true)
    {lead : String} (hlead : lead ≠ "") (leads : List String) :
    stackedQuery leads ((prefaceMessage lead message).get? "content") =
      stackedQuery (lead :: leads) (message.get? "content") := by
  rw [content_prefaceMessage lead huser, stackedQuery_prefaced hlead]

/-- The query after one text was put in front. -/
inductive LeadsQuery (lead query : String) : Option Json → String → Prop
  | plain {content : Option Json} (h : ∀ parts, content ≠ some (.arr parts)) :
      LeadsQuery lead query content (lead ++ query)
  | spoken {parts : List Json} (h : ∃ part ∈ parts, Speaks part) :
      LeadsQuery lead query (some (.arr parts)) (lead ++ " " ++ query)
  | silent {parts : List Json} (h : ∀ part ∈ parts, ¬ Speaks part) :
      LeadsQuery lead query (some (.arr parts)) lead

theorem leadsQuery_stackedQuery (lead : String) (content : Option Json) :
    LeadsQuery lead (contentText content) content (stackedQuery [lead] content) := by
  by_cases hparts : ∃ parts, content = some (.arr parts)
  · obtain ⟨parts, rfl⟩ := hparts
    change LeadsQuery lead (" ".intercalate (parts.filterMap partText?)) _
      (" ".intercalate (lead :: parts.filterMap partText?))
    by_cases hspoken : ∃ part ∈ parts, Speaks part
    · have htexts : parts.filterMap partText? ≠ [] := by
        obtain ⟨part, hpart, text, htext⟩ := hspoken
        exact List.ne_nil_of_mem (List.mem_filterMap.2 ⟨part, hpart, partText?_eq_some_iff.2 htext⟩)
      rw [String.intercalate_cons_of_ne_nil htexts]
      exact .spoken hspoken
    · have hsilent : ∀ part ∈ parts, ¬ Speaks part := fun part hpart hsaid =>
        hspoken ⟨part, hpart, hsaid⟩
      have htexts : parts.filterMap partText? = [] :=
        List.filterMap_eq_nil_iff.2 fun part hpart => partText?_eq_none_iff.2 (hsilent part hpart)
      rw [htexts, String.intercalate_singleton]
      exact .silent hsilent
  · have hplain : ∀ parts, content ≠ some (.arr parts) := fun parts h => hparts ⟨parts, h⟩
    have hquery : stackedQuery [lead] content = lead ++ contentText content := by
      unfold stackedQuery
      split
      · exact absurd rfl (hplain _)
      · simp
    rw [hquery]
    exact .plain hplain

/-! ## One injection -/

/-- The messages after an injection are asked about like those before it, and as far as there is a query, it
begins with the new text. -/
structure AgreesAfter (lead : String) (messages new : Json) : Prop where
  gate (params : Json) :
    (Options.ofJson params).map (shouldAugment new) =
      (Options.ofJson params).map (shouldAugment messages)
  query {before after : List Json} {message : Json}
    (h : messages = .arr (before ++ message :: after)) (hlast : IsLastUser message after) :
    LeadsQuery lead (lastQuery messages) (message.get? "content") (lastQuery new)
  noQuery (h : hasUserMessage messages = false) : lastQuery messages = "" ∧ lastQuery new = ""

/-- Injecting gives messages that agree with those before on everything but the new text. -/
def Agrees (room : Room) (messages : Json) (context : String) (today : Date) : Prop :=
  ∃ new, (injectKept room messages (.str context) today).result = .ok new ∧
    AgreesAfter (preface context today) messages new

theorem agreesAfter_inject (messages : Json) (context : String) (today : Date) :
    AgreesAfter (preface context today) messages (inject messages context today) where
  gate params := by
    have hgate : shouldAugment (inject messages context today) = shouldAugment messages :=
      funext (shouldAugment_congr (hasUserMessage_inject messages context today))
    rw [hgate]
  query {before after message} h hlast := by
    have hnew : lastQuery (inject messages context today) =
        stackedQuery [preface context today] (message.get? "content") := by
      rw [h, hlast.inject, (hlast.prefaceMessage _).lastQuery, ← stackedQuery_nil,
        stackedQuery_prefaceMessage hlast.isUser (preface_ne_empty context today)]
    rw [hnew, h, hlast.lastQuery]
    exact leadsQuery_stackedQuery _ _
  noQuery h := by
    rw [inject_of_none h]
    exact ⟨lastQuery_of_none h, lastQuery_of_none h⟩

theorem agrees_iff {room : Room} {messages : Json} {context : String} {today : Date} :
    Agrees room messages context today ↔ room.isTooDeep messages = false := by
  constructor
  · rintro ⟨new, hnew, -⟩
    exact isTooDeep_of_injectKept hnew
  · intro hshallow
    exact ⟨_, injectKept_of_shallow hshallow context today, agreesAfter_inject messages context today⟩

/-! ## Injections one after the other -/

/-- Injects contexts one after the other, each with its day. -/
def injectAll (room : Room) (messages : Json) (contexts : List (String × Date)) :
    Except InjectionFault Json :=
  contexts.foldlM (fun messages c => (injectKept room messages (.str c.1) c.2).result) messages

def leadsOf (contexts : List (String × Date)) : List String :=
  contexts.map fun c => preface c.1 c.2

/-- The same message with texts in front of its content, put there one after the other. -/
structure Stacks (leads : List String) (old new : Json) : Prop where
  query : contentText (new.get? "content") = stackedQuery leads (old.get? "content")
  others : ∀ name, name ≠ "content" → new.get? name = old.get? name

theorem Stacks.cons {lead : String} {leads : List String} {message new : Json}
    (huser : isUserMessage message = true) (hlead : lead ≠ "")
    (h : Stacks leads (prefaceMessage lead message) new) : Stacks (lead :: leads) message new where
  query := h.query.trans (stackedQuery_prefaceMessage huser hlead leads)
  others name hname := (h.others name hname).trans
    ((leadsMessage_prefaceMessage lead huser).others name hname)

/-- All injections change the same message. -/
theorem injectAll_of_isLastUser {room : Room} (hroom : IsAmple room) {before after : List Json}
    {message : Json} (hlast : IsLastUser message after)
    (hshallow : room.isTooDeep (.arr (before ++ message :: after)) = false)
    (contexts : List (String × Date)) :
    ∃ new, injectAll room (.arr (before ++ message :: after)) contexts =
        .ok (.arr (before ++ new :: after)) ∧
      IsLastUser new after ∧ Stacks (leadsOf contexts) message new := by
  induction contexts generalizing message with
  | nil =>
      refine ⟨message, rfl, hlast, (stackedQuery_nil _).symm, ?_⟩
      intro name hname
      rfl
  | cons c rest ih =>
      have hfirst := injectKept_of_shallow hshallow c.1 c.2
      have hagain := isTooDeep_inject hroom hshallow c.1 c.2
      rw [hlast.inject] at hfirst hagain
      obtain ⟨new, hnew, hstays, hstacks⟩ := ih (hlast.prefaceMessage _) hagain
      refine ⟨new, ?_, hstays, hstacks.cons hlast.isUser (preface_ne_empty c.1 c.2)⟩
      rw [injectAll, List.foldlM_cons, hfirst]
      exact hnew

/-- Gate, query and injection mean the same message.  An injection that can be made leaves the gate as it was
and begins the query with its text, and so the texts of injections pile up on one message, as long as there
is room for the parts that they add. -/
theorem injections_stack (room : Room) (messages : Json) :
    (∀ context today, Agrees room messages context today ↔ room.isTooDeep messages = false) ∧
    ∀ before message after contexts, messages = .arr (before ++ message :: after) →
      IsLastUser message after → IsAmple room → room.isTooDeep messages = false →
      ∃ new, injectAll room messages contexts = .ok (.arr (before ++ new :: after)) ∧
        IsLastUser new after ∧ Stacks (leadsOf contexts) message new ∧
        lastQuery (.arr (before ++ new :: after)) =
          stackedQuery (leadsOf contexts) (message.get? "content") := by
  refine ⟨fun context today => agrees_iff, ?_⟩
  rintro before message after contexts rfl hlast hroom hshallow
  obtain ⟨new, hnew, hstays, hstacks⟩ := injectAll_of_isLastUser hroom hlast hshallow contexts
  exact ⟨new, hnew, hstays, hstacks, hstays.lastQuery.trans hstacks.query⟩

/-- A message that is not the user's. -/
def briefMessage : Json := .obj [("role", .str "system"), ("content", .str "be brief")]

/-- A message of the user with a picture before its text. -/
def picturedMessage : Json :=
  .obj [("role", .str "user"), ("content", .arr [.obj [("type", .str "image_url")],
    .obj [("type", .str "text"), ("text", .str "leave")]])]

theorem injections_stack_pictured :
    IsLastUser picturedMessage [briefMessage] ∧ IsAmple .usual ∧
      Room.usual.isTooDeep (.arr [briefMessage, picturedMessage, briefMessage]) = false ∧
      Agrees .usual (.arr [briefMessage, picturedMessage, briefMessage]) "a" ⟨2026, 3, 7⟩ ∧
      ∃ new, injectAll .usual (.arr [briefMessage, picturedMessage, briefMessage])
          [("a", ⟨2026, 3, 7⟩), ("", ⟨2026, 3, 8⟩)] =
            .ok (.arr [briefMessage, new, briefMessage]) ∧
        IsLastUser new [briefMessage] ∧
        lastQuery (.arr [briefMessage, new, briefMessage]) =
          "[System Note] Current date: 2026-03-08\n\nUser Query:  a\n\nUser Query:  leave" := by
  have hlast : IsLastUser picturedMessage [briefMessage] := ⟨by decide, by decide⟩
  have hroom : IsAmple .usual := by
    unfold IsAmple
    decide
  have hshallow :
      Room.usual.isTooDeep (.arr [briefMessage, picturedMessage, briefMessage]) = false := by decide
  obtain ⟨hagrees, hstacks⟩ :=
    injections_stack .usual (.arr [briefMessage, picturedMessage, briefMessage])
  obtain ⟨new, hnew, hstays, -, hquery⟩ := hstacks [briefMessage] _ _
    [("a", ⟨2026, 3, 7⟩), ("", ⟨2026, 3, 8⟩)] rfl hlast hroom hshallow
  refine ⟨hlast, hroom, hshallow, (hagrees "a" ⟨2026, 3, 7⟩).2 hshallow, new, hnew, hstays, ?_⟩
  refine hquery.trans ?_
  decide +kernel

theorem not_agrees_tangled : ¬ Agrees .usual tangledMessages "c" ⟨2026, 3, 7⟩ := by
  simp [agrees_iff, isTooDeep_tangledMessages]

end Grounding.Conversation
