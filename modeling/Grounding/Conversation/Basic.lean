import Grounding.Conversation.Date
import Grounding.Json.Value
import Grounding.Notices

/-!
# Chat messages

A conversation is a list of messages, each an object with a role and a content; the content is a text
or a list of parts.  The last message of the user is the one that is looked up, and the one that the
found context is put into.  Anything else that a caller sends is passed through untouched.
-/

namespace Grounding.Conversation

abbrev Options := List (String × Json)

def isUserMessage : Json → Bool
  | .obj members =>
    match Json.lookup "role" members with
    | some (.str role) => role == "user"
    | _ => false
  | _ => false

def hasUserMessage : Json → Bool
  | .arr messages => messages.any isUserMessage
  | _ => false

/-- The option that decides. -/
def choiceName : String := "rag_enabled"

/-- Whether a request should be augmented.  A flag in the options decides alone; an option that is no
flag is ignored with a notice. -/
def shouldAugment (messages : Json) (options : Options) : Noted Bool :=
  match Json.lookup choiceName options with
  | some (.bool choice) => ⟨choice, 0⟩
  | some _ => ⟨hasUserMessage messages, 1⟩
  | none => ⟨hasUserMessage messages, 0⟩

def lastUserMessage? : Json → Option Json
  | .arr messages => messages.reverse.find? isUserMessage
  | _ => none

/-- The text of a part, if it is a text part and not empty. -/
def partText? (part : Json) : Option String :=
  match part.get? "type", part.get? "text" with
  | some (.str kind), some (.str text) => if kind = "text" ∧ text ≠ "" then some text else none
  | _, _ => none

/-- The text of a content; the text parts of a list are joined with spaces. -/
def contentText : Option Json → String
  | some (.str text) => text
  | some (.arr parts) => " ".intercalate (parts.filterMap partText?)
  | _ => ""

def lastQuery (messages : Json) : String :=
  match lastUserMessage? messages with
  | some message => contentText (message.get? "content")
  | none => ""

def changeFirst {α : Type} (p : α → Bool) (f : α → α) : List α → List α
  | [] => []
  | a :: rest => if p a then f a :: rest else a :: changeFirst p f rest

def changeLast {α : Type} (p : α → Bool) (f : α → α) (l : List α) : List α :=
  (changeFirst p f l.reverse).reverse

def queryMark : String := "\n\nUser Query: "

def dateNote (today : Date) : String := "[System Note] Current date: " ++ today.text

/-- What goes before the query: the context, or a note of the date when there is none. -/
def preface (context : String) (today : Date) : String :=
  (if context = "" then dateNote today else context) ++ queryMark

/-- A content with a preface.  A list of parts gets a part of its own in front. -/
def prefaced (lead : String) : Option Json → Json
  | some (.arr parts) => .arr (.obj [("type", .str "text"), ("text", .str lead)] :: parts)
  | some (.str text) => .str (lead ++ text)
  | _ => .str lead

def prefaceMessage (lead : String) : Json → Json
  | .obj members =>
    .obj (Json.assign "content" (prefaced lead (Json.lookup "content" members)) members)
  | message => message

def inject (messages : Json) (context : String) (today : Date) : Json :=
  match messages with
  | .arr items => .arr (changeLast isUserMessage (prefaceMessage (preface context today)) items)
  | _ => messages

end Grounding.Conversation
