import Grounding.Conversation.Basic
import Grounding.Room
import Grounding.Text.Quoted

/-!
# Loosely typed options and contexts

A caller may hand in options that are no object, a context that is no text, or messages that nest too
deep to be copied.  As long as nothing has to be taken out of the options, nothing has to be put before
the context and no copy is made, that does no harm.
-/

namespace Grounding.Conversation

inductive OptionsFault where
  /-- A scalar holds no names. -/
  | notContainer (kind : String)
  /-- A list holds the name but no value for it. -/
  | list
  /-- A text holds the name but no value for it. -/
  | text
deriving DecidableEq

def OptionsFault.message : OptionsFault → String
  | .notContainer kind =>
    "argument of type " ++ Text.singleQuote.toString ++ kind ++ Text.singleQuote.toString ++
      " is not iterable"
  | .list => "list indices must be integers or slices, not str"
  | .text =>
    "string indices must be integers, not " ++ Text.singleQuote.toString ++ "str" ++
      Text.singleQuote.toString

def isText (text : String) : Json → Bool
  | .str s => s == text
  | _ => false

def hasPart (part : List Char) : List Char → Bool
  | [] => part.isEmpty
  | c :: rest => part.isPrefixOf (c :: rest) || hasPart part rest

/-- Options of any type.  Nothing at all stands for no options, and so does a sequence in which the
one name that matters does not occur. -/
def Options.ofJson : Json → Except OptionsFault Options
  | .obj members => .ok members
  | .arr items => if items.any (isText choiceName) then .error .list else .ok []
  | .str s => if hasPart choiceName.toList s.toList then .error .text else .ok []
  | v => if v.isNothing then .ok [] else .error (.notContainer v.kind)

inductive InjectionFault where
  /-- The messages nest too deep to be copied. -/
  | tooDeep
  /-- The context is no text and cannot stand before a query. -/
  | notText (kind : String)
deriving DecidableEq

def InjectionFault.message : InjectionFault → String
  | .tooDeep => "maximum recursion depth exceeded"
  | .notText kind =>
    let quoted (word : String) := Text.singleQuote.toString ++ word ++ Text.singleQuote.toString
    if kind = "list" then
      "can only concatenate list (not " ++ Text.doubleQuote.toString ++ "str" ++
        Text.doubleQuote.toString ++ ") to list"
    else "unsupported operand type(s) for +: " ++ quoted kind ++ " and " ++ quoted "str"

/-- Puts a context of any type before the last query of the user.  Nothing at all is no context. -/
def injectLoose (room : Room) (messages context : Json) (today : Date) :
    Except InjectionFault Json :=
  if room.isTooDeep messages then .error .tooDeep
  else
    match context with
    | .str text => .ok (inject messages text today)
    | v =>
      if v.isNothing then .ok (inject messages "" today)
      else if hasUserMessage messages then .error (.notText v.kind)
      else .ok messages

end Grounding.Conversation
