import Grounding.Input.Fault
import Grounding.Json.Value
import Grounding.Number.Decimal

/-!
# Reading single values

Values are taken in good will: a number may come as a text, a flag as 0 or 1 or as a word, as long
as nothing is lost.  Each reader gives the value or the one defect that rules it out.  A text that is read
for a number or a flag must have an encoding; a text that is wanted as such need not.
-/

namespace Grounding.Input

/-- The integer that a double is, if it has no fraction part. -/
def wholeValue? (x : Binary64) : Option Int :=
  match x.units? with
  | none => none
  | some u => if u % Binary64.unitsPerOne = 0 then some (u / Binary64.unitsPerOne) else none

/-- Integers with a magnitude of at least this do not come from doubles. -/
def wordBound : Int := Nat.pow 2 63

/-- A strict numeral: an optional minus and ASCII digits without a leading zero.  A numeral of too many
digits is refused for its size, whatever follows them. -/
def strictInteger (s : List Char) : Except Defect Int :=
  let (negative, body) : Bool × List Char := match s with
    | '-' :: rest => (true, rest)
    | _ => (false, s)
  let digits := body.takeWhile Text.isAsciiDigit
  if body.head? = some '0' then
    if body = ['0'] then .ok 0 else .error .unreadableInteger
  else if numeralDigitLimit < digits.length then .error .oversizedInteger
  else if digits.isEmpty || digits.length != body.length then .error .unreadableInteger
  else
    .ok (Numeral.signed negative
      (Numeral.ofDigits (digits.map fun c => (Text.asciiDigitValue? c).getD 0)))

/-- What is left of a text once the zeros at its front, and all underscores among them, are dropped; at
least one zero, the last character passed over, stays before a point or the end.  A minus may follow
the zeros as if the text began there. -/
def afterZeros (last : Char) : List Char → Option (List Char)
  | [] => some [last]
  | c :: rest =>
    if c == '0' || c == '_' then afterZeros c rest
    else if Text.isAsciiDigit c || c == '-' then some (c :: rest)
    else if c == '.' then some (last :: c :: rest)
    else none

/-- A text of digits and more without the zeros at its front. -/
def dropZeros (s : List Char) : Option (List Char) :=
  match s with
  | [] => none
  | c :: rest =>
    if c == '0' then afterZeros c rest else if Text.isAsciiDigit c then some s else none

/-- A text without a point that only zeros follow. -/
def dropDecimalZeros (s : List Char) : List Char :=
  match s.dropWhile (· != '.') with
  | _ :: zeros => if !zeros.isEmpty && zeros.all (· == '0') then s.takeWhile (· != '.') else s
  | [] => s

def hasDouble (mark : Char) : List Char → Bool
  | a :: b :: rest => (a == mark && b == mark) || hasDouble mark (b :: rest)
  | _ => false

/-- A text whose underscores may be dropped: none at either end and no two together. -/
def mayDropUnderscores (s : List Char) : Bool :=
  s.head? != some '_' && s.getLast? != some '_' && !hasDouble '_' s

def dropUnderscores (s : List Char) : List Char :=
  if mayDropUnderscores s then s.filter (· != '_') else s

/-- A loosely written numeral made strict, if it has the form of one: without white space around it,
plus, zeros at the front, zeros after a point and underscores. -/
def tidied? (text : List Char) : Option (List Char) :=
  let (sign, body) : List Char × List Char := match Text.trim Text.isWhiteSpace text with
    | '-' :: rest => (['-'], rest)
    | '+' :: rest => ([], rest)
    | s => ([], s)
  (dropZeros body).map fun digits => sign ++ dropUnderscores (dropDecimalZeros digits)

/-- An integer as structured input spells it.  A text that is a strict numeral is read as it stands;
any other is made strict first, and then its size no longer is a cause of its own. -/
def spelledInteger (text : String) : Except Defect Int :=
  match strictInteger text.toList with
  | .ok n => .ok n
  | .error .oversizedInteger => .error .oversizedInteger
  | .error _ =>
    match (tidied? text.toList).map strictInteger with
    | some (.ok n) => .ok n
    | _ => .error .unreadableInteger

def readInteger : Json → Except Defect Int
  | .int n => .ok n
  | .bool b => .ok (if b then 1 else 0)
  | .real x =>
    if !x.isFinite then .error .notFinite
    else
      match wholeValue? x with
      | none => .error .fractionalInteger
      | some n => if -wordBound < n ∧ n < wordBound then .ok n else .error .oversizedInteger
  | .str s => if Text.isWhole s then spelledInteger s else .error .notUnicode
  | _ => .error .notInteger

def spelledNumber? (text : String) : Option Binary64 :=
  let s := text.toList
  if s.contains '_' then
    if mayDropUnderscores s then Decimal.read Text.asciiDigitValue? (s.filter (· != '_')) else none
  else Decimal.read Text.asciiDigitValue? (Text.trim Text.isWhiteSpace s)

def readNumber : Json → Except Defect Binary64
  | .int n => if (Binary64.ofInt n).isFinite then .ok (.ofInt n) else .error .notNumber
  | .bool b => .ok (if b then .one else .zero)
  | .real x => .ok x
  | .str s =>
    if !Text.isWhole s then .error .notUnicode
    else
      match spelledNumber? s with
      | some x => .ok x
      | none => .error .unreadableNumber
  | _ => .error .notNumber

def trueWords : List String := ["1", "true", "t", "yes", "y", "on"]

def falseWords : List String := ["0", "false", "f", "no", "n", "off"]

def readFlag : Json → Except Defect Bool
  | .bool b => .ok b
  | .int n =>
    if n = 0 then .ok false
    else if n = 1 then .ok true
    else if -wordBound ≤ n ∧ n < wordBound then .error .unreadableFlag
    else .error .notFlag
  | .real x =>
    match wholeValue? x with
    | none => .error .notFlag
    | some n =>
      if n = 0 then .ok false
      else if n = 1 then .ok true
      else if -wordBound < n ∧ n < wordBound then .error .unreadableFlag
      else .error .notFlag
  | .str s =>
    let word := String.ofList (s.toList.map Char.toLower)
    if !Text.isWhole s then .error .notUnicode
    else if trueWords.contains word then .ok true
    else if falseWords.contains word then .ok false
    else .error .unreadableFlag
  | _ => .error .notFlag

def readText : Json → Except Defect String
  | .str s => .ok s
  | _ => .error .notText

def readCount (v : Json) : Except Defect Int :=
  match readInteger v with
  | .error d => .error d
  | .ok n => if n < 1 then .error (.below 1) else .ok n

/-- A field of an object: its value if it reads, its default if it is absent. -/
def field {α : Type} (members : List (String × Json)) (name : String) (default : α)
    (read : Json → Except Defect α) : Except Fault α :=
  match Json.lookup name members with
  | none => .ok default
  | some v =>
    match read v with
    | .ok a => .ok a
    | .error d => .error ⟨[.field name], d⟩

end Grounding.Input
