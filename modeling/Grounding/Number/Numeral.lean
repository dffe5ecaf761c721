import Grounding.Text.Blank
import Grounding.Text.Digit
import Grounding.Text.Quoted

/-!
# Integers in plain text

Environment variables, port texts and command-line values hold integers as people write them: white
space around, a sign, digits of any script, single underscores between digits.  A numeral of more than
4300 digits is refused before its value is computed, and before anything after it is looked at; only an
underscore out of place comes first.
-/

namespace Grounding

/-- Why a text is not read as a number, or an integer not written as a text. -/
inductive NumeralFault where
  | notInteger (text : String)
  | tooLong (digits : Nat)
  | notNumber (text : String)
  | unwritable
deriving DecidableEq

def numeralDigitLimit : Nat := 4300

def shownLiteral (text : String) : String :=
  String.ofList ((Text.quoted text).toList.take 200)

def NumeralFault.message : NumeralFault → String
  | .notInteger text => "invalid literal for int() with base 10: " ++ shownLiteral text
  | .tooLong digits =>
    "Exceeds the limit (" ++ toString numeralDigitLimit ++
      " digits) for integer string conversion: value has " ++ toString digits ++
      " digits; use sys.set_int_max_str_digits() to increase the limit"
  | .notNumber text => "could not convert string to float: " ++ Text.quoted text
  | .unwritable =>
    "Exceeds the limit (" ++ toString numeralDigitLimit ++
      " digits) for integer string conversion; use sys.set_int_max_str_digits() to increase the limit"

namespace Numeral

/-- The digits at the front of a text, in reverse, with what follows them.  An underscore is passed
over only between two digits. -/
def takeDigits (value? : Char → Option Nat) : List Char → List Nat → List Nat × List Char
  | [], taken => (taken, [])
  | c :: rest, taken =>
    match value? c with
    | some d => takeDigits value? rest (d :: taken)
    | none =>
      match rest with
      | [] => (taken, [c])
      | next :: _ =>
        if c == '_' && !taken.isEmpty && (value? next).isSome then takeDigits value? rest taken
        else (taken, c :: rest)

/-- The number that digits denote, most significant first. -/
def ofDigits (digits : List Nat) : Nat := digits.foldl (fun n d => 10 * n + d) 0

/-- The sign at the front of a text; none counts as plus. -/
def takeSign : List Char → Bool × List Char
  | '-' :: rest => (true, rest)
  | '+' :: rest => (false, rest)
  | rest => (false, rest)

def signed (negative : Bool) (n : Nat) : Int := if negative then -(n : Int) else n

end Numeral

def readInteger (text : String) : Except NumeralFault Int :=
  let (negative, body) := Numeral.takeSign (Text.trim Text.isWhiteSpace text.toList)
  let (taken, rest) := Numeral.takeDigits Text.digitValue? body []
  if rest.head? = some '_' then .error (.notInteger text)
  else if numeralDigitLimit < taken.length then .error (.tooLong taken.length)
  else if taken.isEmpty || !rest.isEmpty then .error (.notInteger text)
  else .ok (Numeral.signed negative (Numeral.ofDigits taken.reverse))

/-- The decimal text of an integer.  The limit on digits holds for writing, too. -/
def writeInteger (n : Int) : Except NumeralFault String :=
  if Nat.pow 10 numeralDigitLimit ≤ n.natAbs then .error .unwritable else .ok (toString n)

end Grounding
