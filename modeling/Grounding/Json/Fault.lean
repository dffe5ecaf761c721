import Grounding.Json.Bytes

/-!
# Why a body is not JSON

A fault names its cause and, where the text itself is at fault, the offset of the character at which
reading stopped.
-/

namespace Grounding.Json

inductive Cause where
  | expectedValue
  | expectedName
  | expectedColon
  | expectedComma
  | unterminatedString
  | controlCharacter
  | unknownEscape
  | badCodeEscape
  | extraData
deriving DecidableEq

def Cause.text : Cause → String
  | .expectedValue => "Expecting value"
  | .expectedName => "Expecting property name enclosed in double quotes"
  | .expectedColon => "Expecting ':' delimiter"
  | .expectedComma => "Expecting ',' delimiter"
  | .unterminatedString => "Unterminated string starting at"
  | .controlCharacter => "Invalid control character at"
  | .unknownEscape => "Invalid \\escape"
  | .badCodeEscape => "Invalid \\uXXXX escape"
  | .extraData => "Extra data"

inductive Container where
  | array
  | object
deriving DecidableEq

inductive Fault where
  | malformed (cause : Cause) (offset : Nat)
  | tooManyDigits (digits limit : Nat)
  | tooDeep (container : Container)
  | undecodable (fault : ByteFault)
deriving DecidableEq

/-- The line of an offset, counted from 1, and the column in it, counted from 1. -/
def lineAndColumn (points : List Nat) (offset : Nat) : Nat × Nat :=
  let before := points.take offset
  let inLine := before.reverse.takeWhile (· != '\n'.toNat)
  (before.count '\n'.toNat + 1, inLine.length + 1)

def Fault.message (text : List Char) : Fault → String
  | .malformed cause offset =>
    let (line, column) := lineAndColumn (Text.points text) offset
    cause.text ++ ": line " ++ toString line ++ " column " ++ toString column ++
      " (char " ++ toString offset ++ ")"
  | .tooManyDigits digits limit =>
    "Exceeds the limit (" ++ toString limit ++
      " digits) for integer string conversion: value has " ++ toString digits ++
      " digits; use sys.set_int_max_str_digits() to increase the limit"
  | .tooDeep .array =>
    "maximum recursion depth exceeded while decoding a JSON array from a unicode string"
  | .tooDeep .object =>
    "maximum recursion depth exceeded while decoding a JSON object from a unicode string"
  | .undecodable fault => fault.message

end Grounding.Json
