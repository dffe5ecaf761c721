import Grounding.Json.Value
import Grounding.Number.Figures
import Grounding.Text.Quoted

/-!
# Writing JSON

Values are written without spaces, and a real number with as few figures as still denote it and always
with a point or an exponent, so reading what was written gives the value back.  Characters beyond ASCII
either stand for themselves or are escaped by their code, in two halves if it does not fit one escape.
-/

namespace Grounding.Json

inductive Alphabet where
  | ascii
  | unicode
deriving DecidableEq

def codeEscape (n : Nat) : List Char := Text.backslash :: 'u' :: Text.hexDigits 4 n

/-- The letters of the controls that have one. -/
def controlLetters : List (Nat × Char) :=
  [(0x08, 'b'), (0x09, 't'), (0x0A, 'n'), (0x0C, 'f'), (0x0D, 'r')]

def writtenControl (n : Nat) : List Char :=
  match controlLetters.find? (·.1 == n) with
  | some entry => [Text.backslash, entry.2]
  | none => codeEscape n

def writtenPoint (alphabet : Alphabet) (n : Nat) : List Char :=
  if n == Text.doubleQuote.toNat || n == Text.backslash.toNat then [Text.backslash, Char.ofNat n]
  else if n < 0x20 then writtenControl n
  else if n < 0x7F || alphabet = .unicode then Text.ofPoint n
  else if n < 0x10000 then codeEscape n
  else codeEscape (0xD800 + (n - 0x10000) / 0x400) ++ codeEscape (0xDC00 + (n - 0x10000) % 0x400)

def writeString (alphabet : Alphabet) (out s : String) : String :=
  ((Text.points s.toList).foldl (fun out n => (writtenPoint alphabet n).foldl String.push out)
    (out.push Text.doubleQuote)).push Text.doubleQuote

def realText (x : Binary64) : String :=
  match x with
  | .finite .. =>
    let text := x.shortestText
    if text.toList.any fun c => c == '.' || c == 'e' then text else text ++ ".0"
  | .infinite negative => if negative then "-Infinity" else "Infinity"
  | .nan => "NaN"

section

variable (alphabet : Alphabet)

mutual

def write (out : String) : Json → String
  | .null => out ++ "null"
  | .bool value => out ++ (if value then "true" else "false")
  | .int value => out ++ toString value
  | .real value => out ++ realText value
  | .str value => writeString alphabet out value
  | .arr items => (writeItems (out.push '[') true items).push ']'
  | .obj members => (writeMembers (out.push (Char.ofNat 0x7B)) true members).push (Char.ofNat 0x7D)

def writeItems (out : String) (first : Bool) : List Json → String
  | [] => out
  | item :: rest => writeItems (write (if first then out else out.push ',') item) false rest

def writeMembers (out : String) (first : Bool) : List (String × Json) → String
  | [] => out
  | (name, value) :: rest =>
    let out := writeString alphabet (if first then out else out.push ',') name
    writeMembers (write (out.push ':') value) false rest

end

end

/-- The text of a value in ASCII alone. -/
def written (v : Json) : String := write .ascii "" v

def bytes (v : Json) : List UInt8 := v.written.toUTF8.toList

end Grounding.Json
