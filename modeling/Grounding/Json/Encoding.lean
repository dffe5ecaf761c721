import Grounding.Json.Decode

/-!
# From bytes to text

The encoding of a body is not announced: it is told from a byte order mark, or from where the first
bytes are zero, since a JSON text begins with an ASCII character.  Text without either sign is UTF-8.
A half of a surrogate pair that has no partner does not make a body unreadable, and stays in the text.
-/

namespace Grounding.Json

/-- The encoding of a body, and the body without its byte order mark. -/
def detect (body : List UInt8) : Encoding × List UInt8 :=
  match body with
  | 0xFF :: 0xFE :: 0x00 :: 0x00 :: rest => (.utf32 false, rest)
  | 0x00 :: 0x00 :: 0xFE :: 0xFF :: rest => (.utf32 true, rest)
  | 0xFF :: 0xFE :: rest => (.utf16 false, rest)
  | 0xFE :: 0xFF :: rest => (.utf16 true, rest)
  | 0xEF :: 0xBB :: 0xBF :: rest => (.utf8, rest)
  | [a, b] =>
    if a = 0 then (.utf16 true, body) else if b = 0 then (.utf16 false, body) else (.utf8, body)
  | a :: b :: c :: d :: _ =>
    if a = 0 then (if b = 0 then .utf32 true else .utf16 true, body)
    else if b = 0 then (if c = 0 ∧ d = 0 then .utf32 false else .utf16 false, body)
    else (.utf8, body)
  | _ => (.utf8, body)

/-- UTF-8: `left` continuation bytes are still needed for a character whose bits so far are `value`
and which must not be below `least`. -/
def utf8Chars : List UInt8 → Nat → Nat → Nat → List Char → Option (List Char)
  | [], left, _, _, taken => if left = 0 then some taken.reverse else none
  | byte :: rest, 0, _, _, taken =>
    let b := byte.toNat
    if b < 0x80 then utf8Chars rest 0 0 0 (Char.ofNat b :: taken)
    else if 0xC0 ≤ b ∧ b < 0xE0 then utf8Chars rest 1 (b - 0xC0) 0x80 taken
    else if 0xE0 ≤ b ∧ b < 0xF0 then utf8Chars rest 2 (b - 0xE0) 0x800 taken
    else if 0xF0 ≤ b ∧ b < 0xF8 then utf8Chars rest 3 (b - 0xF0) 0x10000 taken
    else none
  | byte :: rest, left + 1, value, least, taken =>
    let b := byte.toNat
    if 0x80 ≤ b ∧ b < 0xC0 then
      let value := value * 64 + (b - 0x80)
      if left = 0 then
        if value < least then none
        else
          if value < 0x110000 then utf8Chars rest 0 0 0 (takePoint value taken) else none
      else utf8Chars rest left value least taken
    else none

def unit16 (bigEndian : Bool) (a b : UInt8) : Nat :=
  if bigEndian then a.toNat * 256 + b.toNat else b.toNat * 256 + a.toNat

/-- UTF-16 from the byte at `start` on: `high` is a high half that waits for its partner. -/
def utf16Chars (bigEndian : Bool) (start : Nat) :
    List UInt8 → Option Nat → List Char → Except ByteFault (List Char)
  | [], high, taken => .ok (giveUp high taken).reverse
  | [last], _, _ => .error (.truncated (.utf16 bigEndian) start [last])
  | a :: b :: rest, high, taken =>
    let (high, taken) := absorb high (unit16 bigEndian a b) taken
    utf16Chars bigEndian (start + 2) rest high taken

def utf32Chars (bigEndian : Bool) (start : Nat) :
    List UInt8 → List Char → Except ByteFault (List Char)
  | [], taken => .ok taken.reverse
  | a :: b :: c :: d :: rest, taken =>
    let n := if bigEndian then unit16 true a b * 65536 + unit16 true c d
      else unit16 false c d * 65536 + unit16 false a b
    if n < 0x110000 then utf32Chars bigEndian (start + 4) rest (takePoint n taken)
    else .error (.outOfRange (.utf32 bigEndian) start)
  | bytes, _ => .error (.truncated (.utf32 bigEndian) start bytes)

def bodyText (body : List UInt8) : Except ByteFault (List Char) :=
  match detect body with
  | (.utf8, rest) =>
    match utf8Chars rest 0 0 0 [] with
    | none => .error .notUtf8
    | some text => .ok text
  | (.utf16 bigEndian, rest) => utf16Chars bigEndian 0 rest none []
  | (.utf32 bigEndian, rest) => utf32Chars bigEndian 0 rest []

/-- The value that a body holds. -/
def decodeWithin (limits : Limits) (body : List UInt8) : Except Fault Json :=
  match bodyText body with
  | .error fault => .error (.undecodable fault)
  | .ok text => decodeText limits text

end Grounding.Json
