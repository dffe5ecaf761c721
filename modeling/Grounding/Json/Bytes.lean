import Grounding.Text.Quoted

/-!
# Bytes that are no text

A body comes in one of five encodings.  Where its bytes do not follow the encoding, the fault says
which of them are to blame.
-/

namespace Grounding.Json

inductive Encoding where
  | utf8
  | utf16 (bigEndian : Bool)
  | utf32 (bigEndian : Bool)
deriving DecidableEq

def Encoding.name : Encoding → String
  | .utf8 => "utf-8"
  | .utf16 bigEndian => if bigEndian then "utf-16-be" else "utf-16-le"
  | .utf32 bigEndian => if bigEndian then "utf-32-be" else "utf-32-le"

inductive ByteFault where
  | notUtf8
  /-- The last bytes, from `start` on, are too few for a character. -/
  | truncated (encoding : Encoding) (start : Nat) (bytes : List UInt8)
  /-- The four bytes at `start` are a number that no character has. -/
  | outOfRange (encoding : Encoding) (start : Nat)
deriving DecidableEq

/-- Which bytes cannot be decoded: one is shown, of several only the positions. -/
def blamedBytes (start : Nat) : List UInt8 → String
  | [b] =>
    "byte 0x" ++ String.ofList (Text.hexDigits 2 b.toNat) ++ " in position " ++ toString start
  | bytes =>
    "bytes in position " ++ toString start ++ "-" ++ toString (start + bytes.length - 1)

def ByteFault.message : ByteFault → String
  | .notUtf8 => "the bytes are not UTF-8"
  | .truncated encoding start bytes =>
    Text.singleQuote.toString ++ encoding.name ++ Text.singleQuote.toString ++
      " codec can't decode " ++ blamedBytes start bytes ++ ": truncated data"
  | .outOfRange encoding start =>
    Text.singleQuote.toString ++ encoding.name ++ Text.singleQuote.toString ++
      " codec can't decode " ++ blamedBytes start [0, 0, 0, 0] ++
      ": code point not in range(0x110000)"

end Grounding.Json
