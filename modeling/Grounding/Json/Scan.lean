import Grounding.Json.Value
import Grounding.Json.Fault
import Grounding.Number.Decimal

/-!
# Strings and numbers inside a JSON text

A cursor is what is left of the text and how far it is from the start, in code points.  Strings are read
character by character; the stage says what the characters read so far have left open.
-/

namespace Grounding.Json

structure Cursor where
  rest : List Char
  offset : Nat

/-- Space, tab, carriage return and line feed; nothing else separates tokens. -/
def isSeparator (c : Char) : Bool := c == ' ' || c == '\t' || c == '\n' || c == '\r'

def skipFrom : List Char → Nat → Cursor
  | [], offset => ⟨[], offset⟩
  | c :: rest, offset => if isSeparator c then skipFrom rest (offset + 1) else ⟨c :: rest, offset⟩

def Cursor.skip (c : Cursor) : Cursor := skipFrom c.rest c.offset

/-- What the characters of a string read so far have left open. -/
inductive Stage where
  | plain
  | escaped
  | code (mark left value : Nat)
  | codeRead (mark : Nat)

/-- The fault when a text ends inside a string.  A code escape needs a character after its digits. -/
def Stage.ended (start : Nat) : Stage → Fault
  | .plain | .escaped => .malformed .unterminatedString start
  | .code mark _ _ | .codeRead mark => .malformed .badCodeEscape mark

/-- Adds a code point to the characters read, which are kept last first. -/
def takePoint (n : Nat) (taken : List Char) : List Char := (Text.ofPoint n).reverse ++ taken

/-- The characters read when a waiting high half gets no partner: it stays in the text. -/
def giveUp (high : Option Nat) (taken : List Char) : List Char :=
  match high with
  | none => taken
  | some h => takePoint h taken

/-- Adds a code escape to the characters read: a low half completes a waiting high one, a high one
waits for its partner. -/
def absorb (high : Option Nat) (n : Nat) (taken : List Char) : Option Nat × List Char :=
  match high, Text.isLowHalf n with
  | some h, true => (none, takePoint (Text.joined h n) taken)
  | _, true => (none, takePoint n (giveUp high taken))
  | _, false =>
    if Text.isHighHalf n then (some n, giveUp high taken)
    else (none, takePoint n (giveUp high taken))

def escapeLetter? : Char → Option Char
  | 'b' => some '\x08'
  | 'f' => some '\x0c'
  | 'n' => some '\n'
  | 'r' => some '\r'
  | 't' => some '\t'
  | c => if c == Text.doubleQuote || c == Text.backslash || c == '/' then some c else none

/-- The rest of a string whose opening quote stands at `start`. -/
def scanString (start : Nat) :
    List Char → Nat → Stage → Option Nat → List Char → Except Fault (String × Cursor)
  | [], _, stage, _, _ => .error (stage.ended start)
  | c :: rest, offset, stage, high, taken =>
    match stage with
    | .code mark left value =>
      match Text.hexDigitValue? c with
      | none => .error (.malformed .badCodeEscape mark)
      | some d =>
        if left ≤ 1 then
          let (high, taken) := absorb high (16 * value + d) taken
          scanString start rest (offset + 1) (.codeRead mark) high taken
        else scanString start rest (offset + 1) (.code mark (left - 1) (16 * value + d)) high taken
    | .escaped =>
      if c == 'u' then scanString start rest (offset + 1) (.code offset 4 0) high taken
      else
        match escapeLetter? c with
        | none => .error (.malformed .unknownEscape (offset - 1))
        | some e => scanString start rest (offset + 1) .plain none (e :: giveUp high taken)
    | .plain | .codeRead _ =>
      if c == Text.doubleQuote then
        .ok (String.ofList (giveUp high taken).reverse, ⟨rest, offset + 1⟩)
      else if c == Text.backslash then scanString start rest (offset + 1) .escaped high taken
      else if c.toNat < 0x20 then .error (.malformed .controlCharacter offset)
      else scanString start rest (offset + Text.width c) .plain none (c :: giveUp high taken)

/-- The digits at the front of a text and what follows them. -/
def takeDigits (s : List Char) : List Char × List Char :=
  (s.takeWhile Text.isAsciiDigit, s.dropWhile Text.isAsciiDigit)

def digitsValue (digits : List Char) : Nat :=
  Numeral.ofDigits (digits.map fun c => (Text.asciiDigitValue? c).getD 0)

/-- A point with at least one digit after it: its digits and what follows. -/
def takeFraction (s : List Char) : List Char × List Char :=
  match s with
  | '.' :: more => if (takeDigits more).1.isEmpty then ([], s) else takeDigits more
  | _ => ([], s)

/-- An exponent mark with at least one digit after its sign: the exponent, how many characters it
takes, and what follows. -/
def takeExponent (s : List Char) : Option (Int × Nat × List Char) :=
  match s with
  | mark :: more =>
    if mark == 'e' || mark == 'E' then
      let (negative, body) := Numeral.takeSign more
      let (digits, rest) := takeDigits body
      if digits.isEmpty then none
      else
        some (Numeral.signed negative (digitsValue digits),
          1 + (more.length - body.length) + digits.length, rest)
    else none
  | [] => none

/-- Digits without a leading zero, unless the zero stands alone. -/
def takeWhole (s : List Char) : List Char × List Char :=
  match s with
  | '0' :: more => (['0'], more)
  | _ => takeDigits s

/-- A number.  A point or exponent mark that no digit follows is not part of it. -/
def scanNumber (digitLimit : Option Nat) (c : Cursor) : Except Fault (Json × Cursor) :=
  let (negative, body) :=
    match c.rest with
    | '-' :: more => (true, more)
    | body => (false, body)
  let (whole, afterWhole) := takeWhole body
  if whole.isEmpty then .error (.malformed .expectedValue c.offset)
  else
    let (fraction, afterFraction) := takeFraction afterWhole
    let wholeEnd := c.offset + (if negative then 1 else 0) + whole.length
    let fractionEnd := wholeEnd + (if fraction.isEmpty then 0 else fraction.length + 1)
    match takeExponent afterFraction with
    | some (exponent, width, rest) =>
      .ok (.real (Binary64.ofDecimal negative (digitsValue (whole ++ fraction))
        (exponent - fraction.length)), ⟨rest, fractionEnd + width⟩)
    | none =>
      if !fraction.isEmpty then
        .ok (.real (Binary64.ofDecimal negative (digitsValue (whole ++ fraction))
          (-(fraction.length : Int))), ⟨afterFraction, fractionEnd⟩)
      else
        match digitLimit with
        | some limit =>
          if limit < whole.length then .error (.tooManyDigits whole.length limit)
          else .ok (.int (Numeral.signed negative (digitsValue whole)), ⟨afterWhole, wholeEnd⟩)
        | none => .ok (.int (Numeral.signed negative (digitsValue whole)), ⟨afterWhole, wholeEnd⟩)

def words : List (String × Json) :=
  [("null", .null), ("true", .bool true), ("false", .bool false), ("NaN", .real .nan),
    ("Infinity", .real (.infinite false)), ("-Infinity", .real (.infinite true))]

def scanScalar (digitLimit : Option Nat) (c : Cursor) : Except Fault (Json × Cursor) :=
  match words.find? fun w => w.1.toList.isPrefixOf c.rest with
  | some (word, value) => .ok (value, ⟨c.rest.drop word.length, c.offset + word.length⟩)
  | none => scanNumber digitLimit c

end Grounding.Json
