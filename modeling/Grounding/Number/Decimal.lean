import Grounding.Number.Binary64
import Grounding.Number.Numeral

/-!
# Decimal texts

A decimal text is a sign, digits with at most one point among them, and perhaps an exponent; or one
of the words for infinity and NaN.  It denotes the nearest double.  Plain texts may also use digits
of any script and single underscores between digits.
-/

namespace Grounding

namespace Decimal

/-- The exponent part of a decimal text, which ends it. -/
def readExponent (value? : Char → Option Nat) : List Char → Option Int
  | [] => some 0
  | mark :: rest =>
    if mark == 'e' || mark == 'E' then
      let (negative, body) := Numeral.takeSign rest
      match Numeral.takeDigits value? body [] with
      | (taken, []) =>
        if taken.isEmpty then none
        else some (Numeral.signed negative (Numeral.ofDigits taken.reverse))
      | _ => none
    else none

/-- An unsigned decimal text: its digits as one number, and the power of ten that scales it. -/
def readMagnitude (value? : Char → Option Nat) (text : List Char) : Option (Nat × Int) :=
  let (whole, rest) := Numeral.takeDigits value? text []
  let (fraction, tail) :=
    match rest with
    | '.' :: more => Numeral.takeDigits value? more []
    | _ => ([], rest)
  if whole.isEmpty && fraction.isEmpty then none
  else
    (readExponent value? tail).map fun exponent =>
      (Numeral.ofDigits (whole.reverse ++ fraction.reverse), exponent - fraction.length)

def isWord (word : String) (text : List Char) : Bool :=
  text.map Char.toLower == word.toList

/-- A decimal text whose digits are given by `value?`. -/
def read (value? : Char → Option Nat) (text : List Char) : Option Binary64 :=
  let (negative, body) := Numeral.takeSign text
  if isWord "inf" body || isWord "infinity" body then some (.infinite negative)
  else if isWord "nan" body then some .nan
  else (readMagnitude value? body).map fun (mantissa, exponent) =>
    Binary64.ofDecimal negative mantissa exponent

end Decimal

def readNumber (text : String) : Except NumeralFault Binary64 :=
  match Decimal.read Text.digitValue? (Text.trim Text.isWhiteSpace text.toList) with
  | some x => .ok x
  | none => .error (.notNumber text)

end Grounding
