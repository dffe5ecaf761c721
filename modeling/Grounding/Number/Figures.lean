import Grounding.Number.Binary64

/-!
# Numbers in text

Relevance scores are written with six significant figures, durations with one decimal place.  Both
round the exact binary value, a half to the even neighbour.  What is sent is written with as few figures as
still denote the number.  Selecting the figures is kept apart from laying them out.
-/

namespace Grounding

/-- Significant figures: a number with exactly `count` digits, scaled so that its leading digit
stands for `10 ^ exponent`.  Zero has the number 0. -/
structure Figures where
  number : Nat
  exponent : Int
deriving DecidableEq

namespace Figures

def decimalDigits (n : Nat) : List Char := Nat.toDigits 10 n

/-- The decimal exponent of the leading digit of a positive magnitude in units.  Scaling by 10^324
makes every magnitude at least one, so counting the digits before the point suffices. -/
def leadingExponent (units : Nat) : Int :=
  ((decimalDigits (units * Nat.pow 10 324 / Binary64.unitsPerOne)).length : Int) - 325

/-- A magnitude divided by `10 ^ power`, rounded to an integer. -/
def scaled (units : Nat) (power : Int) : Nat :=
  if 0 ≤ power then roundHalfEven units (Binary64.unitsPerOne * Nat.pow 10 power.toNat)
  else roundHalfEven (units * Nat.pow 10 (-power).toNat) Binary64.unitsPerOne

/-- The nearest number of `count` figures.  Rounding up to one digit more moves the exponent. -/
def ofUnits (count : Nat) (units : Nat) : Figures :=
  if units = 0 then ⟨0, 0⟩
  else
    let exponent := leadingExponent units
    let number := scaled units (exponent - (count - 1))
    if number = Nat.pow 10 count then ⟨Nat.pow 10 (count - 1), exponent + 1⟩ else ⟨number, exponent⟩

def dropTrailingZeros (digits : List Char) : List Char :=
  (digits.reverse.dropWhile (· == '0')).reverse

/-- A fraction part with its point; nothing when all its digits are zero. -/
def fractionText (digits : List Char) : List Char :=
  match dropTrailingZeros digits with
  | [] => []
  | kept => '.' :: kept

def exponentText (exponent : Int) : List Char :=
  let digits := decimalDigits exponent.natAbs
  let padded := if digits.length < 2 then '0' :: digits else digits
  'e' :: (if exponent < 0 then '-' else '+') :: padded

/-- Figures without trailing zeros: positional while the exponent is at least -4 and below `count`,
otherwise with one digit before the point and an exponent. -/
def layout (count : Nat) (f : Figures) : List Char :=
  if f.number = 0 then ['0']
  else
    let digits := decimalDigits f.number
    if -4 ≤ f.exponent ∧ f.exponent < count then
      if f.exponent < 0 then
        '0' :: fractionText (List.replicate (-f.exponent - 1).toNat '0' ++ digits)
      else
        let point := f.exponent.toNat + 1
        digits.take point ++ fractionText (digits.drop point)
    else
      digits.take 1 ++ fractionText (digits.drop 1) ++ exponentText f.exponent

/-- Whether a decimal is read as the double of a magnitude. -/
def readsBack (units : Nat) (power : Int) (number : Nat) : Bool :=
  Binary64.ofDecimal false number power == Binary64.ofUnits false units 1

/-- The most figures that a double needs. -/
def fullCount : Nat := 17

/-- Of the two numbers of `count` figures around a magnitude, the nearer one that is read as its double;
brought to the full count. -/
def readBack? (units count : Nat) : Option Figures :=
  let exponent := leadingExponent units
  let power := exponent - (count - 1)
  let near := scaled units power
  let above := if readsBack units power (near + 1) then some (near + 1) else none
  let beside := if readsBack units power (near - 1) then some (near - 1) else above
  (if readsBack units power near then some near else beside).map fun number =>
    let padded := number * Nat.pow 10 (fullCount - count)
    if padded = Nat.pow 10 fullCount then ⟨Nat.pow 10 (fullCount - 1), exponent + 1⟩
    else ⟨padded, exponent⟩

/-- The fewest figures that are read as the double of a magnitude. -/
def shortest (units : Nat) : Figures :=
  if units = 0 then ⟨0, 0⟩
  else
    ((List.range fullCount).findSome? fun fewer => readBack? units (fewer + 1)).getD
      (ofUnits fullCount units)

end Figures

namespace Binary64

/-- A sign, and the text of a magnitude; the values without a magnitude have words of their own. -/
def signedText (magnitude : Nat → List Char) : Binary64 → String
  | .finite negative rank =>
    let text := magnitude (unitsOfRank rank)
    String.ofList (if negative then '-' :: text else text)
  | .infinite negative => if negative then "-inf" else "inf"
  | .nan => "nan"

/-- The number in at most so many significant figures. -/
def significantText (count : Nat) : Binary64 → String :=
  signedText fun units => Figures.layout count (Figures.ofUnits count units)

/-- The number in as few figures as it is read back from, positional below 10^16. -/
def shortestText : Binary64 → String :=
  signedText fun units => Figures.layout 16 (Figures.shortest units)

def onePlaceText : Binary64 → String :=
  signedText fun units =>
    let tenths := roundHalfEven (units * 10) unitsPerOne
    Figures.decimalDigits (tenths / 10) ++ ['.'] ++ Figures.decimalDigits (tenths % 10)

end Binary64

end Grounding
