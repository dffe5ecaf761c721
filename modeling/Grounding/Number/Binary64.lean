/-!
# Double-precision numbers

A finite double is a sign and a rank: the position of its magnitude among all finite magnitudes,
counted from zero.  Ranks are exactly the bit patterns without the sign bit, so the order of ranks
is the order of magnitudes and the successor of a rank is the next double.  Magnitudes are whole
multiples of 2^-1074, the unit below, and every operation is computed exactly in units and then
rounded once, to the nearest rank and to the even one of two equally near.
-/

namespace Grounding

/-- The quotient rounded to the nearest integer, a half to the even neighbour. -/
def roundHalfEven (num den : Nat) : Nat :=
  let q := num / den
  let r := num % den
  if 2 * r < den then q
  else if den < 2 * r then q + 1
  else if q % 2 = 0 then q
  else q + 1

/-- The number of finite magnitudes. -/
def rankBound : Nat := 2047 * Nat.pow 2 52

inductive Binary64 where
  | finite (negative : Bool) (rank : Fin rankBound)
  | infinite (negative : Bool)
  | nan
deriving DecidableEq

namespace Binary64

/-- The magnitude of a rank in units.  Below 2^53 the ranks are the units themselves; from there on
each block of 2^52 ranks doubles the distance between neighbours. -/
def unitsOfRank (rank : Nat) : Nat :=
  if rank < Nat.pow 2 52 then rank
  else (Nat.pow 2 52 + rank % Nat.pow 2 52) * Nat.pow 2 (rank / Nat.pow 2 52 - 1)

/-- The rank nearest to a quotient of units, without an upper limit. -/
def rankOfUnits (num den : Nat) : Nat :=
  let scale := (num / den).log2 + 1 - 53
  Nat.pow 2 52 * scale + roundHalfEven num (den * Nat.pow 2 scale)

/-- One as a multiple of the unit. -/
def unitsPerOne : Nat := Nat.pow 2 1074

/-- The double nearest to a quotient of units; infinite when the nearest rank is out of range. -/
def ofUnits (negative : Bool) (num den : Nat) : Binary64 :=
  if h : rankOfUnits num den < rankBound then .finite negative ⟨rankOfUnits num den, h⟩
  else .infinite negative

/-- The value of a finite double in units, with its sign. -/
def units? : Binary64 → Option Int
  | .finite negative rank =>
    let magnitude : Int := unitsOfRank rank
    some (if negative then -magnitude else magnitude)
  | _ => none

def isFinite : Binary64 → Bool
  | .finite .. => true
  | _ => false

/-- The double nearest to a quotient of naturals, with a sign. -/
def ofRatio (negative : Bool) (num den : Nat) : Binary64 :=
  ofUnits negative (unitsPerOne * num) den

/-- The double nearest to an integer; infinite when it is out of range. -/
def ofInt (n : Int) : Binary64 := ofRatio (n < 0) n.natAbs 1

def ofNat (n : Nat) : Binary64 := ofRatio false n 1

/-- The double nearest to `mantissa * 10 ^ exponent`.  Exponents far outside the range are settled by
size alone, so that no huge power is computed. -/
def ofDecimal (negative : Bool) (mantissa : Nat) (exponent : Int) : Binary64 :=
  if mantissa = 0 then ofUnits negative 0 1
  else if 400 < exponent then .infinite negative
  else if 0 ≤ exponent then ofRatio negative (mantissa * Nat.pow 10 exponent.toNat) 1
  else if mantissa.log2 + 1081 < 3 * (-exponent).toNat then ofUnits negative 0 1
  else ofRatio negative mantissa (Nat.pow 10 (-exponent).toNat)

def zero : Binary64 := ofNat 0

def one : Binary64 := ofNat 1

def neg : Binary64 → Binary64
  | .finite negative rank => .finite (!negative) rank
  | .infinite negative => .infinite (!negative)
  | .nan => .nan

/-- The sum.  A sum of zero is negative only when both terms are negative. -/
def add (x y : Binary64) : Binary64 :=
  match x, y with
  | .nan, _ | _, .nan => .nan
  | .infinite s, .infinite t => if s = t then .infinite s else .nan
  | .infinite s, .finite .. => .infinite s
  | .finite .., .infinite t => .infinite t
  | .finite s a, .finite t b =>
    let u : Int := if s then -(unitsOfRank a : Int) else unitsOfRank a
    let v : Int := if t then -(unitsOfRank b : Int) else unitsOfRank b
    if u + v = 0 then ofUnits (s && t) 0 1 else ofUnits (u + v < 0) (u + v).natAbs 1

def sub (x y : Binary64) : Binary64 := add x y.neg

/-- The product.  Zero times an infinity has no value. -/
def mul (x y : Binary64) : Binary64 :=
  match x, y with
  | .nan, _ | _, .nan => .nan
  | .infinite s, .infinite t => .infinite (s != t)
  | .infinite s, .finite t b => if b.val = 0 then .nan else .infinite (s != t)
  | .finite s a, .infinite t => if a.val = 0 then .nan else .infinite (s != t)
  | .finite s a, .finite t b => ofUnits (s != t) (unitsOfRank a * unitsOfRank b) unitsPerOne

instance : Neg Binary64 := ⟨neg⟩
instance : Add Binary64 := ⟨add⟩
instance : Sub Binary64 := ⟨sub⟩
instance : Mul Binary64 := ⟨mul⟩

/-- The order of values; NaN is not comparable with anything. -/
def atMost : Binary64 → Binary64 → Bool
  | .nan, _ | _, .nan => false
  | .infinite true, _ | _, .infinite false => true
  | .infinite false, _ | _, .infinite true => false
  | .finite s a, .finite t b =>
    let u : Int := if s then -(unitsOfRank a : Int) else unitsOfRank a
    let v : Int := if t then -(unitsOfRank b : Int) else unitsOfRank b
    u ≤ v

/-- The bit pattern.  All NaNs share one. -/
def bits : Binary64 → Nat
  | .finite negative rank => (if negative then Nat.pow 2 63 else 0) + rank
  | .infinite negative => (if negative then Nat.pow 2 63 else 0) + rankBound
  | .nan => rankBound + Nat.pow 2 51

end Binary64

end Grounding
