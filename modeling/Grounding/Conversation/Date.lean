/-!
# Dates

The day that is noted in a conversation when there is no context.  Month and day have two digits,
the year as many as it needs.
-/

namespace Grounding

structure Date where
  year : Nat
  month : Nat
  day : Nat
deriving DecidableEq

namespace Date

def twoDigits (n : Nat) : String := if n < 10 then "0" ++ toString n else toString n

def text (d : Date) : String :=
  toString d.year ++ "-" ++ twoDigits d.month ++ "-" ++ twoDigits d.day

end Date

end Grounding
