import Grounding.Json.Value
import Grounding.Text.Quoted

/-!
# Timeouts

A timeout setting counts milliseconds; a client waits for seconds, as a double.  One number bounds
connecting, reading, writing and waiting for a free connection.
-/

namespace Grounding

inductive TimeoutFault where
  | tooLarge
  | notNumber (kind : String)
deriving DecidableEq

def TimeoutFault.message : TimeoutFault → String
  | .tooLarge => "int too large to convert to float"
  | .notNumber kind =>
    let quoted (word : String) := Text.singleQuote.toString ++ word ++ Text.singleQuote.toString
    quoted ">" ++ " not supported between instances of " ++ quoted "int" ++ " and " ++ quoted kind

/-- Whole seconds plus the remainder, rounded as two doubles and their sum.  A number of seconds that
no double can hold has no timeout. -/
def timeoutOfMillis (millis : Int) : Option Binary64 :=
  let bounded := millis.toNat
  let seconds := Binary64.ofNat (bounded / 1000)
  if seconds.isFinite then some (seconds + .ofRatio false (bounded % 1000) 1000) else none

/-- The same for a double.  The remainder is exact; the seconds are what is left, divided by a
thousand and brought to the nearest whole number.  An infinity has no remainder. -/
def timeoutOfReal (millis : Binary64) : Binary64 :=
  if millis.atMost .zero then .zero
  else
    match millis.units? with
    | none => .nan
    | some u =>
      let perThousand := 1000 * Binary64.unitsPerOne
      let remainder := u.toNat % perThousand
      let rest := millis - .ofUnits false remainder 1
      let quotient := (Binary64.ofUnits false ((rest.units?.getD 0).toNat) 1000).units?.getD 0
      let whole := quotient.toNat / Binary64.unitsPerOne
      let near :=
        if Binary64.unitsPerOne < 2 * (quotient.toNat % Binary64.unitsPerOne) then whole + 1
        else whole
      Binary64.ofNat near + .ofUnits false remainder 1000

/-- The timeout that a setting stands for; a flag counts as one or zero. -/
def timeoutOf : Json → Except TimeoutFault Binary64
  | .int millis =>
    match timeoutOfMillis millis with
    | some t => .ok t
    | none => .error .tooLarge
  | .bool b => .ok (.ofRatio false (if b then 1 else 0) 1000)
  | .real millis => .ok (timeoutOfReal millis)
  | v => .error (.notNumber v.kind)

end Grounding
