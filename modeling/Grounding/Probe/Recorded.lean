import Grounding.Gateway.Exchange

/-!
# Recorded answers

An answer of the service can be kept as one line of text: its status and, after a blank, its body.  A
line that does not begin with a status, and so an empty one, stands for an exchange that failed.
-/

namespace Grounding

def Answer.ofLine (line : String) : Answer :=
  let text := (line.toList.reverse.dropWhile fun c => c == '\n' || c == '\r').reverse
  match readInteger (String.ofList (text.takeWhile (· != ' '))) with
  | .error _ => .lost
  | .ok status =>
    .arrived status (String.ofList (text.dropWhile (· != ' ')).tail).toUTF8.toList

namespace Service

def silent : Service := ⟨.zero, ⟨.zero, .lost⟩, ⟨.zero, .lost⟩, .usual⟩

/-- The service as two lines record it.  Recorded answers take no time. -/
def recorded (health augment : String) : Service :=
  ⟨.zero, ⟨.zero, .ofLine augment⟩, ⟨.zero, .ofLine health⟩, .usual⟩

end Service

end Grounding
