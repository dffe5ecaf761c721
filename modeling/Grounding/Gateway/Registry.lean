import Grounding.Gateway.Basic
import Grounding.Settings.Environment

/-!
# The process-wide gateway

One gateway serves a whole process.  It is made from the environment when it is first asked for and
forgotten when the process shuts it down; then the next request makes a fresh one.
-/

namespace Grounding

inductive RegistryFault where
  | settings (faults : List Input.Fault)
  | link (fault : LinkFault)

/-- The current gateway, and those that were forgotten, latest first.  A gateway is numbered by how
many came before it. -/
structure Registry where
  current : Option Gateway
  retired : List Gateway

namespace Registry

def empty : Registry := ⟨none, []⟩

def number (r : Registry) : Nat := r.retired.length

/-- The current gateway, made on first use.  A failure leaves nothing behind. -/
def get (r : Registry) (platform : Platform) (environment : Environment) :
    Except RegistryFault Gateway × Registry :=
  match r.current with
  | some g => (.ok g, r)
  | none =>
    match environment.settings with
    | .error faults => (.error (.settings faults), r)
    | .ok settings =>
      match Gateway.create platform settings.values with
      | (.error fault, _, _) => (.error (.link fault), r)
      | (.ok (), g, _) => (.ok g, { r with current := some g })

def shutdown (r : Registry) : Registry :=
  match r.current with
  | some g => ⟨none, g.close :: r.retired⟩
  | none => r

def openLinks (r : Registry) : Nat :=
  (r.current.toList ++ r.retired).countP fun g => g.link.isSome

end Registry

end Grounding
