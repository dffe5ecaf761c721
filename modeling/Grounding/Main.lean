import Grounding.Probe.Recorded
import Grounding.Probe.Report

/-!
# The probe on the command line

Reads the environment and the arguments, takes the answers of the service from standard input (first
the line for the health check, then the line for the query) and prints the report.
-/

namespace Grounding

def readVariables : IO Variables :=
  Environment.names.filterMapM fun name => do
    return (← IO.getEnv name).map fun text => (name, Text.ofCharacters text)

/-- The service whose answers stand on standard input. -/
def readService : IO Service := do
  let input ← IO.getStdin
  let health ← input.getLine
  let augment ← input.getLine
  return .recorded health augment

def finish (report : Probe.Report) : IO UInt32 := do
  IO.print (Text.characters report.output)
  match report.exit with
  | .ok code => return UInt32.ofNat code
  | .error fault =>
    IO.eprintln (Text.characters fault.message)
    return 1

/-- One run of the probe.  Arguments that end it leave the service alone. -/
def probe (environment : Environment) (args : List String) : IO UInt32 := do
  match Probe.readArguments args with
  | .error _ =>
    IO.eprintln Probe.usage
    finish (Probe.run .usual environment args .silent)
  | .ok _ => finish (Probe.run .usual environment args (← readService))

end Grounding

def main (args : List String) : IO UInt32 := do
  match Grounding.Environment.load (← Grounding.readVariables) with
  | .error fault =>
    IO.eprintln (Grounding.Text.characters fault.message)
    return 1
  | .ok environment => Grounding.probe environment (args.map Grounding.Text.ofCharacters)
