import Grounding.Gateway.Basic
import Grounding.Probe.Arguments
import Grounding.Settings.Environment

/-!
# The probe

The probe talks to a service the way a gateway does: it takes the settings from the environment, with
a few of them overridden, forces the master switch on, checks the health of the service and, if it
was given a query, shows the context that would be injected.  A text that standard output does not take
ends the run.
-/

namespace Grounding.Probe

inductive Fault where
  | logLevel (name : String)
  | settings (faults : List Input.Fault)
  | link (fault : LinkFault)
  /-- A text cannot be printed. -/
  | unprintable (message : String)

def Fault.message : Fault → String
  | .logLevel name => "Unknown level: " ++ Text.quoted name
  | .settings _ => "validation failed"
  | .link fault => fault.message
  | .unprintable message => message

structure Report where
  exit : Except Fault Nat
  output : String
  requests : List Request
  /-- The gateway at the end, if one was made. -/
  gateway : Option Gateway

def logLevels : List String :=
  ["CRITICAL", "FATAL", "ERROR", "WARN", "WARNING", "INFO", "DEBUG", "NOTSET"]

/-- What a numeric option puts in the place of a setting; an option without a value puts an empty list
there. -/
def Figure.toJson : Figure → Json
  | .number n => .int n
  | .nothing => .arr []

/-- The host of a run.  An empty host overrides nothing. -/
def chosenHost (s : Settings) (a : Arguments) : String :=
  match a.host with
  | some host => if host = "" then s.host else host
  | none => s.host

def override (s : Settings) (a : Arguments) : Settings.Values :=
  { s.values with
    host := .str (chosenHost s a)
    port := (a.port.map Figure.toJson).getD s.values.port
    timeoutMs := (a.timeoutMs.map Figure.toJson).getD s.values.timeoutMs
    enabled := .bool true }

def line (text : String) : String := text ++ "\n"

/-- What was printed, and why printing ended early, if it did. -/
structure Printed where
  text : String
  fault? : Option String

/-- Prints texts, each on a line of its own, up to the first that is not taken. -/
def printed (platform : Platform) : List String → Printed
  | [] => ⟨"", none⟩
  | text :: rest =>
    match platform.unprintable? text with
    | some message => ⟨"", some message⟩
    | none => ⟨line text ++ (printed platform rest).text, (printed platform rest).fault?⟩

def Printed.exit (p : Printed) (code : Nat) : Except Fault Nat :=
  match p.fault? with
  | some message => .error (.unprintable message)
  | none => .ok code

def healthText (host : String) (healthy : Bool) : String :=
  "RAG service " ++ host ++ " healthy: " ++ if healthy then "True" else "False"

def refusalText (r : Refusal) : String :=
  "Augmentation failed (" ++ r.kind.name ++ "): " ++ r.message

def toolsTexts (tools : List String) : List String :=
  if tools.isEmpty then [] else ["Suggested tools: " ++ ", ".intercalate tools]

/-- The context that a retrieval provides, or a word that there is none. -/
def shownContext (r : Retrieval) : String :=
  if Gateway.contextOf r = "" then "(no context)" else Gateway.contextOf r

def countText (r : Retrieval) (findings : Findings) : String :=
  "Chunks: " ++ toString findings.passages.length ++ "  latency: " ++ r.latency.onePlaceText ++ " ms"

/-- What a retrieval shows, line by line. -/
def retrievalTexts (r : Retrieval) : List String :=
  match r.outcome with
  | .error refusal => [refusalText refusal]
  | .ok findings => countText r findings :: (toolsTexts findings.tools ++ [shownContext r])

def retrievalExit (r : Retrieval) : Nat :=
  match r.outcome with
  | .ok _ => 0
  | .error _ => 1

/-- A run with a gateway at hand, for the service at `host`: the health check, then the query if there
is one.  The gateway is closed at the end. -/
def examine (g : Gateway) (host : String) (a : Arguments) (service : Service) : Report :=
  let checked := g.isHealthy service
  let first := printed g.platform [healthText host checked.result]
  if a.query = "" ∨ first.fault?.isSome then
    ⟨first.exit (if checked.result then 0 else 1), first.text, checked.requests,
      some checked.gateway.close⟩
  else
    let asked := checked.gateway.augment a.query a.session { service with clock := checked.clock }
    let more := printed g.platform (retrievalTexts asked.result)
    ⟨more.exit (retrievalExit asked.result), first.text ++ more.text,
      checked.requests ++ asked.requests, some asked.gateway.close⟩

def failed (fault : Fault) : Report := ⟨.error fault, "", [], none⟩

def ended (code : Nat) : Report := ⟨.ok code, "", [], none⟩

def run (platform : Platform) (environment : Environment) (args : List String)
    (service : Service) : Report :=
  match readArguments args with
  | .error .help => ended 0
  | .error .usage => ended 2
  | .ok a =>
    if !logLevels.contains environment.logLevel then failed (.logLevel environment.logLevel)
    else
      match environment.settings with
      | .error faults => failed (.settings faults)
      | .ok settings =>
        match Gateway.create platform (override settings a) with
        | (.error fault, _, _) => failed (.link fault)
        | (.ok (), g, _) => examine g (chosenHost settings a) a service

end Grounding.Probe
