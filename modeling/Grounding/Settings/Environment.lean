import Grounding.Settings.Basic
import Grounding.Text.Capital

/-!
# Settings from the environment

Variables are plain texts.  Numbers must be well formed or nothing is loaded; a flag is set by one
of four words and by nothing else, so a misspelt word leaves the gateway off.  The settings made
from the variables are validated like any others.
-/

namespace Grounding

abbrev Variables := List (String × String)

/-- The constants read from the environment at start-up. -/
structure Environment where
  host : String
  port : Int
  maxResults : Int
  similarityThreshold : Binary64
  includeTools : Bool
  timeoutMs : Int
  enabled : Bool
  certificates : String
  logLevel : String
deriving DecidableEq

namespace Environment

def text (vars : Variables) (name default : String) : String :=
  ((vars.find? (·.1 == name)).map (·.2)).getD default

def names : List String :=
  ["RAG_HOST", "RAG_PORT", "RAG_MAX_RESULTS", "RAG_SIMILARITY_THRESHOLD", "RAG_INCLUDE_TOOLS",
    "RAG_TIMEOUT_MS", "RAG_ENABLED", "RAG_CA_CERT_PATH", "RAG_LOG_LEVEL"]

/-- An empty text counts as absent. -/
def filled (s default : String) : String := if s = "" then default else s

def affirmations : List String := ["1", "true", "yes", "on"]

def flag (vars : Variables) (name : String) (default : Bool) : Bool :=
  let word := Text.strip (text vars name "")
  if word = "" then default else affirmations.contains (String.ofList (word.toList.map Char.toLower))

/-- Loads the constants.  The first malformed number, in this order, is the fault. -/
def load (vars : Variables) : Except NumeralFault Environment := do
  let port ← readInteger (text vars "RAG_PORT" "8001")
  let maxResults ← readInteger (text vars "RAG_MAX_RESULTS" "5")
  let threshold ← readNumber (text vars "RAG_SIMILARITY_THRESHOLD" "0.3")
  let timeoutMs ← readInteger (text vars "RAG_TIMEOUT_MS" "5000")
  return {
    host := filled (Text.strip (text vars "RAG_HOST" "localhost")) "localhost"
    port
    maxResults
    similarityThreshold := threshold
    includeTools := flag vars "RAG_INCLUDE_TOOLS" false
    timeoutMs
    enabled := flag vars "RAG_ENABLED" false
    certificates := Text.strip (text vars "RAG_CA_CERT_PATH" "/etc/ssl/certs")
    logLevel := filled (Text.capitals (Text.strip (text vars "RAG_LOG_LEVEL" "INFO"))) "INFO" }

def settings (e : Environment) : Except (List Input.Fault) Settings :=
  Settings.ofMembers [("host", .str e.host), ("port", .int e.port),
    ("max_results", .int e.maxResults), ("similarity_threshold", .real e.similarityThreshold),
    ("include_tools", .bool e.includeTools), ("timeout_ms", .int e.timeoutMs),
    ("enabled", .bool e.enabled)]

end Environment

end Grounding
