import Grounding.Retrieval.Findings

/-!
# Outcome of a retrieval

Asking for context either gives findings or is refused for one of four reasons, so that a caller can
tell a gateway that is switched off from a service that is broken.
-/

namespace Grounding

inductive RefusalKind where
  | disabled
  | emptyQuery
  | transport
  | parse
deriving DecidableEq

def RefusalKind.name : RefusalKind → String
  | .disabled => "disabled"
  | .emptyQuery => "empty_query"
  | .transport => "transport"
  | .parse => "parse"

structure Refusal where
  kind : RefusalKind
  message : String
deriving DecidableEq

namespace Refusal

def disabled : Refusal := ⟨.disabled, "RAG disabled"⟩

def emptyQuery : Refusal := ⟨.emptyQuery, "Empty query"⟩

def transport : Refusal := ⟨.transport, "Failed to get response from RAG service"⟩

def parse (detail : String) : Refusal := ⟨.parse, "Parse error: " ++ detail⟩

end Refusal

/-- The outcome, and how long it took in milliseconds as seen from here. -/
structure Retrieval where
  latency : Binary64
  outcome : Except Refusal Findings

namespace Retrieval

def toJson (r : Retrieval) : Json :=
  let findings : Findings := match r.outcome with
    | .ok findings => findings
    | .error _ => {}
  let (success, message, kind) : Bool × String × Json := match r.outcome with
    | .ok _ => (true, "", .null)
    | .error refusal => (false, refusal.message, .str refusal.kind.name)
  .obj [("augmented_context", .str findings.context),
    ("chunks", .arr (findings.passages.map Passage.toJson)),
    ("suggested_tools", .arr (findings.tools.map .str)),
    ("latency_ms", .real r.latency),
    ("service_latency_ms", .real findings.serviceLatency),
    ("success", .bool success),
    ("error_message", .str message),
    ("error_kind", kind)]

end Retrieval

end Grounding
