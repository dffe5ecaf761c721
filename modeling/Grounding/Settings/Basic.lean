import Grounding.Input.Scalar

/-!
# Settings of the gateway

Where the retrieval service is, how it is asked, and whether it is asked at all.  Settings that come
from outside are validated field by field; the fields are independent, so every offending field is
reported, in a fixed order.
-/

namespace Grounding

/-- Connection parameters and feature flags.  While `enabled` is false no request is sent. -/
structure Settings where
  host : String := "localhost"
  port : Int := 8001
  maxResults : Int := 5
  similarityThreshold : Binary64 := .ofDecimal false 3 (-1)
  includeTools : Bool := false
  timeoutMs : Int := 5000
  enabled : Bool := false
deriving DecidableEq

namespace Settings

def largestPort : Int := 65535

def readPort (v : Json) : Except Input.Defect Int :=
  match Input.readInteger v with
  | .error d => .error d
  | .ok n =>
    if largestPort < n then .error (.above 65535)
    else if n < 1 then .error (.below 1)
    else .ok n

/-- A share of one.  NaN is not at most one. -/
def readThreshold (v : Json) : Except Input.Defect Binary64 :=
  match Input.readNumber v with
  | .error d => .error d
  | .ok x =>
    if !x.atMost .one then .error (.above 1)
    else if !Binary64.zero.atMost x then .error (.below 0)
    else .ok x

/-- Settings from the members of an object.  Absent fields take their defaults, unknown members are
ignored. -/
def ofMembers (members : List (String × Json)) : Except (List Input.Fault) Settings :=
  let host := Input.field members "host" "localhost" Input.readText
  let port := Input.field members "port" 8001 readPort
  let maxResults := Input.field members "max_results" 5 Input.readCount
  let threshold :=
    Input.field members "similarity_threshold" (.ofDecimal false 3 (-1)) readThreshold
  let includeTools := Input.field members "include_tools" false Input.readFlag
  let timeoutMs := Input.field members "timeout_ms" 5000 Input.readCount
  let enabled := Input.field members "enabled" false Input.readFlag
  match host, port, maxResults, threshold, includeTools, timeoutMs, enabled with
  | .ok host, .ok port, .ok maxResults, .ok threshold, .ok includeTools, .ok timeoutMs,
      .ok enabled =>
    .ok ⟨host, port, maxResults, threshold, includeTools, timeoutMs, enabled⟩
  | _, _, _, _, _, _, _ =>
    .error (Input.faultsOf host ++ Input.faultsOf port ++ Input.faultsOf maxResults ++
      Input.faultsOf threshold ++ Input.faultsOf includeTools ++ Input.faultsOf timeoutMs ++
      Input.faultsOf enabled)

def ofJson : Json → Except (List Input.Fault) Settings
  | .obj members => ofMembers members
  | _ => .error [⟨[], .notRecord "RAGConfig"⟩]

/-- What validation ensures of every field. -/
structure Valid (s : Settings) : Prop where
  one_le_port : 1 ≤ s.port
  port_le : s.port ≤ largestPort
  one_le_maxResults : 1 ≤ s.maxResults
  threshold_nonneg : Binary64.zero.atMost s.similarityThreshold = true
  threshold_le_one : s.similarityThreshold.atMost .one = true
  one_le_timeoutMs : 1 ≤ s.timeoutMs

end Settings

end Grounding
