import Grounding.Settings.Basic

/-!
# Settings in force

A gateway holds a value for every field.  The values come from typed settings; but a field may also be
replaced without a check, by a value of any type, and then the value is what counts.
-/

namespace Grounding

structure Settings.Values where
  host : Json
  port : Json
  maxResults : Json
  similarityThreshold : Json
  includeTools : Json
  timeoutMs : Json
  enabled : Json

namespace Settings

def values (s : Settings) : Values where
  host := .str s.host
  port := .int s.port
  maxResults := .int s.maxResults
  similarityThreshold := .real s.similarityThreshold
  includeTools := .bool s.includeTools
  timeoutMs := .int s.timeoutMs
  enabled := .bool s.enabled

namespace Values

def toJson (v : Values) : Json :=
  .obj [("host", v.host), ("port", v.port), ("max_results", v.maxResults),
    ("similarity_threshold", v.similarityThreshold), ("include_tools", v.includeTools),
    ("timeout_ms", v.timeoutMs), ("enabled", v.enabled)]

/-- The values with some fields replaced as they are.  Unknown members are ignored. -/
def replace (v : Values) (members : List (String × Json)) : Values where
  host := (Json.lookup "host" members).getD v.host
  port := (Json.lookup "port" members).getD v.port
  maxResults := (Json.lookup "max_results" members).getD v.maxResults
  similarityThreshold := (Json.lookup "similarity_threshold" members).getD v.similarityThreshold
  includeTools := (Json.lookup "include_tools" members).getD v.includeTools
  timeoutMs := (Json.lookup "timeout_ms" members).getD v.timeoutMs
  enabled := (Json.lookup "enabled" members).getD v.enabled

/-- Whether the master switch is on; any value but nothing turns it on. -/
def isEnabled (v : Values) : Bool := !v.enabled.isNothing

end Values

@[simp] theorem isEnabled_values (s : Settings) : s.values.isEnabled = s.enabled := by
  simp [values, Values.isEnabled, Json.isNothing]

end Settings

end Grounding
