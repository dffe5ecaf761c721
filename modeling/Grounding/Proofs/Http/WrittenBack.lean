import Grounding.Proofs.Http.Rejection
import Grounding.Proofs.Settings.Fields

/-!
# Writing back what was read

Checking settings a second time changes nothing in them.  A gateway whose own settings are brought to it
finds nothing to do: it keeps its link if it has one, and builds none if it has none.
-/

namespace Grounding

namespace Gateway

variable {g : Gateway} {s : Settings}

/-- Bringing a gateway its own settings does nothing. -/
theorem step_update_of_settings_eq (hg : g.settings = s.values) :
    Session.step g (.update s.values) = ⟨g, [], 0, none, .done⟩ := by
  rw [Session.step, update_of_settings_eq hg]
  rfl

end Gateway

namespace Http

variable {g : Gateway} {call : Call} {s : Settings}

/-- A body with the members that a check lets through is read as what they make. -/
theorem readChecked_of_decodes {α : Type} {check : Members → Except (List Input.Fault) α}
    {room : Room} {body : List UInt8} {members : Members} {a : α}
    (hbody : Json.decodeWithin room.bodyLimits body = .ok (.obj members))
    (h : check members = .ok a) : readChecked room body check = .ok a := by
  have hempty := isEmpty_eq_false_of_decodes hbody
  simp [readChecked, readBody, hempty, hbody, h]

/-- The settings of a gateway, brought to it, are confirmed and leave it alone. -/
theorem Call.Reaches.respond_own {service : Service} (h : call.Reaches "PUT" .settings) (hs : s.Valid)
    (hg : g.settings = s.values)
    (hbody : Json.decodeWithin service.room.bodyLimits call.body = .ok g.settings.toJson)
    (today : Date) :
    Http.respond g call today service = answerStill g service (.ok g.settings.toJson) := by
  have hread : readChecked service.room call.body Settings.ofMembers = .ok s := by
    rw [hg] at hbody
    exact readChecked_of_decodes hbody hs.ofJson_toJson
  rw [h.respond (by decide), serve, if_pos rfl]
  simp only [putSettings, hread, Gateway.update_of_settings_eq hg]
  rfl

/-- The linked gateway is brought the settings that it shows. -/
def ownSettings : Call :=
  settingsCall "PUT" ("\x7b\"host\":\"localhost\",\"port\":8001,\"max_results\":5," ++
    "\"similarity_threshold\":0.3,\"include_tools\":false,\"timeout_ms\":5000,\"enabled\":true\x7d")

-- Reading is a recursion over the text, and this one is long.
set_option maxRecDepth 20000 in
theorem decodes_ownSettings :
    Json.decodeWithin Room.usual.bodyLimits ownSettings.body =
      .ok Gateway.linked.settings.toJson := by
  -- The bytes stand here as they are, since a text does not evaluate to them by `rfl`.
  have hbody : ownSettings.body =
      [123, 34, 104, 111, 115, 116, 34, 58, 34, 108, 111, 99, 97, 108, 104, 111, 115, 116, 34, 44,
       34, 112, 111, 114, 116, 34, 58, 56, 48, 48, 49, 44, 34, 109, 97, 120, 95, 114, 101, 115, 117,
       108, 116, 115, 34, 58, 53, 44, 34, 115, 105, 109, 105, 108, 97, 114, 105, 116, 121, 95, 116,
       104, 114, 101, 115, 104, 111, 108, 100, 34, 58, 48, 46, 51, 44, 34, 105, 110, 99, 108, 117,
       100, 101, 95, 116, 111, 111, 108, 115, 34, 58, 102, 97, 108, 115, 101, 44, 34, 116, 105, 109,
       101, 111, 117, 116, 95, 109, 115, 34, 58, 53, 48, 48, 48, 44, 34, 101, 110, 97, 98, 108, 101,
       100, 34, 58, 116, 114, 117, 101, 125] := by
    decide +kernel
  have hshown : Gateway.nearby.values.toJson = .obj [("host", .str "localhost"),
      ("port", .int 8001), ("max_results", .int 5),
      ("similarity_threshold", .real (.ofDecimal false 3 (-1))), ("include_tools", .bool false),
      ("timeout_ms", .int 5000), ("enabled", .bool true)] := by
    simp only [Gateway.nearby, Settings.values, Settings.Values.toJson]
  rw [Gateway.settings_linked, hbody, hshown]
  rfl

end Http

end Grounding
