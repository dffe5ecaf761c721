import Grounding.Proofs.Probe.Launch
import Grounding.Proofs.Settings.Fields

/-!
# The settings a probe opens with

A probe takes checked settings and replaces a few of them by its arguments, without another check.  So the
ranges of its numeric options are the ranges of what it opens its gateway with: the settings pass a check
exactly if the options would.
-/

namespace Grounding.Probe

variable {platform : Platform} {vars : Variables} {args : List String} {environment : Environment} {a : Arguments}
  {settings : Settings}

/-- The numeric options that are given have values, and the values are in the range of their fields. -/
structure Arguments.InRange (a : Arguments) : Prop where
  port : ∀ figure, a.port = some figure → ∃ n, figure = .number n ∧ 1 ≤ n ∧ n ≤ 65535
  timeoutMs : ∀ figure, a.timeoutMs = some figure → ∃ n, figure = .number n ∧ 1 ≤ n

/-- A run that opens a gateway, or fails in doing so. -/
structure Opens (vars : Variables) (args : List String) (environment : Environment) (a : Arguments)
    (settings : Settings) : Prop where
  loaded : Environment.load vars = .ok environment
  arguments : readArguments args = .ok a
  level : environment.logLevel ∈ logLevels
  checked : environment.settings = .ok settings

theorem Opens.run_eq (h : Opens vars args environment a settings) (service : Service) :
    run platform environment args service =
      match Gateway.create platform (override settings a) with
      | (.error fault, _, _) => failed (.link fault)
      | (.ok (), g, _) => examine g (chosenHost settings a) a service := by
  have hlevel : logLevels.contains environment.logLevel = true := List.contains_iff_mem.2 h.level
  unfold run
  rw [h.arguments]
  simp only [hlevel, h.checked]
  rfl

/-- No other run has a gateway, or a fault of its link. -/
theorem exists_opens_of_run {service : Service} (hloaded : Environment.load vars = .ok environment)
    (h : (run platform environment args service).gateway ≠ none ∨
      ∃ fault, (run platform environment args service).exit = .error (.link fault)) :
    ∃ a settings, Opens vars args environment a settings := by
  unfold run at h
  split at h
  · simp [ended] at h
  · simp [ended] at h
  · next a hargs =>
    split_ifs at h with hlevel
    · simp [failed] at h
    · cases hchecked : environment.settings with
      | error faults => simp [hchecked, failed] at h
      | ok settings =>
          have hmem : environment.logLevel ∈ logLevels := by simpa using hlevel
          exact ⟨a, settings, hloaded, hargs, hmem, hchecked⟩

/-- What stands in the place of a setting is a number in range exactly if it is one where it comes from. -/
theorem exists_int_eq_override_iff {figure : Option Figure} {kept : Int} {P : Int → Prop}
    (hkept : P kept) :
    (∃ n, Json.int n = (figure.map Figure.toJson).getD (.int kept) ∧ P n) ↔
      ∀ given, figure = some given → ∃ n, given = .number n ∧ P n := by
  cases figure with
  | none => simpa using hkept
  | some given =>
      cases given with
      | number n => simp [Figure.toJson]
      | nothing => simp [Figure.toJson]

/-- Whatever is put in the place of checked settings passes a check exactly if the options are in range. -/
theorem exists_valid_eq_override_iff (hs : settings.Valid) :
    (∃ s : Settings, s.Valid ∧ s.values = override settings a) ↔ a.InRange := by
  have hport : (∃ n, Json.int n = (override settings a).port ∧ 1 ≤ n ∧ n ≤ 65535) ↔ _ :=
    exists_int_eq_override_iff ⟨hs.one_le_port, hs.port_le⟩
  have htimeout : (∃ n, Json.int n = (override settings a).timeoutMs ∧ 1 ≤ n) ↔ _ :=
    exists_int_eq_override_iff hs.one_le_timeoutMs
  constructor
  · rintro ⟨s, hvalid, hvalues⟩
    exact ⟨hport.1 ⟨s.port, congrArg Settings.Values.port hvalues, hvalid.one_le_port, hvalid.port_le⟩,
      htimeout.1 ⟨s.timeoutMs, congrArg Settings.Values.timeoutMs hvalues, hvalid.one_le_timeoutMs⟩⟩
  · intro hrange
    obtain ⟨port, heqPort, hport⟩ := hport.2 hrange.port
    obtain ⟨timeout, heqTimeout, htimeout⟩ := htimeout.2 hrange.timeoutMs
    refine ⟨{ settings with
      host := chosenHost settings a, port := port, timeoutMs := timeout, enabled := true }, ?_, ?_⟩
    · exact { hs with one_le_port := hport.1, port_le := hport.2, one_le_timeoutMs := htimeout }
    · simp only [Settings.values, heqPort, heqTimeout, override]

theorem opens_usual (h : readArguments args = .ok a) : Opens [] args usual a {} where
  loaded := by decide +kernel
  arguments := h
  level := by decide
  checked := by decide +kernel

/-- A run that has a gateway, or fails to open one, opens with the settings of its environment under its
arguments.  They are in range, and pass a check as they are, exactly if the numeric options that are given are
in range. -/
theorem opening_settings_pass_iff (platform : Platform)
    (hloaded : Environment.load vars = .ok environment) :
    (∀ service, ((run platform environment args service).gateway ≠ none ∨
        ∃ fault, (run platform environment args service).exit = .error (.link fault)) →
      ∃ a settings, Opens vars args environment a settings) ∧
    ∀ a settings, Opens vars args environment a settings →
      (∀ service, run platform environment args service =
        match Gateway.create platform (override settings a) with
        | (.error fault, _, _) => failed (.link fault)
        | (.ok (), g, _) => examine g (chosenHost settings a) a service) ∧
      ((override settings a).Pass ↔ a.InRange) ∧
      ((∃ s : Settings, s.Valid ∧ s.values = override settings a) ↔ a.InRange) := by
  refine ⟨fun service hopens => exists_opens_of_run hloaded hopens, fun a settings h => ?_⟩
  have hs : settings.Valid := Settings.valid_of_ofMembers h.checked
  refine ⟨h.run_eq, ?_, exists_valid_eq_override_iff hs⟩
  rw [Settings.Values.pass_iff, exists_valid_eq_override_iff hs]

theorem opening_settings_pass_iff_shorter :
    Opens [] ["--port", "9000", "--timeout", "250"] usual
      { port := some (.number 9000), timeoutMs := some (.number 250) } {} ∧
    (override {} { port := some (.number 9000), timeoutMs := some (.number 250) }).Pass := by
  have hopens : Opens [] ["--port", "9000", "--timeout", "250"] usual
      { port := some (.number 9000), timeoutMs := some (.number 250) } {} :=
    opens_usual (by decide +kernel)
  obtain ⟨-, hpass, -⟩ := (opening_settings_pass_iff .usual hopens.loaded).2 _ _ hopens
  refine ⟨hopens, hpass.2 ⟨?_, ?_⟩⟩
  · rintro figure ⟨⟩
    exact ⟨9000, rfl, by decide, by decide⟩
  · rintro figure ⟨⟩
    exact ⟨250, rfl, by decide⟩

/-- A port that the environment could not set is taken from an option, and asked for. -/
theorem not_pass_portZero :
    (Opens [] ["--port", "0"] usual { port := some (.number 0) } {} ∧
      ¬ (override {} { port := some (.number 0) }).Pass ∧
      (run .usual usual ["--port", "0"] (.always .lost)).requests.map (·.url) =
        ["http://localhost:0/api/v1/llama/health"]) ∧
    ∃ environment, Environment.load [("RAG_PORT", "0")] = .ok environment ∧
      environment.settings = .error [⟨[.field "port"], .below 1⟩] := by
  refine ⟨⟨opens_usual (by decide +kernel), ?_, by decide +kernel⟩,
    { usual with port := 0 }, by decide +kernel, by decide +kernel⟩
  rw [Settings.Values.pass_iff]
  rintro ⟨s, hvalid, hvalues⟩
  have hport : s.port = 0 := Json.int.inj (congrArg Settings.Values.port hvalues)
  have hlow : 1 ≤ s.port := hvalid.one_le_port
  omega

end Grounding.Probe
