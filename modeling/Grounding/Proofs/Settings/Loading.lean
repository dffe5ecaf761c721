import Grounding.Proofs.Settings.Fields
import Grounding.Proofs.Text.Trimming
import Grounding.Settings.Environment

/-!
# From variables to settings

Two layers look at a variable.  Loading reads the numbers and stops at the first that is not well formed; the
check of the settings then asks whether they are in range, and tells all that are not.  The host and the
flags pass both layers, whatever their texts are, since neither can come out wrong.
-/

namespace Grounding

theorem Except.bind_eq_ok_iff {ε α β : Type} {x : Except ε α} {f : α → Except ε β} {b : β} :
    (x >>= f) = .ok b ↔ ∃ a, x = .ok a ∧ f a = .ok b := by
  cases x with
  | error fault => simp [bind, Except.bind]
  | ok a => simp [bind, Except.bind]

namespace Settings

variable {s : Settings}

/-! ## Fields out of range -/

/-- The field is in the range that its check asks for. -/
def InRange (s : Settings) : Field → Prop
  | .port => 1 ≤ s.port ∧ s.port ≤ 65535
  | .maxResults => 1 ≤ s.maxResults
  | .similarityThreshold =>
    ∃ u, s.similarityThreshold.units? = some u ∧ 0 ≤ u ∧ u ≤ (Binary64.unitsPerOne : Int)
  | .timeoutMs => 1 ≤ s.timeoutMs
  | .host | .includeTools | .enabled => True

instance (s : Settings) (f : Field) : Decidable (s.InRange f) :=
  match f with
  | .port => inferInstanceAs (Decidable (1 ≤ s.port ∧ s.port ≤ 65535))
  | .maxResults => inferInstanceAs (Decidable (1 ≤ s.maxResults))
  | .similarityThreshold => decidable_of_iff _ Binary64.atMost_zero_one_iff
  | .timeoutMs => inferInstanceAs (Decidable (1 ≤ s.timeoutMs))
  | .host | .includeTools | .enabled => inferInstanceAs (Decidable True)

/-- The fields that are not in range, in the order in which they are told. -/
def outOfRange (s : Settings) : List Field := Field.all.filter fun f => ¬ s.InRange f

theorem outOfRange_eq_nil_iff : s.outOfRange = [] ↔ ∀ f, s.InRange f := by
  have hall : ∀ f : Field, f ∈ Field.all := by
    intro f
    cases f <;> decide
  simp [outOfRange, List.filter_eq_nil_iff, hall]

theorem accepts_get_iff (s : Settings) (f : Field) :
    f.Accepts (s.values.get f) ↔ s.InRange f := by
  cases f with
  | host => exact iff_of_true ⟨s.host, rfl⟩ trivial
  | includeTools => exact iff_of_true ⟨s.includeTools, rfl⟩ trivial
  | enabled => exact iff_of_true ⟨s.enabled, rfl⟩ trivial
  | port | maxResults | similarityThreshold | timeoutMs =>
      constructor
      · rintro ⟨value, hread, hrange⟩
        obtain rfl := Except.ok.inj hread
        exact hrange
      · intro hrange
        exact ⟨_, rfl, hrange⟩

theorem valid_of_inRange (h : ∀ f, s.InRange f) : s.Valid := by
  rw [Field.forall_iff] at h
  obtain ⟨-, ⟨hlow, hhigh⟩, hresults, hthreshold, -, htimeout, -⟩ := h
  obtain ⟨hnonneg, hone⟩ := Binary64.atMost_zero_one_iff.2 hthreshold
  exact ⟨hlow, hhigh, hresults, hnonneg, hone, htimeout⟩

theorem Field.path_of_fault? {f : Field} {v : Json} {fault : Input.Fault}
    (h : f.fault? v = some fault) : fault.path = [.field f.name] := by
  unfold fault? Input.faultOf? at h
  split at h
  · contradiction
  · obtain rfl := Option.some.inj h
    rfl

/-- Of any fields the faults name those that are not in range. -/
theorem paths_of_faults (s : Settings) (fields : List Field) :
    (fields.filterMap fun f => f.fault? (s.values.get f)).map Input.Fault.path =
      (fields.filter fun f => ¬ s.InRange f).map fun f => [.field f.name] := by
  induction fields with
  | nil => rfl
  | cons f rest ih =>
      rw [List.filterMap_cons]
      cases hfault : f.fault? (s.values.get f) with
      | none =>
          have hrange : s.InRange f := by
            rwa [Field.fault?_eq_none_iff, accepts_get_iff] at hfault
          rw [List.filter_cons_of_neg (by simpa using hrange)]
          exact ih
      | some fault =>
          have hrange : ¬ s.InRange f := by
            rw [← accepts_get_iff, ← Field.fault?_eq_none_iff, hfault]
            simp
          rw [List.filter_cons_of_pos (by simpa using hrange), List.map_cons, List.map_cons, ih,
            Field.path_of_fault? hfault]

/-- Settings that are checked again pass as they are, or all their fields that are not in range are told. -/
theorem ofJson_toJson_cases (s : Settings) :
    (s.outOfRange = [] → ofJson s.values.toJson = .ok s) ∧
    (s.outOfRange ≠ [] → ∃ faults, ofJson s.values.toJson = .error faults ∧
      faults.map Input.Fault.path = s.outOfRange.map fun f => [.field f.name]) := by
  rw [ne_eq, outOfRange_eq_nil_iff]
  constructor
  · intro h
    exact (valid_of_inRange h).ofJson_toJson
  · intro h
    cases hchecked : ofJson s.values.toJson with
    | ok other =>
        refine absurd (fun f => ?_) h
        rw [← accepts_get_iff, ← Field.exists_read_iff]
        exact ⟨_, ofJson_toJson_iff.1 hchecked f⟩
    | error faults =>
        have hfaults : faults = Field.all.filterMap fun f => f.fault? (s.values.get f) := by
          refine (faults_of_ofMembers hchecked).trans (List.filterMap_congr fun f _ => ?_)
          exact congrArg (Option.bind · f.fault?) (s.values.get?_toJson f)
        refine ⟨faults, rfl, ?_⟩
        rw [hfaults, paths_of_faults, outOfRange]

end Settings

namespace Environment

variable {vars : Variables} {e : Environment} {name : String}

/-! ## Reading the variables -/

/-- The constants that the settings are made of, unchecked. -/
def constants (e : Environment) : Settings where
  host := e.host
  port := e.port
  maxResults := e.maxResults
  similarityThreshold := e.similarityThreshold
  includeTools := e.includeTools
  timeoutMs := e.timeoutMs
  enabled := e.enabled

theorem settings_eq (e : Environment) : e.settings = Settings.ofJson e.constants.values.toJson := rfl

/-- What the variable of a field says.  Only those of the numbers can be refused. -/
def reading (vars : Variables) : Settings.Field → Except NumeralFault Json
  | .host => .ok (.str (filled (Text.strip (text vars "RAG_HOST" "localhost")) "localhost"))
  | .port => (readInteger (text vars "RAG_PORT" "8001")).map .int
  | .maxResults => (readInteger (text vars "RAG_MAX_RESULTS" "5")).map .int
  | .similarityThreshold => (readNumber (text vars "RAG_SIMILARITY_THRESHOLD" "0.3")).map .real
  | .includeTools => .ok (.bool (flag vars "RAG_INCLUDE_TOOLS" false))
  | .timeoutMs => (readInteger (text vars "RAG_TIMEOUT_MS" "5000")).map .int
  | .enabled => .ok (.bool (flag vars "RAG_ENABLED" false))

def refusal? (vars : Variables) (f : Settings.Field) : Option NumeralFault :=
  match reading vars f with
  | .ok _ => none
  | .error fault => some fault

theorem reading_of_load (h : load vars = .ok e) (f : Settings.Field) :
    reading vars f = .ok (e.constants.values.get f) := by
  simp only [load, Except.bind_eq_ok_iff] at h
  obtain ⟨port, hport, results, hresults, threshold, hthreshold, timeout, htimeout, hmade⟩ := h
  obtain rfl := Except.ok.inj hmade
  cases f with
  | host => simp only [reading, constants, Settings.values, Settings.Values.get]
  | port => exact congrArg (Except.map Json.int) hport
  | maxResults => exact congrArg (Except.map Json.int) hresults
  | similarityThreshold => exact congrArg (Except.map Json.real) hthreshold
  | includeTools => simp only [reading, constants, Settings.values, Settings.Values.get]
  | timeoutMs => exact congrArg (Except.map Json.int) htimeout
  | enabled => simp only [reading, constants, Settings.values, Settings.Values.get]

/-- Loading fails over the first variable that is refused. -/
theorem load_eq_error_iff {fault : NumeralFault} :
    load vars = .error fault ↔ Settings.Field.all.findSome? (refusal? vars) = some fault := by
  simp only [load, Settings.Field.all, List.findSome?_cons, refusal?, reading]
  cases readInteger (text vars "RAG_PORT" "8001") with
  | error other => simp [bind, Except.bind, Except.map]
  | ok port =>
      cases readInteger (text vars "RAG_MAX_RESULTS" "5") with
      | error other => simp [bind, Except.bind, Except.map]
      | ok results =>
          cases readNumber (text vars "RAG_SIMILARITY_THRESHOLD" "0.3") with
          | error other => simp [bind, Except.bind, Except.map]
          | ok threshold =>
              cases readInteger (text vars "RAG_TIMEOUT_MS" "5000") with
              | error other => simp [bind, Except.bind, Except.map]
              | ok timeout => simp [bind, Except.bind, Except.map, pure, Except.pure]

theorem refusal?_eq_none_iff {f : Settings.Field} :
    refusal? vars f = none ↔ ∃ v, reading vars f = .ok v := by
  unfold refusal?
  cases reading vars f <;> simp

theorem exists_load_iff : (∃ e, load vars = .ok e) ↔ ∀ f, ∃ v, reading vars f = .ok v := by
  constructor
  · rintro ⟨e, h⟩ f
    exact ⟨_, reading_of_load h f⟩
  · intro h
    cases hload : load vars with
    | ok e => exact ⟨e, rfl⟩
    | error fault =>
        obtain ⟨f, -, hfault⟩ := List.exists_of_findSome?_eq_some (load_eq_error_iff.1 hload)
        rw [refusal?_eq_none_iff.2 (h f)] at hfault
        contradiction

/-! ## Texts and flags -/

/-- The host is never blank, and nothing blank is at either end of it. -/
structure HasUsableHost (e : Environment) : Prop where
  ne_nil : e.host.toList ≠ []
  trimmed : Text.IsTrimmed Text.isBlank e.host.toList

theorem hasUsableHost_of_load (h : load vars = .ok e) : e.HasUsableHost := by
  have hhost := Except.ok.inj (reading_of_load h .host)
  have hread : filled (Text.strip (text vars "RAG_HOST" "localhost")) "localhost" = e.host :=
    Json.str.inj hhost
  unfold filled at hread
  split_ifs at hread with hempty
  · have hdefault : Text.trim Text.isBlank "localhost".toList = "localhost".toList := by
      decide
    constructor
    · rw [← hread]
      decide
    · rw [← hread, ← hdefault]
      exact Text.isTrimmed_trim _ _
  · constructor
    · rw [← hread]
      simpa using hempty
    · rw [← hread, Text.strip, String.toList_ofList]
      exact Text.isTrimmed_trim _ _

/-- The text of a variable is one of the four words, but for blanks around it and capitals. -/
def Affirms (vars : Variables) (name : String) : Prop :=
  String.ofList ((Text.strip (text vars name "")).toList.map Char.toLower) ∈ affirmations

theorem flag_eq_true_iff : flag vars name false = true ↔ Affirms vars name := by
  unfold flag Affirms
  dsimp only
  split_ifs with hempty
  · rw [hempty]
    decide
  · exact List.contains_iff_mem

theorem flags_of_load (h : load vars = .ok e) :
    (e.enabled = true ↔ Affirms vars "RAG_ENABLED") ∧
      (e.includeTools = true ↔ Affirms vars "RAG_INCLUDE_TOOLS") := by
  have henabled : flag vars "RAG_ENABLED" false = e.enabled :=
    Json.bool.inj (Except.ok.inj (reading_of_load h .enabled))
  have htools : flag vars "RAG_INCLUDE_TOOLS" false = e.includeTools :=
    Json.bool.inj (Except.ok.inj (reading_of_load h .includeTools))
  rw [← henabled, ← htools]
  exact ⟨flag_eq_true_iff, flag_eq_true_iff⟩

/-- The constants load exactly if every variable can be read, and the fault is that of the first that
cannot.  What has loaded is what the variables say, with a host that can be used and flags that are set by
one of four words.  The settings are these constants, unless some of them are out of range; then those
are told. -/
theorem load_then_settings (vars : Variables) :
    ((∃ e, load vars = .ok e) ↔ ∀ f, ∃ v, reading vars f = .ok v) ∧
    (∀ fault, load vars = .error fault ↔
      Settings.Field.all.findSome? (refusal? vars) = some fault) ∧
    ∀ e, load vars = .ok e →
      (∀ f, reading vars f = .ok (e.constants.values.get f)) ∧
      (e.constants.outOfRange = [] → e.settings = .ok e.constants) ∧
      (e.constants.outOfRange ≠ [] → ∃ faults, e.settings = .error faults ∧
        faults.map Input.Fault.path = e.constants.outOfRange.map fun f => [.field f.name]) ∧
      e.HasUsableHost ∧
      (e.enabled = true ↔ Affirms vars "RAG_ENABLED") ∧
      (e.includeTools = true ↔ Affirms vars "RAG_INCLUDE_TOOLS") := by
  refine ⟨exists_load_iff, fun fault => load_eq_error_iff, fun e h => ?_⟩
  obtain ⟨hpass, hfail⟩ := e.constants.ofJson_toJson_cases
  rw [settings_eq]
  exact ⟨reading_of_load h, hpass, hfail, hasUsableHost_of_load h, flags_of_load h⟩

/-- Variables that can all be read, two of them out of range. -/
def crowded : Variables :=
  [("RAG_HOST", "\t rag \n"), ("RAG_PORT", " +7_0000 "), ("RAG_SIMILARITY_THRESHOLD", "nan"),
    ("RAG_ENABLED", " On "), ("RAG_INCLUDE_TOOLS", "y")]

theorem load_then_settings_crowded :
    load [("RAG_TIMEOUT_MS", "5e3"), ("RAG_PORT", "0")] = .error (.notInteger "5e3") ∧
      ∃ e, load crowded = .ok e ∧ e.host = "rag" ∧ e.HasUsableHost ∧ e.enabled = true ∧
        e.includeTools = false ∧ ∃ faults, e.settings = .error faults ∧
          faults.map Input.Fault.path = [[.field "port"], [.field "similarity_threshold"]] := by
  have hrefused : load [("RAG_TIMEOUT_MS", "5e3"), ("RAG_PORT", "0")] =
      .error (.notInteger "5e3") := by
    apply ((load_then_settings _).2.1 _).2
    decide
  have hshown : (load crowded).map (fun e => (e.host, e.includeTools, e.constants.outOfRange)) =
      .ok ("rag", false, [.port, .similarityThreshold]) := by
    decide +kernel
  refine ⟨hrefused, ?_⟩
  cases hload : load crowded with
  | error fault =>
      rw [hload] at hshown
      contradiction
  | ok e =>
      rw [hload] at hshown
      obtain ⟨hhost, htools, hrange⟩ : e.host = "rag" ∧ e.includeTools = false ∧
          e.constants.outOfRange = [.port, .similarityThreshold] := by
        simpa [Except.map] using hshown
      obtain ⟨-, -, hfail, husable, henabled, -⟩ := (load_then_settings crowded).2.2 e hload
      rw [hrange] at hfail
      refine ⟨e, rfl, hhost, husable, henabled.2 ?_, htools, hfail (by simp)⟩
      unfold Affirms
      decide

end Environment

end Grounding
