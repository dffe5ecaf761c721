import Grounding.Proofs.Number.FiniteRange
import Grounding.Proofs.Settings.Checked
import Grounding.Settings.Values
import Mathlib.Data.List.Basic

/-!
# Field by field

Seven fields are checked in a fixed order, each by itself.  An object makes settings exactly if every field
that is there is acceptable; the fields that are not there take their defaults, and other members are not
looked at.  Otherwise every field that is not acceptable is told, once and in its place.
-/

namespace Grounding

theorem Except.map_eq_ok_iff {ε α β : Type} {wrap : α → β} (h : Function.Injective wrap)
    {x : Except ε α} {a : α} : x.map wrap = .ok (wrap a) ↔ x = .ok a := by
  cases x with
  | error fault => simp [Except.map]
  | ok b => simp [Except.map, h.eq_iff]

theorem Except.exists_map_eq_ok_iff {ε α β : Type} {x : Except ε α} {wrap : α → β} :
    (∃ b, x.map wrap = .ok b) ↔ ∃ a, x = .ok a := by
  cases x <;> simp [Except.map]

namespace Input

variable {α β : Type} {members : List (String × Json)} {name : String} {default a : α}
  {read : Json → Except Defect α}

/-- What is wrong with a value for a field. -/
def faultOf? (name : String) (read : Json → Except Defect α) (v : Json) : Option Fault :=
  match read v with
  | .ok _ => none
  | .error d => some ⟨[.field name], d⟩

theorem faultOf?_eq_none_iff {v : Json} : faultOf? name read v = none ↔ ∃ a, read v = .ok a := by
  unfold faultOf?
  cases read v <;> simp

theorem field_map (wrap : α → β) (members : List (String × Json)) (name : String) (default : α)
    (read : Json → Except Defect α) :
    field members name (wrap default) (fun v => (read v).map wrap) =
      (field members name default read).map wrap := by
  unfold field
  cases Json.lookup name members with
  | none => rfl
  | some v =>
      dsimp only
      cases read v <;> rfl

theorem faultsOf_map (wrap : α → β) (x : Except Fault α) : faultsOf (x.map wrap) = faultsOf x := by
  cases x <;> rfl

theorem faultsOf_eq_nil_iff {x : Except Fault α} : faultsOf x = [] ↔ ∃ a, x = .ok a := by
  cases x <;> simp [faultsOf]

theorem faultsOf_field :
    faultsOf (field members name default read) =
      ((Json.lookup name members).bind (faultOf? name read)).toList := by
  unfold field faultOf?
  cases Json.lookup name members with
  | none => rfl
  | some v =>
      dsimp only [Option.bind_some]
      cases read v <;> rfl

theorem default_of_field (h : field members name default read = .ok a)
    (hv : Json.lookup name members = none) : a = default := by
  unfold field at h
  rw [hv] at h
  exact (Except.ok.inj h).symm

theorem field_eq_ok_iff {v : Json} (hv : Json.lookup name members = some v) :
    field members name default read = .ok a ↔ read v = .ok a := by
  unfold field
  rw [hv]
  dsimp only
  cases read v <;> simp

theorem readCount_eq_ok_iff {v : Json} {n : Int} :
    readCount v = .ok n ↔ readInteger v = .ok n ∧ 1 ≤ n := by
  unfold readCount
  cases readInteger v with
  | error d => simp
  | ok m =>
      dsimp only
      split_ifs <;> simp <;> omega

end Input

namespace Settings

variable {s : Settings} {members : List (String × Json)}

theorem readPort_eq_ok_iff {v : Json} {n : Int} :
    readPort v = .ok n ↔ Input.readInteger v = .ok n ∧ 1 ≤ n ∧ n ≤ 65535 := by
  unfold readPort largestPort
  cases Input.readInteger v with
  | error d => simp
  | ok m =>
      dsimp only
      split_ifs <;> simp <;> omega

theorem readThreshold_eq_ok_iff {v : Json} {x : Binary64} :
    readThreshold v = .ok x ↔ Input.readNumber v = .ok x ∧
      ∃ u, x.units? = some u ∧ 0 ≤ u ∧ u ≤ (Binary64.unitsPerOne : Int) := by
  rw [← Binary64.atMost_zero_one_iff]
  unfold readThreshold
  cases Input.readNumber v with
  | error d => simp
  | ok y =>
      dsimp only
      rw [Except.ok.injEq]
      split_ifs with hone hzero
      · refine iff_of_false (by simp) ?_
        rintro ⟨rfl, -, hhigh⟩
        simp [hhigh] at hone
      · refine iff_of_false (by simp) ?_
        rintro ⟨rfl, hlow, -⟩
        simp [hlow] at hzero
      · rw [Except.ok.injEq]
        refine ⟨?_, And.left⟩
        rintro rfl
        exact ⟨rfl, by simpa using hzero, by simpa using hone⟩

/-! ## The fields -/

inductive Field where
  | host
  | port
  | maxResults
  | similarityThreshold
  | includeTools
  | timeoutMs
  | enabled
deriving DecidableEq

def Values.get (v : Values) : Field → Json
  | .host => v.host
  | .port => v.port
  | .maxResults => v.maxResults
  | .similarityThreshold => v.similarityThreshold
  | .includeTools => v.includeTools
  | .timeoutMs => v.timeoutMs
  | .enabled => v.enabled

namespace Field

/-- All fields, in the order in which they are told. -/
def all : List Field :=
  [.host, .port, .maxResults, .similarityThreshold, .includeTools, .timeoutMs, .enabled]

def name : Field → String
  | .host => "host"
  | .port => "port"
  | .maxResults => "max_results"
  | .similarityThreshold => "similarity_threshold"
  | .includeTools => "include_tools"
  | .timeoutMs => "timeout_ms"
  | .enabled => "enabled"

def default (f : Field) : Json := ({} : Settings).values.get f

/-- What a value for the field is read as.  No other field has a say in it. -/
def read : Field → Json → Except Input.Defect Json
  | .host, v => (Input.readText v).map .str
  | .port, v => (readPort v).map .int
  | .maxResults, v | .timeoutMs, v => (Input.readCount v).map .int
  | .similarityThreshold, v => (readThreshold v).map .real
  | .includeTools, v | .enabled, v => (Input.readFlag v).map .bool

/-- A value is acceptable for the field: it can be taken for one of its kind and is in range. -/
def Accepts : Field → Json → Prop
  | .host, v => ∃ text, v = .str text
  | .port, v => ∃ n, Input.readInteger v = .ok n ∧ 1 ≤ n ∧ n ≤ 65535
  | .maxResults, v | .timeoutMs, v => ∃ n, Input.readInteger v = .ok n ∧ 1 ≤ n
  | .similarityThreshold, v => ∃ x, Input.readNumber v = .ok x ∧
      ∃ u, x.units? = some u ∧ 0 ≤ u ∧ u ≤ (Binary64.unitsPerOne : Int)
  | .includeTools, v | .enabled, v => ∃ flag, Input.readFlag v = .ok flag

/-- The field as members give it, or its default. -/
def readFrom (f : Field) (members : List (String × Json)) : Except Input.Fault Json :=
  Input.field members f.name f.default f.read

/-- What is wrong with a value for the field. -/
def fault? (f : Field) : Json → Option Input.Fault := Input.faultOf? f.name f.read

def faultIn? (f : Field) (members : List (String × Json)) : Option Input.Fault :=
  (Json.lookup f.name members).bind f.fault?

theorem exists_read_iff (f : Field) (v : Json) : (∃ w, f.read v = .ok w) ↔ f.Accepts v := by
  cases f with
  | host =>
      rw [read, Except.exists_map_eq_ok_iff, Accepts]
      cases v <;> simp [Input.readText]
  | port => simp only [read, Except.exists_map_eq_ok_iff, readPort_eq_ok_iff, Accepts]
  | maxResults =>
      simp only [read, Except.exists_map_eq_ok_iff, Input.readCount_eq_ok_iff, Accepts]
  | similarityThreshold =>
      simp only [read, Except.exists_map_eq_ok_iff, readThreshold_eq_ok_iff, Accepts]
  | includeTools => simp only [read, Except.exists_map_eq_ok_iff, Accepts]
  | timeoutMs =>
      simp only [read, Except.exists_map_eq_ok_iff, Input.readCount_eq_ok_iff, Accepts]
  | enabled => simp only [read, Except.exists_map_eq_ok_iff, Accepts]

theorem fault?_eq_none_iff (f : Field) (v : Json) : f.fault? v = none ↔ f.Accepts v := by
  rw [fault?, Input.faultOf?_eq_none_iff, exists_read_iff]

theorem faultIn?_eq_none_iff (f : Field) (members : List (String × Json)) :
    f.faultIn? members = none ↔ ∀ v, Json.lookup f.name members = some v → f.Accepts v := by
  unfold faultIn?
  cases Json.lookup f.name members with
  | none => simp
  | some v => simp [fault?_eq_none_iff]

theorem faultsOf_readFrom (f : Field) (members : List (String × Json)) :
    Input.faultsOf (f.readFrom members) = (f.faultIn? members).toList :=
  Input.faultsOf_field

theorem name_injective {f g : Field} (h : f.name = g.name) : f = g := by
  cases f <;> cases g <;> first | rfl | simp [name] at h

theorem forall_iff {P : Field → Prop} :
    (∀ f, P f) ↔ P .host ∧ P .port ∧ P .maxResults ∧ P .similarityThreshold ∧ P .includeTools ∧
      P .timeoutMs ∧ P .enabled := by
  constructor
  · intro h
    exact ⟨h _, h _, h _, h _, h _, h _, h _⟩
  · rintro ⟨hhost, hport, hresults, hthreshold, htools, htimeout, henabled⟩ f
    cases f <;> assumption

/-- Every field with the type of its own, as settings hold it. -/
theorem readFrom_eq (f : Field) (members : List (String × Json)) :
    f.readFrom members = match f with
      | .host => (Input.field members "host" "localhost" Input.readText).map .str
      | .port => (Input.field members "port" 8001 readPort).map .int
      | .maxResults => (Input.field members "max_results" 5 Input.readCount).map .int
      | .similarityThreshold =>
        (Input.field members "similarity_threshold" (.ofDecimal false 3 (-1)) readThreshold).map .real
      | .includeTools => (Input.field members "include_tools" false Input.readFlag).map .bool
      | .timeoutMs => (Input.field members "timeout_ms" 5000 Input.readCount).map .int
      | .enabled => (Input.field members "enabled" false Input.readFlag).map .bool := by
  unfold readFrom
  cases f <;> dsimp only [default, values, Values.get] <;> rw [← Input.field_map] <;> rfl

end Field

/-- Settings are what all fields are read as. -/
theorem ofMembers_eq_ok_iff_forall :
    ofMembers members = .ok s ↔ ∀ f : Field, f.readFrom members = .ok (s.values.get f) := by
  have hstr : Function.Injective Json.str := fun _ _ => Json.str.inj
  have hint : Function.Injective Json.int := fun _ _ => Json.int.inj
  have hreal : Function.Injective Json.real := fun _ _ => Json.real.inj
  have hbool : Function.Injective Json.bool := fun _ _ => Json.bool.inj
  rw [ofMembers_eq_ok_iff, Field.forall_iff]
  simp only [Field.readFrom_eq, Values.get, values, Except.map_eq_ok_iff hstr,
    Except.map_eq_ok_iff hint, Except.map_eq_ok_iff hreal, Except.map_eq_ok_iff hbool]

theorem exists_ofMembers_iff :
    (∃ s, ofMembers members = .ok s) ↔ ∀ f : Field, f.faultIn? members = none := by
  simp only [← Option.toList_eq_nil_iff, ← Field.faultsOf_readFrom, Input.faultsOf_eq_nil_iff]
  constructor
  · rintro ⟨s, hs⟩ f
    exact ⟨_, ofMembers_eq_ok_iff_forall.1 hs f⟩
  · intro h
    rw [Field.forall_iff] at h
    simp only [Field.readFrom_eq, Except.exists_map_eq_ok_iff] at h
    obtain ⟨⟨host, hhost⟩, ⟨port, hport⟩, ⟨results, hresults⟩, ⟨threshold, hthreshold⟩,
      ⟨tools, htools⟩, ⟨timeout, htimeout⟩, ⟨enabled, henabled⟩⟩ := h
    exact ⟨⟨host, port, results, threshold, tools, timeout, enabled⟩,
      ofMembers_eq_ok_iff.2 ⟨hhost, hport, hresults, hthreshold, htools, htimeout, henabled⟩⟩

/-- A value is acceptable for a field if it makes settings as the only member. -/
theorem Field.accepts_iff_alone (f : Field) (v : Json) :
    f.Accepts v ↔ ∃ s, ofJson (.obj [(f.name, v)]) = .ok s := by
  rw [ofJson, exists_ofMembers_iff]
  simp only [Field.faultIn?_eq_none_iff, Json.lookup]
  constructor
  · intro h g w hw
    split_ifs at hw with hname
    obtain rfl := Field.name_injective hname
    obtain rfl := Option.some.inj hw
    exact h
  · intro h
    exact h f v (if_pos rfl)

/-- What is at fault is told field by field. -/
theorem faults_of_ofMembers {faults : List Input.Fault} (h : ofMembers members = .error faults) :
    faults = Field.all.filterMap (·.faultIn? members) := by
  unfold ofMembers at h
  dsimp only at h
  split at h
  · contradiction
  · obtain rfl := Except.error.inj h
    rw [List.filterMap_eq_flatMap_toList]
    simp only [← Field.faultsOf_readFrom, Field.readFrom_eq, Input.faultsOf_map, Field.all,
      List.flatMap_cons, List.flatMap_nil, List.append_nil, List.append_assoc]

theorem ofMembers_congr {other : List (String × Json)}
    (h : ∀ f : Field, Json.lookup f.name other = Json.lookup f.name members) :
    ofMembers other = ofMembers members := by
  rw [Field.forall_iff] at h
  obtain ⟨hhost, hport, hresults, hthreshold, htools, htimeout, henabled⟩ := h
  simp only [Field.name] at hhost hport hresults hthreshold htools htimeout henabled
  simp only [ofMembers, Input.field, hhost, hport, hresults, hthreshold, htools, htimeout, henabled]

/-- An object makes settings in range exactly if all its fields are acceptable, each by itself, and what is
wrong with those that are not is told in order.  No other value makes settings. -/
theorem ofJson_fieldwise (v : Json) :
    match v with
    | .obj members =>
      ((∃ s, ofJson v = .ok s) ↔
        ∀ (f : Field) (w : Json), Json.lookup f.name members = some w → f.Accepts w) ∧
      (∀ s, ofJson v = .ok s →
        (∀ f : Field, (Json.lookup f.name members = none → s.values.get f = f.default) ∧
          ∀ w, Json.lookup f.name members = some w → f.read w = .ok (s.values.get f)) ∧
        (1 ≤ s.port ∧ s.port ≤ 65535) ∧ 1 ≤ s.maxResults ∧ 1 ≤ s.timeoutMs ∧
        ∃ u, s.similarityThreshold.units? = some u ∧ 0 ≤ u ∧ u ≤ (Binary64.unitsPerOne : Int)) ∧
      (∀ faults, ofJson v = .error faults →
        faults = Field.all.filterMap fun f => (Json.lookup f.name members).bind f.fault?) ∧
      (∀ (f : Field) (w : Json), (f.fault? w = none ↔ f.Accepts w) ∧
        (f.Accepts w ↔ ∃ s, ofJson (.obj [(f.name, w)]) = .ok s)) ∧
      ∀ other, (∀ f : Field, Json.lookup f.name other = Json.lookup f.name members) →
        ofJson (.obj other) = ofJson v
    | _ =>
      ofJson v = .error [⟨[], .notRecord "RAGConfig"⟩] ∧
        (Input.Defect.notRecord "RAGConfig").code = "model_type" := by
  cases v with
  | obj members =>
      refine ⟨?_, ?_, fun faults h => faults_of_ofMembers h,
        fun f w => ⟨f.fault?_eq_none_iff w, f.accepts_iff_alone w⟩, fun other h => ofMembers_congr h⟩
      · rw [ofJson, exists_ofMembers_iff]
        simp only [Field.faultIn?_eq_none_iff]
      · intro s hs
        have hread := ofMembers_eq_ok_iff_forall.1 hs
        have hvalid := valid_of_ofMembers hs
        refine ⟨fun f => ⟨fun h => ?_, fun w h => ?_⟩, ⟨hvalid.one_le_port, hvalid.port_le⟩,
          hvalid.one_le_maxResults, hvalid.one_le_timeoutMs, ?_⟩
        · exact Input.default_of_field (hread f) h
        · exact Input.read_of_field (hread f) h
        · exact Binary64.atMost_zero_one_iff.1 ⟨hvalid.threshold_nonneg, hvalid.threshold_le_one⟩
  | _ => exact ⟨rfl, rfl⟩

/-- Two fields at fault, one that is fine, and a member that is no field. -/
def crowded : List (String × Json) :=
  [("timeout_ms", .real .nan), ("colour", .null), ("enabled", .str "On"), ("port", .str " 70_000.0")]

theorem ofJson_fieldwise_crowded :
    ofJson (.obj crowded) =
        .error [⟨[.field "port"], .above 65535⟩, ⟨[.field "timeout_ms"], .notFinite⟩] ∧
      (Field.all.filterMap fun f => (Json.lookup f.name crowded).bind f.fault?) =
        [⟨[.field "port"], .above 65535⟩, ⟨[.field "timeout_ms"], .notFinite⟩] ∧
      ¬ ∀ (f : Field) (w : Json), Json.lookup f.name crowded = some w → f.Accepts w := by
  have hfails : ofJson (.obj crowded) =
      .error [⟨[.field "port"], .above 65535⟩, ⟨[.field "timeout_ms"], .notFinite⟩] := by
    decide +kernel
  obtain ⟨hiff, -, hfaults, -⟩ := ofJson_fieldwise (.obj crowded)
  refine ⟨hfails, (hfaults _ hfails).symm, fun hall => ?_⟩
  obtain ⟨s, hs⟩ := hiff.2 hall
  rw [hfails] at hs
  contradiction

/-! ## Checking again -/

theorem Values.get?_toJson (v : Values) (f : Field) :
    v.toJson.get? f.name = some (v.get f) := by
  cases f <;> rfl

theorem ofJson_toJson_iff {v : Values} :
    ofJson v.toJson = .ok s ↔ ∀ f : Field, f.read (v.get f) = .ok (s.values.get f) := by
  refine ofMembers_eq_ok_iff_forall.trans (forall_congr' fun f => ?_)
  exact Input.field_eq_ok_iff (v.get?_toJson f)

/-- Values in range are read as they are. -/
theorem Valid.read_get (hs : s.Valid) (f : Field) : f.read (s.values.get f) = .ok (s.values.get f) := by
  cases f with
  | host => rfl
  | port =>
      have hport : readPort (.int s.port) = .ok s.port :=
        readPort_eq_ok_iff.2 ⟨rfl, hs.one_le_port, hs.port_le⟩
      exact congrArg (Except.map Json.int) hport
  | maxResults =>
      have hresults : Input.readCount (.int s.maxResults) = .ok s.maxResults :=
        Input.readCount_eq_ok_iff.2 ⟨rfl, hs.one_le_maxResults⟩
      exact congrArg (Except.map Json.int) hresults
  | similarityThreshold =>
      have hthreshold : readThreshold (.real s.similarityThreshold) = .ok s.similarityThreshold :=
        readThreshold_eq_ok_iff.2
          ⟨rfl, Binary64.atMost_zero_one_iff.1 ⟨hs.threshold_nonneg, hs.threshold_le_one⟩⟩
      exact congrArg (Except.map Json.real) hthreshold
  | includeTools => rfl
  | timeoutMs =>
      have htimeout : Input.readCount (.int s.timeoutMs) = .ok s.timeoutMs :=
        Input.readCount_eq_ok_iff.2 ⟨rfl, hs.one_le_timeoutMs⟩
      exact congrArg (Except.map Json.int) htimeout
  | enabled => rfl

/-- Settings in range pass their check again, as they are. -/
theorem Valid.ofJson_toJson (hs : s.Valid) : ofJson s.values.toJson = .ok s :=
  ofJson_toJson_iff.2 hs.read_get

theorem valid_of_ofJson {v : Json} (h : ofJson v = .ok s) : s.Valid := by
  cases v with
  | obj members => exact valid_of_ofMembers h
  | _ => contradiction

/-- A check would let the values through and leave them as they are. -/
def Values.Pass (v : Values) : Prop := ∃ s : Settings, ofJson v.toJson = .ok s ∧ s.values = v

theorem Values.pass_iff {v : Values} : v.Pass ↔ ∃ s : Settings, s.Valid ∧ s.values = v := by
  constructor
  · rintro ⟨s, hs, rfl⟩
    exact ⟨s, valid_of_ofJson hs, rfl⟩
  · rintro ⟨s, hs, rfl⟩
    exact ⟨s, hs.ofJson_toJson, rfl⟩

end Settings

end Grounding
