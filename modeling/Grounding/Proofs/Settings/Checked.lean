import Grounding.Proofs.Number.DigitRun
import Grounding.Proofs.Number.FiniteRange
import Grounding.Settings.Basic
import Mathlib.Tactic.SplitIfs

/-!
# What a check ensures

Every field has its default or what a value was read as, so what the defaults have in common with
everything that a reader lets through holds of the field.  Settings that pass their check are in range for
that reason.
-/

namespace Grounding

namespace Input

variable {α : Type} {members : List (String × Json)} {name : String} {default a : α}
  {read : Json → Except Defect α}

theorem of_field {P : α → Prop} (h : field members name default read = .ok a) (hdefault : P default)
    (hread : ∀ v b, Json.lookup name members = some v → read v = .ok b → P b) : P a := by
  unfold field at h
  split at h
  · obtain rfl := Except.ok.inj h
    exact hdefault
  · next v hv =>
    split at h
    · next b hb =>
      obtain rfl := Except.ok.inj h
      exact hread v b hv hb
    · contradiction

theorem read_of_field {v : Json} (h : field members name default read = .ok a)
    (hv : Json.lookup name members = some v) : read v = .ok a := by
  unfold field at h
  rw [hv] at h
  dsimp only at h
  split at h
  · next hread => rw [hread, Except.ok.inj h]
  · contradiction

theorem readCount_int_eq {n m : Int} (h : readCount (.int n) = .ok m) : m = n := by
  simp only [readCount, readInteger] at h
  split_ifs at h
  exact (Except.ok.inj h).symm

theorem one_le_of_readCount {v : Json} {n : Int} (h : readCount v = .ok n) : 1 ≤ n := by
  unfold readCount at h
  split at h
  · contradiction
  · split_ifs at h with hsmall
    obtain rfl := Except.ok.inj h
    omega

end Input

namespace Settings

variable {s : Settings} {members : List (String × Json)}

/-- The defaults pass their own check, whatever the host and the switch. -/
theorem valid_default (host : String) (enabled : Bool) :
    ({ host, enabled } : Settings).Valid := by
  have h : ({} : Settings).Valid := by
    constructor <;> decide +kernel
  exact ⟨h.one_le_port, h.port_le, h.one_le_maxResults, h.threshold_nonneg, h.threshold_le_one,
    h.one_le_timeoutMs⟩

theorem threshold_range_default :
    Binary64.zero.atMost (.ofDecimal false 3 (-1)) = true ∧
      (Binary64.ofDecimal false 3 (-1)).atMost .one = true := by
  decide +kernel

theorem port_range_of_readPort {v : Json} {n : Int} (h : readPort v = .ok n) :
    1 ≤ n ∧ n ≤ largestPort := by
  unfold readPort at h
  split at h
  · contradiction
  · split_ifs at h with hlarge hsmall
    obtain rfl := Except.ok.inj h
    omega

theorem threshold_range_of_readThreshold {v : Json} {x : Binary64} (h : readThreshold v = .ok x) :
    Binary64.zero.atMost x = true ∧ x.atMost .one = true := by
  unfold readThreshold at h
  split at h
  · contradiction
  · split_ifs at h with hone hzero
    obtain rfl := Except.ok.inj h
    exact ⟨by simpa using hzero, by simpa using hone⟩

/-- Settings pass their check field by field. -/
theorem ofMembers_eq_ok_iff :
    ofMembers members = .ok s ↔
      Input.field members "host" "localhost" Input.readText = .ok s.host ∧
      Input.field members "port" 8001 readPort = .ok s.port ∧
      Input.field members "max_results" 5 Input.readCount = .ok s.maxResults ∧
      Input.field members "similarity_threshold" (.ofDecimal false 3 (-1)) readThreshold =
        .ok s.similarityThreshold ∧
      Input.field members "include_tools" false Input.readFlag = .ok s.includeTools ∧
      Input.field members "timeout_ms" 5000 Input.readCount = .ok s.timeoutMs ∧
      Input.field members "enabled" false Input.readFlag = .ok s.enabled := by
  unfold ofMembers
  dsimp only
  constructor
  · intro h
    -- The fields are read one by one, and one fault among them is enough to have no settings.
    split at h
    · next hhost hport hresults hthreshold htools htimeout henabled =>
      obtain rfl := Except.ok.inj h
      exact ⟨hhost, hport, hresults, hthreshold, htools, htimeout, henabled⟩
    · contradiction
  · rintro ⟨hhost, hport, hresults, hthreshold, htools, htimeout, henabled⟩
    rw [hhost, hport, hresults, hthreshold, htools, htimeout, henabled]

/-- Settings that pass their check are in range. -/
theorem valid_of_ofMembers (h : ofMembers members = .ok s) : s.Valid := by
  have hdefault := valid_default "localhost" false
  obtain ⟨-, hport, hresults, hthreshold, -, htimeout, -⟩ := ofMembers_eq_ok_iff.1 h
  obtain ⟨hlow, hhigh⟩ := Input.of_field (P := fun n => 1 ≤ n ∧ n ≤ largestPort) hport
    ⟨hdefault.one_le_port, hdefault.port_le⟩ fun _ _ _ => port_range_of_readPort
  have hcount := Input.of_field (P := fun n => 1 ≤ n) hresults hdefault.one_le_maxResults
    fun _ _ _ => Input.one_le_of_readCount
  obtain ⟨hnonneg, hone⟩ := Input.of_field
    (P := fun x => Binary64.zero.atMost x = true ∧ x.atMost .one = true) hthreshold
    threshold_range_default fun _ _ _ => threshold_range_of_readThreshold
  have hmillis := Input.of_field (P := fun n => 1 ≤ n) htimeout hdefault.one_le_timeoutMs
    fun _ _ _ => Input.one_le_of_readCount
  exact ⟨hlow, hhigh, hcount, hnonneg, hone, hmillis⟩

/-- A port that passes its check can be written. -/
theorem Valid.natAbs_port_lt (hs : s.Valid) : s.port.natAbs < Nat.pow 10 numeralDigitLimit := by
  have hlow := hs.one_le_port
  have hhigh := hs.port_le
  unfold largestPort at hhigh
  apply natAbs_lt_of_five_digits
  omega

/-- So can a threshold. -/
theorem Valid.isFinite_threshold (hs : s.Valid) : s.similarityThreshold.isFinite = true := by
  have hzero : Binary64.zero.isFinite = true := by decide +kernel
  have hone : Binary64.one.isFinite = true := by decide +kernel
  exact Binary64.isFinite_of_atMost hzero hone hs.threshold_nonneg hs.threshold_le_one

end Settings

end Grounding
