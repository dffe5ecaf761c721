import Grounding.Proofs.Json.ShortIntegers
import Grounding.Proofs.Settings.Checked
import Grounding.Settings.Values

/-!
# Settings that can be written

A number in settings that pass their check is as short as it was in the body that brought them, however it was
written there.  So the host, as the only text, decides whether they can be sent.
-/

namespace Grounding

namespace Input

/-- No more digits are read into an integer than are ever written. -/
theorem natAbs_lt_of_strictInteger {s : List Char} {n : Int} (h : strictInteger s = .ok n) :
    n.natAbs < Nat.pow 10 numeralDigitLimit := by
  unfold strictInteger at h
  generalize hlimit : numeralDigitLimit = limit at h
  split at h
  next negative body _ =>
  dsimp only at h
  split_ifs at h with _ _ hlong
  · obtain rfl := Except.ok.inj h
    exact Nat.pow_pos (by decide)
  · obtain rfl := Except.ok.inj h
    rw [Numeral.natAbs_signed]
    exact Nat.lt_of_lt_of_le (Numeral.ofDigits_ascii_lt _)
      (Nat.pow_le_pow_right (by decide) (Nat.le_of_not_lt hlong))

theorem natAbs_lt_of_spelledInteger {text : String} {n : Int} (h : spelledInteger text = .ok n) :
    n.natAbs < Nat.pow 10 numeralDigitLimit := by
  unfold spelledInteger at h
  split at h
  · next hread =>
    obtain rfl := Except.ok.inj h
    exact natAbs_lt_of_strictInteger hread
  · contradiction
  · split at h
    · next hread =>
      obtain rfl := Except.ok.inj h
      obtain ⟨s, -, hs⟩ := Option.map_eq_some_iff.1 hread
      exact natAbs_lt_of_strictInteger hs
    · contradiction

theorem natAbs_lt_of_readInteger {v : Json} {n : Int} (hv : v.HasShortIntegers)
    (h : readInteger v = .ok n) : n.natAbs < Nat.pow 10 numeralDigitLimit := by
  cases v with
  | int m =>
      obtain rfl := Except.ok.inj h
      exact hv
  | bool b =>
      obtain rfl := Except.ok.inj h
      apply natAbs_lt_of_five_digits
      cases b <;> decide
  | real x =>
      unfold readInteger at h
      dsimp only at h
      split_ifs at h
      split at h
      · contradiction
      · split_ifs at h with hword
        obtain rfl := Except.ok.inj h
        have hbound : Nat.pow 2 63 ≤ Nat.pow 10 19 := by decide
        unfold wordBound at hword
        exact natAbs_lt_of_few_digits (show 19 ≤ numeralDigitLimit by decide) (by omega)
  | str s =>
      unfold readInteger at h
      dsimp only at h
      split_ifs at h
      exact natAbs_lt_of_spelledInteger h
  | _ => contradiction

theorem natAbs_lt_of_readCount {v : Json} {n : Int} (hv : v.HasShortIntegers)
    (h : readCount v = .ok n) : n.natAbs < Nat.pow 10 numeralDigitLimit := by
  unfold readCount at h
  split at h
  · contradiction
  · next m hm =>
    split_ifs at h
    obtain rfl := Except.ok.inj h
    exact natAbs_lt_of_readInteger hv hm

end Input

namespace Settings

variable {s : Settings} {members : List (String × Json)}

/-- Settings that pass their check show finite numbers. -/
theorem Valid.isFinite_toJson (hs : s.Valid) : s.values.toJson.IsFinite := by
  simp [Settings.values, Values.toJson, hs.isFinite_threshold]

/-- The host is the only text of settings. -/
theorem isWhole_toJson_iff (s : Settings) :
    s.values.toJson.isWhole = true ↔ Text.isWhole s.host = true := by
  have hnames : (["host", "port", "max_results", "similarity_threshold", "include_tools", "timeout_ms",
      "enabled"].all Text.isWhole) = true := by decide +kernel
  simp only [List.all_cons, Bool.and_eq_true] at hnames
  simp [Settings.values, Values.toJson, hnames]

/-- Settings from a body show no longer integers than the body did. -/
theorem shortIntegers_of_ofMembers (h : ofMembers members = .ok s)
    (hmembers : (Json.obj members).HasShortIntegers) : s.values.toJson.HasShortIntegers := by
  have hport : Json.ShortInteger (.int s.port) := (valid_of_ofMembers h).natAbs_port_lt
  obtain ⟨-, -, hresults, -, -, htimeout, -⟩ := ofMembers_eq_ok_iff.1 h
  have hcount (name : String) (v : Json) (n : Int) (hv : Json.lookup name members = some v)
      (hread : Input.readCount v = .ok n) : Json.ShortInteger (.int n) :=
    Input.natAbs_lt_of_readCount (hmembers.lookup hv) hread
  have hnumber := Input.of_field (P := fun n => Json.ShortInteger (.int n)) hresults
    (natAbs_lt_of_five_digits (by decide)) (hcount _)
  have hmillis := Input.of_field (P := fun n => Json.ShortInteger (.int n)) htimeout
    (natAbs_lt_of_five_digits (by decide)) (hcount _)
  simp [Settings.values, Values.toJson, hport, hnumber, hmillis]

end Settings

end Grounding
