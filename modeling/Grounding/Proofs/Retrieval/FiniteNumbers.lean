import Grounding.Proofs.Gateway.Answers
import Grounding.Proofs.Number.Nearest

/-!
# Numbers that the service sends

A JSON text may hold numbers that are not finite and integers of any size, and a flag counts as a number
to some.  A number field of a reply is a finite double whatever stands there: the number itself if it is
finite, the nearest double to an integer in range, and zero in place of everything else.
-/

namespace Grounding

/-! ## One field -/

/-- The field holds a number that a finite double can stand for; a flag is no number. -/
def HoldsNumber : Option Json → Prop
  | some (.int n) => n.natAbs < Binary64.overflowBound
  | some (.real x) => x.isFinite = true
  | _ => False

/-- What a number field is read as. -/
inductive ReadsNumber : Option Json → Binary64 → Prop
  | real {x : Binary64} (h : x.isFinite = true) : ReadsNumber (some (.real x)) x
  | int {n : Int} {x : Binary64} (hn : n.natAbs < Binary64.overflowBound) (h : x.IsNearest n) :
      ReadsNumber (some (.int n)) x
  | default {field : Option Json} (h : ¬ HoldsNumber field) : ReadsNumber field .zero

theorem Binary64.IsNearest.isFinite {x : Binary64} {n : Int} (h : x.IsNearest n) :
    x.isFinite = true := by
  obtain ⟨u, hu, -⟩ := h
  cases x with
  | finite negative rank => rfl
  | infinite negative => contradiction
  | nan => contradiction

theorem ReadsNumber.isFinite {field : Option Json} {x : Binary64} (h : ReadsNumber field x) :
    x.isFinite = true := by
  cases h with
  | real h => exact h
  | int _ h => exact h.isFinite
  | default _ => decide +kernel

theorem ReadsNumber.eq_zero {field : Option Json} {x : Binary64} (h : ReadsNumber field x)
    (hfield : ¬ HoldsNumber field) : x = .zero := by
  cases h with
  | real hfinite => exact absurd hfinite hfield
  | int hn _ => exact absurd hn hfield
  | default _ => rfl

theorem readsNumber_lenientNumber (members : List (String × Json)) (name : String) :
    ReadsNumber (Json.lookup name members) (lenientNumber members name) := by
  unfold lenientNumber
  cases Json.lookup name members with
  | none => exact .default id
  | some v =>
      cases v with
      | int n =>
          simp only [Option.bind_some, numberOf?]
          split_ifs with hfinite
          · have hn := (Binary64.isFinite_ofInt n).1 hfinite
            exact .int hn (Binary64.isNearest_ofInt hn)
          · exact .default fun hn => hfinite ((Binary64.isFinite_ofInt n).2 hn)
      | real x =>
          simp only [Option.bind_some, numberOf?]
          split_ifs with hfinite
          · exact .real hfinite
          · exact .default hfinite
      | _ => exact .default id

/-! ## Passages and findings -/

theorem Passage.readsNumber_of_ofReply? {item : Json} {p : Passage} (h : ofReply? item = some p) :
    ReadsNumber (item.get? "similarity") p.similarity := by
  cases item with
  | obj members =>
      obtain rfl := Option.some.inj h
      exact readsNumber_lenientNumber members "similarity"
  | _ => contradiction

/-- Every passage that was found is the reading of an entry that was sent. -/
theorem Findings.exists_item_of_mem {members : List (String × Json)} {p : Passage}
    (hp : p ∈ (ofMembers members).value.passages) :
    ∃ items item, Json.lookup "chunks" members = some (.arr items) ∧ item ∈ items ∧
      Passage.ofReply? item = some p := by
  change p ∈ (readPassages members).value at hp
  unfold readPassages Json.getD at hp
  cases hsent : Json.lookup "chunks" members with
  | none => simp [hsent] at hp
  | some v =>
      rw [hsent, Option.getD_some] at hp
      cases v with
      | arr items =>
          obtain ⟨item, hitem, hread⟩ := List.mem_filterMap.1 hp
          exact ⟨items, item, rfl, hitem, hread⟩
      | _ => simp at hp

/-- The numbers of what was found. -/
structure Findings.HasFiniteNumbers (found : Findings) : Prop where
  serviceLatency : found.serviceLatency.isFinite = true
  similarity : ∀ p ∈ found.passages, p.similarity.isFinite = true

theorem Findings.hasFiniteNumbers_ofMembers (members : List (String × Json)) :
    (ofMembers members).value.HasFiniteNumbers where
  serviceLatency := (readsNumber_lenientNumber members "latency_ms").isFinite
  similarity := by
    intro p hp
    obtain ⟨items, item, -, -, hread⟩ := exists_item_of_mem hp
    exact (Passage.readsNumber_of_ofReply? hread).isFinite

/-! ## Answers -/

theorem Findings.ofJson_eq_ok {v : Json} {found : Noted Findings} (h : ofJson v = .ok found) :
    ∃ members, v = .obj members ∧ found = ofMembers members := by
  cases v with
  | obj members => exact ⟨members, rfl, (Except.ok.inj h).symm⟩
  | _ => contradiction

/-- Findings in an answer are the reading of an object. -/
theorem Answer.exists_members_of_findings {limits : Json.Limits} {answer : Answer} {found : Findings}
    (h : (answer.findings limits).value = .ok found) :
    ∃ members, found = (Findings.ofMembers members).value := by
  cases answer with
  | lost => contradiction
  | broken detail => contradiction
  | arrived status body =>
      unfold findings at h
      dsimp only at h
      split_ifs at h
      split at h
      · contradiction
      · contradiction
      · contradiction
      · split at h
        · contradiction
        · next hshape =>
          obtain ⟨members, -, rfl⟩ := Findings.ofJson_eq_ok hshape
          exact ⟨members, (Except.ok.inj h).symm⟩

namespace Gateway

variable {g : Gateway} {service : Service} {found : Findings}

theorem hasFiniteNumbers_of_ask {body : Json}
    (h : (g.ask body service).result.outcome = .ok found) : found.HasFiniteNumbers := by
  rcases ask_cases g body service with ⟨-, -, -, hout⟩ | ⟨-, -, -, detail, hout⟩ | ⟨-, -, -, hout⟩
  · rw [hout] at h
    contradiction
  · rw [hout] at h
    contradiction
  · rw [hout] at h
    obtain ⟨members, rfl⟩ := Answer.exists_members_of_findings h
    exact Findings.hasFiniteNumbers_ofMembers members

theorem hasFiniteNumbers_of_augmentFor {session : Json} {query : String}
    (h : (g.augmentFor session query service).result.outcome = .ok found) :
    found.HasFiniteNumbers := by
  rcases augmentFor_cases g session query service with ⟨-, hout⟩ | ⟨-, -, hout⟩ | ⟨-, -, hout⟩
  · rw [hout] at h
    contradiction
  · rw [hout] at h
    contradiction
  · rw [hout] at h
    exact hasFiniteNumbers_of_ask h

/-- A number field gives what stands there if a finite double can stand for it, and zero otherwise: in a
passage, in a whole reply entry by entry, and so in everything that asking ever finds. -/
theorem received_numbers_finite :
    (∀ item p, Passage.ofReply? item = some p →
      ReadsNumber (item.get? "similarity") p.similarity ∧ p.similarity.isFinite = true) ∧
    (∀ v found, Findings.ofJson v = .ok found →
      ReadsNumber (v.get? "latency_ms") found.value.serviceLatency ∧
      found.value.serviceLatency.isFinite = true ∧
      ∀ p ∈ found.value.passages, p.similarity.isFinite = true ∧
        ∃ items item, v.get? "chunks" = some (.arr items) ∧ item ∈ items ∧
          Passage.ofReply? item = some p ∧ ReadsNumber (item.get? "similarity") p.similarity) ∧
    ∀ (g : Gateway) (session : Json) (query : String) (service : Service) (found : Findings),
      (g.augmentFor session query service).result.outcome = .ok found → found.HasFiniteNumbers := by
  refine ⟨?_, ?_, fun g session query service found => hasFiniteNumbers_of_augmentFor⟩
  · intro item p hread
    have hnumber := Passage.readsNumber_of_ofReply? hread
    exact ⟨hnumber, hnumber.isFinite⟩
  · intro v found hfound
    obtain ⟨members, rfl, rfl⟩ := Findings.ofJson_eq_ok hfound
    have hlatency := readsNumber_lenientNumber members "latency_ms"
    refine ⟨hlatency, hlatency.isFinite, ?_⟩
    intro p hp
    obtain ⟨items, item, hsent, hitem, hread⟩ := Findings.exists_item_of_mem hp
    have hnumber := Passage.readsNumber_of_ofReply? hread
    exact ⟨hnumber.isFinite, items, item, hsent, hitem, hread, hnumber⟩

/-- A reply with an integer between two doubles, a flag, an integer out of range and a NaN. -/
def mixedReply : Json :=
  .obj [("chunks", .arr [.obj [("similarity", .int (2 ^ 53 + 1))],
    .obj [("similarity", .bool true)], .obj [("similarity", .int (10 ^ 400))]]),
    ("latency_ms", .real .nan)]

theorem received_numbers_finite_mixed :
    ∃ found, Findings.ofJson mixedReply = .ok found ∧ found.value.passages.length = 3 ∧
      found.value.serviceLatency = .zero ∧
      ∀ p ∈ found.value.passages, p.similarity.isFinite = true := by
  obtain ⟨-, hreply, -⟩ := received_numbers_finite
  obtain ⟨hlatency, -, hpassages⟩ := hreply mixedReply _ rfl
  have hnan : ¬ HoldsNumber (mixedReply.get? "latency_ms") := Bool.false_ne_true
  exact ⟨_, rfl, rfl, hlatency.eq_zero hnan, fun p hp => (hpassages p hp).1⟩

end Gateway

end Grounding
