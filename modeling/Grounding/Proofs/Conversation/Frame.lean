import Grounding.Conversation.Kept
import Grounding.Proofs.Conversation.CopyRoom
import Mathlib.Data.List.Nodup

/-!
# What an injection leaves alone

Copies stand behind everything that was in memory before, so changing one of them changes no message that
the caller keeps.  Among the copies one alone changes, the last of the user, and of that its content.  Only
messages that nest too deep to be copied get no text in front of them.
-/

namespace Grounding.Conversation

/-- Injecting by what the context stands for. -/
theorem injectLoose_eq (room : Room) (messages context : Json) (today : Date) :
    injectLoose room messages context today =
      if room.isTooDeep messages then .error .tooDeep
      else
        match contextText? context with
        | some text => .ok (inject messages text today)
        | none =>
          if hasUserMessage messages then .error (.notText context.kind) else .ok messages := by
  unfold injectLoose contextText?
  by_cases hdeep : room.isTooDeep messages = true
  · rw [if_pos hdeep, if_pos hdeep]
  · rw [if_neg hdeep, if_neg hdeep]
    cases context with
    | str text => rfl
    | _ =>
        dsimp only
        split_ifs <;> rfl

/-! ## Copies in memory -/

namespace Memory

variable {m : Memory} {places : Places}

theorem list_congr {after : Memory} (h : ∀ place ∈ places.toList, after.read place = m.read place) :
    after.list places = m.list places :=
  congrArg Json.arr (List.map_congr_left h)

/-- The copies hold what was copied. -/
theorem list_copy (m : Memory) (places : Places) :
    (m.copy places).2.list (m.copy places).1 = m.list places := by
  refine congrArg Json.arr (List.ext_getElem ?_ ?_)
  · simp [copy, Places.range]
  · intro i _ hi
    have hbehind : m.objects.length ≤ m.size + 1 * i := by
      rw [size]
      omega
    have hoffset : m.size + 1 * i - m.objects.length = i := by
      rw [size]
      omega
    simp only [copy, Places.range, List.getElem_map, List.getElem_range']
    rw [read, List.getElem?_append_right hbehind, hoffset, List.getElem?_eq_getElem hi,
      Option.getD_some, List.getElem_map]

theorem le_of_mem_copy {place : Nat} (h : place ∈ (m.copy places).1.toList) : m.size ≤ place :=
  (List.mem_range'_1.1 h).1

theorem lt_of_mem_copy {place : Nat} (h : place ∈ (m.copy places).1.toList) :
    place < (m.copy places).2.size := by
  have hlt := (List.mem_range'_1.1 h).2
  have hsize : (m.copy places).2.size = m.size + places.toList.length := by simp [copy, size]
  rwa [hsize]

/-! ## The change in place -/

section InPlace

variable {order : List Nat}

theorem read_prefaceFirst_of_not_mem {place : Nat} (h : place ∉ order) (lead : String) :
    (m.prefaceFirst lead order).read place = m.read place := by
  induction order with
  | nil => rfl
  | cons first rest ih =>
      obtain ⟨hfirst, hrest⟩ := List.ne_and_not_mem_of_not_mem_cons h
      unfold prefaceFirst
      split_ifs
      · exact read_write_of_ne (Ne.symm hfirst) _ _
      · exact ih hrest

/-- Objects at places of their own change as the elements of a list do. -/
theorem map_read_prefaceFirst (hnodup : order.Nodup) (hplaces : ∀ place ∈ order, place < m.size)
    (lead : String) :
    order.map (m.prefaceFirst lead order).read =
      changeFirst isUserMessage (prefaceMessage lead) (order.map m.read) := by
  induction order with
  | nil => rfl
  | cons first rest ih =>
      obtain ⟨hfirst, hrest⟩ := List.nodup_cons.1 hnodup
      rw [List.map_cons, List.map_cons, changeFirst, prefaceFirst]
      split_ifs with huser
      · have hkept : ∀ place ∈ rest, (m.write first (prefaceMessage lead (m.read first))).read place =
            m.read place := by
          intro place hplace
          apply read_write_of_ne
          rintro rfl
          exact hfirst hplace
        rw [read_write_self (hplaces first List.mem_cons_self), List.map_congr_left hkept]
      · rw [read_prefaceFirst_of_not_mem hfirst,
          ih hrest fun place hplace => hplaces place (List.mem_cons_of_mem first hplace)]

end InPlace

/-- Going through the copies from the back, the last message of the user is met first. -/
theorem list_prefaceLast (hplaces : ∀ place ∈ places.toList, place < m.size) (lead : String) :
    (m.prefaceFirst lead places.toList.reverse).list places =
      .arr (changeLast isUserMessage (prefaceMessage lead) (places.toList.map m.read)) := by
  have hreverse := map_read_prefaceFirst (m := m) (List.nodup_reverse.2 places.nodup)
    (fun place hplace => hplaces place (List.mem_reverse.1 hplace)) lead
  rw [List.map_reverse, List.map_reverse] at hreverse
  rw [list, changeLast, ← hreverse, List.reverse_reverse]

/-! ## Injecting into copies -/

/-- What injecting into copies can come to. -/
theorem inject_cases (room : Room) (m : Memory) (places : Places) (context : Json) (today : Date) :
    (room.isTooDeep (m.list places) = true ∧
      inject room m places context today = (.error .tooDeep, m)) ∨
    (room.isTooDeep (m.list places) = false ∧
      ((∃ text, contextText? context = some text ∧ inject room m places context today =
        (.ok (m.copy places).1,
          (m.copy places).2.prefaceFirst (preface text today) (m.copy places).1.toList.reverse)) ∨
      (contextText? context = none ∧ hasUserMessage (m.list places) = true ∧
        inject room m places context today = (.error (.notText context.kind), (m.copy places).2)) ∨
      (contextText? context = none ∧ hasUserMessage (m.list places) = false ∧
        inject room m places context today = (.ok (m.copy places).1, (m.copy places).2)))) := by
  unfold inject
  cases hdeep : room.isTooDeep (m.list places) with
  | true => exact .inl ⟨rfl, rfl⟩
  | false =>
      refine .inr ⟨rfl, ?_⟩
      cases contextText? context with
      | some text => exact .inl ⟨text, rfl, rfl⟩
      | none =>
          cases hasUserMessage (m.list places) with
          | true => exact .inr (.inl ⟨rfl, rfl, rfl⟩)
          | false => exact .inr (.inr ⟨rfl, rfl, rfl⟩)

/-- What the copies are afterwards is what injecting into the values comes to. -/
theorem inject_result (room : Room) (m : Memory) (places : Places) (context : Json) (today : Date) :
    (inject room m places context today).1.map (inject room m places context today).2.list =
      injectLoose room (m.list places) context today := by
  have hcopies := list_copy m places
  have hprefaced (text : String) :
      ((m.copy places).2.prefaceFirst (preface text today) (m.copy places).1.toList.reverse).list
        (m.copy places).1 = Conversation.inject (m.list places) text today := by
    rw [list_prefaceLast fun _ => lt_of_mem_copy, Json.arr.inj hcopies]
    rfl
  rw [injectLoose_eq]
  rcases inject_cases room m places context today with
    ⟨hdeep, hinject⟩ | ⟨hdeep, ⟨text, hcontext, hinject⟩ | ⟨hcontext, huser, hinject⟩ |
      ⟨hcontext, huser, hinject⟩⟩
  · rw [hinject, hdeep]
    rfl
  · rw [hinject, hdeep, hcontext]
    exact congrArg Except.ok (hprefaced text)
  · rw [hinject, hdeep, hcontext, huser]
    rfl
  · rw [hinject, hdeep, hcontext, huser]
    exact congrArg Except.ok hcopies

/-- Nothing changes that was in memory before. -/
theorem read_inject_of_lt {place : Nat} (h : place < m.size) (room : Room) (places : Places)
    (context : Json) (today : Date) :
    (inject room m places context today).2.read place = m.read place := by
  have hfresh : place ∉ (m.copy places).1.toList.reverse := by
    intro hplace
    exact absurd h (Nat.not_lt.2 (le_of_mem_copy (List.mem_reverse.1 hplace)))
  have hcopied : (m.copy places).2.read place = m.read place := read_copy_of_lt h places
  rcases inject_cases room m places context today with
    ⟨-, hinject⟩ | ⟨-, ⟨text, -, hinject⟩ | ⟨-, -, hinject⟩ | ⟨-, -, hinject⟩⟩
  · rw [hinject]
  · rw [hinject]
    exact (read_prefaceFirst_of_not_mem hfresh _).trans hcopied
  · rw [hinject]
    exact hcopied
  · rw [hinject]
    exact hcopied

end Memory

/-- A caller gets what injecting into the values comes to, and keeps the messages that it had. -/
theorem injectKept_eq (room : Room) (messages context : Json) (today : Date) :
    injectKept room messages context today =
      ⟨injectLoose room messages context today, messages⟩ := by
  cases messages with
  | arr items =>
      have hplaces : ∀ place ∈ (Places.range 0 items.length).toList, place < (Memory.mk items).size := by
        intro place hplace
        have hlt := (List.mem_range'_1.1 hplace).2
        rwa [Nat.zero_add] at hlt
      have hlist : (Memory.mk items).list (.range 0 items.length) = .arr items := by
        refine congrArg Json.arr (List.ext_getElem (by simp [Places.range]) ?_)
        intro i _ hi
        simp [Memory.read, Places.range, hi]
      have hresult := Memory.inject_result room ⟨items⟩ (.range 0 items.length) context today
      have hkept := Memory.list_congr fun place hplace =>
        Memory.read_inject_of_lt (hplaces place hplace) room (.range 0 items.length) context today
      rw [hlist] at hresult hkept
      rw [injectKept]
      dsimp only
      rw [hresult, hkept]
  | _ =>
      rw [injectLoose_eq]
      cases contextText? context <;> rfl

/-! ## The frame -/

/-- A caller keeps its messages as they were, and gets back the same messages, with the context or a note of
the date in front of the user's last one if there is one. -/
structure Frames (room : Room) (messages : Json) (context : String) (today : Date) : Prop where
  kept : (injectKept room messages (.str context) today).kept = messages
  result : ∃ new, (injectKept room messages (.str context) today).result = .ok new ∧
    LeadsMessages (preface context today) messages new

section Depth

variable {room : Room} {messages : Json} {context : String} {today : Date}

theorem injectKept_of_shallow (h : room.isTooDeep messages = false) (context : String)
    (today : Date) :
    (injectKept room messages (.str context) today).result =
      .ok (inject messages context today) := by
  rw [injectKept_eq, injectLoose_eq, h]
  rfl

theorem injectKept_of_tooDeep (h : room.isTooDeep messages = true) (context : Json) (today : Date) :
    (injectKept room messages context today).result = .error .tooDeep := by
  rw [injectKept_eq, injectLoose_eq, h]
  rfl

theorem isTooDeep_of_injectKept {context new : Json}
    (h : (injectKept room messages context today).result = .ok new) :
    room.isTooDeep messages = false := by
  cases hdeep : room.isTooDeep messages with
  | false => rfl
  | true =>
      rw [injectKept_of_tooDeep hdeep] at h
      contradiction

theorem frames_iff : Frames room messages context today ↔ room.isTooDeep messages = false := by
  constructor
  · intro h
    obtain ⟨new, hnew, -⟩ := h.result
    exact isTooDeep_of_injectKept hnew
  · intro hshallow
    refine ⟨?_, inject messages context today, injectKept_of_shallow hshallow context today,
      leadsMessages_inject messages context today⟩
    rw [injectKept_eq]

end Depth

/-- What a caller holds is never changed.  What it gets back is the same messages but for a text in front of
the last one of the user, unless there is no room left to copy them. -/
theorem injection_frame (room : Room) (messages : Json) (context : String) (today : Date) :
    (injectKept room messages (.str context) today).kept = messages ∧
    (Frames room messages context today ↔ room.isTooDeep messages = false) ∧
    ((injectKept room messages (.str context) today).result = .error .tooDeep ↔
      room.isTooDeep messages = true) := by
  refine ⟨by rw [injectKept_eq], frames_iff, ?_, fun hdeep => injectKept_of_tooDeep hdeep _ today⟩
  intro hfault
  by_contra hshallow
  rw [injectKept_of_shallow (eq_false_of_ne_true hshallow)] at hfault
  contradiction

/-- The message of the user after one of the assistant that nests too deep. -/
def tangledMessages : Json := .arr [tangled Room.usual.copies, leaveMessage]

theorem isTooDeep_tangledMessages : Room.usual.isTooDeep tangledMessages = true :=
  isTooDeep_of_mem List.mem_cons_self (le_calls_tangled _ _)

theorem not_frames_tangled : ¬ Frames .usual tangledMessages "c" ⟨2026, 3, 7⟩ := by
  simp [frames_iff, isTooDeep_tangledMessages]

end Grounding.Conversation
