import Grounding.Proofs.Conversation.CopyRoom
import Grounding.Proofs.Gateway.Preparation

/-!
# What the other messages change

The last message of the user decides alone what preparing asks and what it puts in front.  Two runs that
share this message take the same decision, send the same request and come back with the same retrieval and
the same new message, whatever stands around it.  The other messages have one way to be noticed: where there
is no room left to copy them, a run fails after it has asked.
-/

namespace Grounding

namespace Conversation

/-- What stands before and after a message. -/
structure Surroundings where
  before : List Json
  after : List Json

def Surroundings.around (s : Surroundings) (message : Json) : Json :=
  .arr (s.before ++ message :: s.after)

end Conversation

namespace Gateway

open Conversation

/-- Preparing a message asks for the same in both surroundings. -/
structure AsksAlike (g : Gateway) (params : Json) (session : String) (today : Date)
    (service : Service) (message : Json) (one two : Surroundings) : Prop where
  gate (options : Options) :
    shouldAugment (one.around message) options = shouldAugment (two.around message) options
  requests :
    (g.prepareLoose (one.around message) params (.str session) today service).requests =
      (g.prepareLoose (two.around message) params (.str session) today service).requests

/-- Preparing a message also comes to the same in both surroundings, with the same retrieval and the
same message in the old one's place. -/
structure PreparesAlike (g : Gateway) (params : Json) (session : String) (today : Date)
    (service : Service) (message : Json) (one two : Surroundings) : Prop
    extends AsksAlike g params session today service message one two where
  result : ∃ new retrieval,
    (g.prepareLoose (one.around message) params (.str session) today service).result =
      .ok ⟨one.around new, retrieval⟩ ∧
    (g.prepareLoose (two.around message) params (.str session) today service).result =
      .ok ⟨two.around new, retrieval⟩

section TwoRuns

variable {params message : Json} {options : Options} {one two : Surroundings}

/-- Where only the surroundings differ, the gate and the query are the same, and so is the question. -/
theorem asksAlike_of_isLastUser (hoptions : AreOptions params options)
    (hone : IsLastUser message one.after) (htwo : IsLastUser message two.after) (g : Gateway)
    (session : String) (today : Date) (service : Service) :
    AsksAlike g params session today service message one two := by
  have hgate (options : Options) :
      shouldAugment (one.around message) options = shouldAugment (two.around message) options :=
    shouldAugment_congr (hone.hasUserMessage.trans htwo.hasUserMessage.symm) options
  have hquery : lastQuery (one.around message) = lastQuery (two.around message) :=
    hone.lastQuery.trans htwo.lastQuery.symm
  refine ⟨hgate, ?_⟩
  cases hclosed : (shouldAugment (two.around message) options).value with
  | false =>
      rw [prepareLoose_of_unaugmented hoptions hclosed,
        prepareLoose_of_unaugmented hoptions (by rw [hgate, hclosed])]
      rfl
  | true =>
      rw [prepareLoose_of_augmented hoptions hclosed,
        prepareLoose_of_augmented hoptions (by rw [hgate, hclosed]), hquery]

/-- A message that is let through and can be copied gets its text in front, wherever it stands. -/
theorem prepareLoose_around {s : Surroundings} (hoptions : AreOptions params options)
    (hlast : IsLastUser message s.after)
    (hgate : (shouldAugment (s.around message) options).value = true)
    (g : Gateway) (session : String) (today : Date) (service : Service)
    (hshallow : service.room.isTooDeep (s.around message) = false) :
    let found := (g.augment (contentText (message.get? "content")) session service).result
    (g.prepareLoose (s.around message) params (.str session) today service).result =
      .ok ⟨s.around (prefaceMessage (preface (contextOf found) today) message), some found⟩ := by
  have hquery : lastQuery (s.around message) = contentText (message.get? "content") :=
    hlast.lastQuery
  have hinject (context : String) : inject (s.around message) context today =
      s.around (prefaceMessage (preface context today) message) := hlast.inject context today
  rw [prepareLoose_of_augmented hoptions hgate, hquery]
  simp [hshallow, hinject]

theorem preparesAlike_of_shallow (hoptions : AreOptions params options)
    (hone : IsLastUser message one.after) (htwo : IsLastUser message two.after) {g : Gateway}
    {session : String} {today : Date} {service : Service}
    (hshallow : (shouldAugment (one.around message) options).value = true →
      service.room.isTooDeep (one.around message) = false ∧
        service.room.isTooDeep (two.around message) = false) :
    PreparesAlike g params session today service message one two := by
  have hasks : AsksAlike g params session today service message one two :=
    asksAlike_of_isLastUser hoptions hone htwo g session today service
  have hgate := hasks.gate options
  refine ⟨hasks, ?_⟩
  cases hopen : (shouldAugment (one.around message) options).value with
  | false =>
      refine ⟨message, none, ?_, ?_⟩
      · rw [prepareLoose_of_unaugmented hoptions hopen]
        rfl
      · rw [prepareLoose_of_unaugmented hoptions (by rw [← hgate, hopen])]
        rfl
  | true =>
      obtain ⟨hone', htwo'⟩ := hshallow hopen
      exact ⟨_, _, prepareLoose_around hoptions hone hopen g session today service hone',
        prepareLoose_around hoptions htwo (by rw [← hgate, hopen]) g session today service htwo'⟩

/-- Only the last message of the user counts.  Two lists of messages that share it are asked about alike,
and preparing them comes to the same unless one of them has to be copied and there is no room for that. -/
theorem preparesAlike_iff_of_isLastUser (hoptions : AreOptions params options)
    (hone : IsLastUser message one.after) (htwo : IsLastUser message two.after) (g : Gateway)
    (session : String) (today : Date) (service : Service) :
    AsksAlike g params session today service message one two ∧
      (PreparesAlike g params session today service message one two ↔
        ((shouldAugment (one.around message) options).value = true →
          service.room.isTooDeep (one.around message) = false ∧
            service.room.isTooDeep (two.around message) = false)) := by
  refine ⟨asksAlike_of_isLastUser hoptions hone htwo g session today service, ?_,
    preparesAlike_of_shallow hoptions hone htwo⟩
  intro halike hopen
  obtain ⟨new, retrieval, hone', htwo'⟩ := halike.result
  have hopen' : (shouldAugment (two.around message) options).value = true := by
    rw [← halike.gate options, hopen]
  exact ⟨isTooDeep_eq_false_of_ok hoptions hopen hone',
    isTooDeep_eq_false_of_ok hoptions hopen' htwo'⟩

end TwoRuns

/-- A message with nothing around it. -/
def alone : Surroundings := ⟨[], []⟩

/-- A message after one of the system and before one of the assistant. -/
def amidst : Surroundings :=
  ⟨[.obj [("role", .str "system"), ("content", .str "be brief")]],
    [.obj [("role", .str "assistant"), ("content", .str "twenty days")]]⟩

theorem preparesAlike_iff_of_isLastUser_amidst :
    AreOptions .null [] ∧ IsLastUser leaveMessage alone.after ∧
      IsLastUser leaveMessage amidst.after ∧
      PreparesAlike linked .null "" ⟨2026, 3, 7⟩ (.always .lost) leaveMessage alone amidst := by
  have halone : IsLastUser leaveMessage alone.after := ⟨by decide, by decide⟩
  have hamidst : IsLastUser leaveMessage amidst.after := ⟨by decide, by decide⟩
  refine ⟨.none, halone, hamidst, ?_⟩
  exact (preparesAlike_iff_of_isLastUser .none halone hamidst linked "" ⟨2026, 3, 7⟩
    (.always .lost)).2.2 fun _ => ⟨by decide, by decide⟩

/-- The assistant can keep a question from being prepared at all. -/
theorem not_preparesAlike_tangled :
    Reachable .usual linked ∧ IsLastUser leaveMessage alone.after ∧
      ¬ PreparesAlike linked .null "" ⟨2026, 3, 7⟩ (.always .lost) leaveMessage alone
        ⟨[tangled Room.usual.copies], []⟩ := by
  have halone : IsLastUser leaveMessage alone.after := ⟨by decide, by decide⟩
  refine ⟨reachable_linked, halone, ?_⟩
  intro halike
  obtain ⟨new, retrieval, -, hresult⟩ := halike.result
  have hgate : (shouldAugment (Surroundings.around ⟨[tangled Room.usual.copies], []⟩ leaveMessage)
      []).value = true := halone.hasUserMessage
  have hdeep : Room.usual.isTooDeep
      (Surroundings.around ⟨[tangled Room.usual.copies], []⟩ leaveMessage) = true :=
    isTooDeep_of_mem List.mem_cons_self (le_calls_tangled _ _)
  have hshallow := isTooDeep_eq_false_of_ok .none hgate hresult
  exact Bool.false_ne_true (hshallow.symm.trans hdeep)

end Gateway

end Grounding
