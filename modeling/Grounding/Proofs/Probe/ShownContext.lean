import Grounding.Proofs.Gateway.Answers
import Grounding.Proofs.Gateway.OtherMessages
import Grounding.Proofs.Probe.Launch

/-!
# What a probe shows

A probe shows the context that preparing a conversation would put before its last query: the same block of
passages, or the same words of the service.  Where there is no context it says so, and the conversation gets
the date.
-/

namespace Grounding.Probe

open Conversation (Surroundings IsLastUser LeadsMessage AreOptions Options shouldAugment contentText
  queryMark dateNote leaveMessage tangled)
open Gateway (contextOf)

/-! ## What is printed -/

/-- What a probe says about the service, the passages and the tools before it shows the context. -/
def leadTexts (first : String) (r : Retrieval) (found : Findings) : List String :=
  first :: countText r found :: toolsTexts found.tools

theorem texts_of_ok {g : Gateway} {host : String} {a : Arguments} {service : Service}
    {found : Findings} (hquery : a.query ≠ "")
    (h : (questioned g a service).result.outcome = .ok found) :
    texts g host a service =
      leadTexts (healthText host (g.isHealthy service).result) (questioned g a service).result
        found ++ [shownContext (questioned g a service).result] := by
  rw [texts, if_neg hquery, retrievalTexts, h]
  rfl

theorem texts_of_error {g : Gateway} {host : String} {a : Arguments} {service : Service}
    {refusal : Refusal} (hquery : a.query ≠ "")
    (h : (questioned g a service).result.outcome = .error refusal) :
    texts g host a service =
      [healthText host (g.isHealthy service).result, refusalText refusal] := by
  rw [texts, if_neg hquery, retrievalTexts, h]

theorem contextOf_congr {r other : Retrieval} (h : other.outcome = r.outcome) :
    contextOf other = contextOf r := by
  unfold contextOf
  rw [h]

section Run

variable {platform : Platform} {vars : Variables} {args : List String} {environment : Environment}
  {a : Arguments} {settings : Settings} {service elsewhere : Service}

theorem Launched.output_of_takes (h : Launched platform vars args environment a settings)
    (htakes : platform.Takes
      (texts (gatewayOf platform settings a) (chosenHost settings a) a service)) :
    (run platform environment args service).output =
      lines (texts (gatewayOf platform settings a) (chosenHost settings a) a service) := by
  rw [h.run_eq, examine_eq, platform_gatewayOf]
  exact text_printed htakes

/-! ## What is injected -/

/-- What a run finds is found by whoever asks the same, in any session that can be sent and with room enough
for the answer. -/
theorem Launched.augment_ok (h : Launched platform vars args environment a settings)
    {found : Findings} {session : String} (hquery : a.query ≠ "")
    (hfound : (questioned (gatewayOf platform settings a) a service).result.outcome = .ok found)
    (hanswer : elsewhere.augment.answer = service.augment.answer)
    (hfits : elsewhere.augment.answer.Fits elsewhere.room.answerLimits)
    (hsession : Text.isWhole a.session = true → Text.isWhole session = true) :
    ((gatewayOf platform settings a).augment a.query session elsewhere).result.outcome =
      .ok found := by
  have hon := isEnabled_gatewayOf platform settings a
  have hbody := augmentBody_gatewayOf platform settings a
  rw [questioned, Gateway.augment_eq_ask hon hquery, hbody, Gateway.ask_outcome_eq_ok_iff] at hfound
  obtain ⟨link, request, hlink, hmade, hread⟩ := hfound
  obtain ⟨hsent, url, hurl, -⟩ := Link.augmentRequest_eq_ok_iff.1 hmade
  have hcan := (h.canSend_iff _ _).1 ((Settings.sendFault?_questionBody h.valid _ _).1 hsent)
  have hother : (settings.questionBody a.query session).sendFault? = none :=
    (Settings.sendFault?_questionBody h.valid _ _).2
      ((h.canSend_iff _ _).2 ⟨hcan.1, hsession hcan.2⟩)
  rw [Gateway.augment_eq_ask hon hquery, hbody, Gateway.ask_outcome_eq_ok_iff]
  rw [hanswer] at hfits ⊢
  exact ⟨link, _, hlink, Link.augmentRequest_eq_ok_iff.2 ⟨hother, url, hurl, rfl⟩,
    Answer.findings_of_fits hread hfits⟩

/-- The conversation was prepared, and the text stands before the query of this message. -/
def Injects (s : Surroundings) (message : Json) (text : String)
    (prepared : Except CallFault Gateway.Prepared) : Prop :=
  ∃ new r, prepared = .ok ⟨s.around new, some r⟩ ∧ LeadsMessage (text ++ queryMark) message new

variable {s : Surroundings} {message params : Json} {options : Options} {session : String}

theorem injects_of_augment {g : Gateway} {r : Retrieval}
    (hlast : IsLastUser message s.after) (htext : contentText (message.get? "content") = a.query)
    (hoptions : AreOptions params options)
    (hgate : (shouldAugment (s.around message) options).value = true)
    (hshallow : elsewhere.room.isTooDeep (s.around message) = false)
    (hsame : (g.augment a.query session elsewhere).result.outcome = r.outcome) (today : Date) :
    Injects s message (if contextOf r = "" then dateNote today else contextOf r)
      (g.prepareLoose (s.around message) params (.str session) today elsewhere).result := by
  have hprepared := Gateway.prepareLoose_around hoptions hlast hgate g session today elsewhere
    hshallow
  -- Preparing asks about the text of the message, which is what the run asks about.
  rw [htext] at hprepared
  dsimp only at hprepared
  rw [contextOf_congr hsame] at hprepared
  exact ⟨_, _, hprepared, Conversation.leadsMessage_prefaceMessage _ hlast.isUser⟩

/-- A probe that can print what it has to say shows last what preparing puts before the query, or that there
is nothing where preparing puts the date.  A question that fails is shown with the kind of its failure.  The
answer has to fit whoever reads it, and the conversation into the room there is for its copy. -/
theorem shown_context_injected (h : Launched platform vars args environment a settings)
    (hquery : a.query ≠ "") (hanswer : elsewhere.augment.answer = service.augment.answer)
    (hsession : Text.isWhole a.session = true → Text.isWhole session = true)
    (hlast : IsLastUser message s.after) (htext : contentText (message.get? "content") = a.query)
    (hoptions : AreOptions params options)
    (hgate : (shouldAugment (s.around message) options).value = true) (today : Date) :
    let g := gatewayOf platform settings a
    let host := chosenHost settings a
    let asked := (questioned g a service).result
    let report := run platform environment args service
    let first := healthText host (g.isHealthy service).result
    let shown := platform.Takes (texts g host a service)
    let prepared :=
      (g.prepareLoose (s.around message) params (.str session) today elsewhere).result
    let follows := elsewhere.augment.answer.Fits elsewhere.room.answerLimits ∧
      elsewhere.room.isTooDeep (s.around message) = false
    (∀ found, asked.outcome = .ok found →
      (shown → report.exit = .ok 0) ∧
      (contextOf asked ≠ "" →
        (shown → report.output = lines (leadTexts first asked found) ++ line (contextOf asked)) ∧
        (follows → Injects s message (contextOf asked) prepared)) ∧
      (contextOf asked = "" →
        (shown → report.output = lines (leadTexts first asked found) ++ line "(no context)") ∧
        (follows → Injects s message (dateNote today) prepared))) ∧
    (∀ refusal, asked.outcome = .error refusal → shown →
      report.exit = .ok 1 ∧ report.output = lines [first, refusalText refusal]) := by
  intro g host asked report first shown prepared follows
  have hexit (hshown : shown) : report.exit = .ok (exitCode g a service) := h.exit_of_takes hshown
  have houtput (hshown : shown) : report.output = lines (texts g host a service) :=
    h.output_of_takes hshown
  constructor
  · intro found hfound
    have hlines (hshown : shown) :
        report.output = lines (leadTexts first asked found) ++ line (shownContext asked) := by
      rw [houtput hshown, texts_of_ok hquery hfound, lines_append]
      simp [lines, asked, first, host, g]
    have hinjects (hfollows : follows) : Injects s message
        (if contextOf asked = "" then dateNote today else contextOf asked) prepared := by
      have hsame := h.augment_ok hquery hfound hanswer hfollows.1 hsession
      exact injects_of_augment hlast htext hoptions hgate hfollows.2 (hsame.trans hfound.symm) today
    refine ⟨fun hshown => ?_, fun hcontext => ?_, fun hcontext => ?_⟩
    · rw [hexit hshown, exitCode, if_neg hquery,
        (retrievalExit_eq_zero_iff _).2 (Retrieval.succeeded_of_ok hfound)]
    · rw [shownContext, if_neg hcontext] at hlines
      rw [if_neg hcontext] at hinjects
      exact ⟨hlines, hinjects⟩
    · rw [shownContext, if_pos hcontext] at hlines
      rw [if_pos hcontext] at hinjects
      exact ⟨hlines, hinjects⟩
  · intro refusal hrefusal hshown
    have hone : retrievalExit asked = 1 := by
      rw [retrievalExit, hrefusal]
    rw [hexit hshown, houtput hshown, texts_of_error hquery hrefusal, exitCode, if_neg hquery]
    exact ⟨congrArg Except.ok hone, rfl⟩

end Run

def speaking : Service :=
  .always (.arrived 200 "\x7b\"augmented_context\":\"c\"\x7d".toUTF8.toList)

theorem outcome_speaking :
    (questioned (gatewayOf .usual {} leaving) leaving speaking).result.outcome =
      .ok { context := "c" } := by
  decide +kernel

theorem contextOf_speaking :
    contextOf (questioned (gatewayOf .usual {} leaving) leaving speaking).result = "c" := by
  unfold contextOf
  rw [outcome_speaking]
  rfl

theorem fits_speaking : speaking.augment.answer.Fits speaking.room.answerLimits := by
  rintro status body ⟨⟩ container hdeep
  have hread : (Json.decodeWithin speaking.room.answerLimits
      "\x7b\"augmented_context\":\"c\"\x7d".toUTF8.toList).toBool = true := by
    decide +kernel
  rw [hdeep] at hread
  contradiction

theorem shown_context_injected_leave :
    Launched .usual [] ["leave"] usual leaving {} ∧ leaving.query ≠ "" ∧
      IsLastUser leaveMessage Gateway.amidst.after ∧
      contentText (leaveMessage.get? "content") = leaving.query ∧ AreOptions .null [] ∧
      (∃ before, (run .usual usual ["leave"] speaking).output = before ++ line "c") ∧
      Injects Gateway.amidst leaveMessage "c"
        ((gatewayOf .usual {} leaving).prepareLoose (Gateway.amidst.around leaveMessage) .null
          (.str "s") ⟨2026, 3, 7⟩ speaking).result := by
  have hquery : leaving.query ≠ "" := by decide
  have hlast : IsLastUser leaveMessage Gateway.amidst.after := ⟨by decide, by decide⟩
  have htext : contentText (leaveMessage.get? "content") = leaving.query := by decide
  obtain ⟨hshown, -⟩ := shown_context_injected launched_leaving hquery
    (rfl : speaking.augment.answer = speaking.augment.answer)
    (fun _ => show Text.isWhole "s" = true by decide) hlast htext .none
    (by decide) ⟨2026, 3, 7⟩
  obtain ⟨-, hcontext, -⟩ := hshown _ outcome_speaking
  rw [contextOf_speaking] at hcontext
  obtain ⟨houtput, hinjects⟩ := hcontext (by decide)
  exact ⟨launched_leaving, hquery, hlast, htext, .none, ⟨_, houtput (by decide +kernel)⟩,
    hinjects ⟨fits_speaking, by decide⟩⟩

/-- The message of the user after one of the assistant that nests too deep. -/
def burdened : Surroundings := ⟨[tangled Room.usual.copies], []⟩

/-- A context can be found that cannot be printed, and a conversation in which a message nests too deep is not
prepared, whatever a probe shows. -/
theorem not_injected_tangled :
    Launched .usual [] ["leave"] usual leaving {} ∧ IsLastUser leaveMessage burdened.after ∧
      contentText (leaveMessage.get? "content") = leaving.query ∧
      (shouldAugment (burdened.around leaveMessage) []).value = true ∧
      (contextOf (questioned (gatewayOf .usual {} leaving) leaving torn).result = Text.loneHalf ∧
        ∀ before, (run .usual usual ["leave"] torn).output ≠ before ++ line Text.loneHalf) ∧
      contextOf (questioned (gatewayOf .usual {} leaving) leaving speaking).result = "c" ∧
      ¬ Injects burdened leaveMessage "c"
        ((gatewayOf .usual {} leaving).prepareLoose (burdened.around leaveMessage) .null (.str "s")
          ⟨2026, 3, 7⟩ speaking).result := by
  have hlast : IsLastUser leaveMessage burdened.after := ⟨by decide, by decide⟩
  have hgate : (shouldAugment (burdened.around leaveMessage) []).value = true := hlast.hasUserMessage
  refine ⟨launched_leaving, hlast, by decide, hgate, ⟨by decide +kernel, ?_⟩, contextOf_speaking, ?_⟩
  · intro before houtput
    have hwhole : Text.isWhole (run .usual usual ["leave"] torn).output = true := by decide +kernel
    rw [houtput, line, Text.isWhole_append, Text.isWhole_append, Text.isWhole_loneHalf] at hwhole
    simp at hwhole
  · rintro ⟨new, r, hprepared, -⟩
    have hdeep : speaking.room.isTooDeep (burdened.around leaveMessage) = true :=
      Conversation.isTooDeep_of_mem List.mem_cons_self (Conversation.le_calls_tangled _ _)
    have hshallow := Gateway.isTooDeep_eq_false_of_ok .none hgate hprepared
    exact Bool.false_ne_true (hshallow.symm.trans hdeep)

end Grounding.Probe
