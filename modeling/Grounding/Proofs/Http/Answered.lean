import Grounding.Proofs.Http.Calls
import Grounding.Proofs.Http.Shallow
import Grounding.Proofs.Http.Shown

/-!
# Responses to calls that pass their check

Whatever the service does, a look at the health is answered with a flag, and a question that passes its check
with the record of the retrieval, unless a text in that record has no encoding.  Messages come back prepared,
with the record of the retrieval if one was made.  They do not come back if they nest too deep, which is no
matter of the service, or if a text in them or in the record has no encoding, which may be.
-/

namespace Grounding.Http

open Conversation (shouldAugment lastQuery inject AreOptions)
open Gateway (Prepared)

variable {g : Gateway} {today : Date} {service : Service}

/-! ## Health and questions -/

theorem isEnabled_of_isHealthy (h : (g.isHealthy service).result = true) :
    g.settings.isEnabled = true := by
  unfold Gateway.isHealthy at h
  split_ifs at h with hoff
  · contradiction
  · simpa using hoff

theorem getHealth_result (g : Gateway) (service : Service) :
    (getHealth g service).result = ⟨200, .json (.obj [("enabled", .bool g.settings.isEnabled),
      ("healthy", .bool (g.isHealthy service).result)])⟩ := by
  have hnames : Text.isWhole "enabled" = true ∧ Text.isWhole "healthy" = true := by decide +kernel
  unfold getHealth
  dsimp only
  exact (Response.ok_eq_iff (by simp)).2 ⟨by simp, by simp [hnames]⟩

theorem postAugment_of_ok {body : List UInt8} {input : AugmentBody}
    (h : readChecked service.room body AugmentBody.ofMembers = .ok input) (g : Gateway) :
    postAugment g body service =
      { g.augment input.query input.session service with
        result := .ok (g.augment input.query input.session service).result.toJson } := by
  rw [postAugment, h]

/-- A refusal that is no matter of understanding says nothing that is not known beforehand. -/
theorem isWhole_of_refusal {query session : String} {refusal : Refusal}
    (h : (g.augment query session service).result.outcome = .error refusal)
    (hkind : refusal.kind ≠ .parse) :
    (g.augment query session service).result.toJson.isWhole = true := by
  apply Retrieval.isWhole_toJson_of_error h
  unfold Gateway.augment at h
  rcases Gateway.augmentFor_cases g (.str session) query service with ⟨-, hasked⟩ |
    ⟨-, -, hasked⟩ | ⟨-, -, hasked⟩
  · rw [hasked] at h
    obtain rfl := Except.error.inj h
    decide +kernel
  · rw [hasked] at h
    obtain rfl := Except.error.inj h
    decide +kernel
  · rw [hasked] at h
    rcases Gateway.ask_outcome_cases g _ service with ⟨found, hout⟩ | hout | ⟨detail, hout⟩
    · rw [hout] at h
      contradiction
    · obtain rfl := Except.error.inj (hout.symm.trans h)
      decide +kernel
    · obtain rfl := Except.error.inj (hout.symm.trans h)
      exact absurd rfl hkind

/-- What comes back for a question that passed its check. -/
structure AnswersQuestion (asked : Outcome Retrieval) (o : Outcome Response) : Prop where
  requests : o.requests = asked.requests
  status : o.result.status = 200 ↔ asked.result.toJson.isWhole = true
  refused : ∀ refusal, asked.result.outcome = .error refusal → refusal.kind ≠ .parse →
    o.result.status = 200
  otherwise : o.result.status ≠ 200 → o.result = .internalError
  shows : o.result.status = 200 →
    (o.result = ⟨200, .json asked.result.toJson⟩ ↔ asked.result.latency.isFinite = true)

theorem answersQuestion_postAugment {body : List UInt8} {input : AugmentBody}
    (h : readChecked service.room body AugmentBody.ofMembers = .ok input) (g : Gateway) :
    AnswersQuestion (g.augment input.query input.session service) (postAugment g body service) := by
  have hshort := Retrieval.shortIntegers_toJson (g.augment input.query input.session service).result
  have hstatus := Response.ok_status_iff.trans (and_iff_right hshort)
  rw [postAugment_of_ok h]
  refine ⟨rfl, hstatus, ?_, ?_, ?_⟩
  · exact fun refusal hout hkind => hstatus.2 (isWhole_of_refusal hout hkind)
  · intro hfailed
    exact Response.ok_of_not_whole fun hboth => hfailed (hstatus.2 hboth.2)
  · intro hsent
    have hfinite := Retrieval.isFinite_toJson (r := (g.augment input.query input.session service).result)
      fun found => Gateway.hasFiniteNumbers_of_augmentFor
    exact (Response.ok_eq_iff hshort).trans ((and_iff_left (hstatus.1 hsent)).trans hfinite)

/-! ## Messages -/

namespace PrepareBody

variable (input : PrepareBody)

/-- Whether the gate is open for the messages. -/
def gate : Bool := (shouldAugment (.arr input.messages) input.options).value

/-- The messages as the gateway prepares them. -/
def prepared (g : Gateway) (today : Date) (service : Service) :
    Outcome (Except CallFault Prepared) :=
  g.prepareLoose (.arr input.messages) (.obj input.options) (.str input.session) today service

/-- The retrieval for their last query. -/
def asked (g : Gateway) (service : Service) : Retrieval :=
  (g.augment (lastQuery (.arr input.messages)) input.session service).result

theorem prepared_cases (g : Gateway) (today : Date) (service : Service) :
    (input.gate = false ∧ (input.prepared g today service).result = .ok ⟨.arr input.messages, none⟩) ∨
    (input.gate = true ∧ (input.prepared g today service).result =
      if service.room.isTooDeep (.arr input.messages) then .error (.injection .tooDeep)
      else .ok ⟨inject (.arr input.messages) (Gateway.contextOf (input.asked g service)) today,
        some (input.asked g service)⟩) := by
  have hoptions : AreOptions (.obj input.options) input.options := .members input.options
  unfold gate prepared asked
  cases hgate : (shouldAugment (.arr input.messages) input.options).value with
  | false =>
      rw [Gateway.prepareLoose_of_unaugmented hoptions hgate]
      exact .inl ⟨rfl, rfl⟩
  | true =>
      rw [Gateway.prepareLoose_of_augmented hoptions hgate]
      exact .inr ⟨rfl, rfl⟩

/-- Messages that could be prepared are a list, come with a retrieval if the gate is open, and hold no
scalars that were not there before but texts. -/
theorem prepared_of_ok {p : Prepared} (h : (input.prepared g today service).result = .ok p) :
    p.retrieval.isSome = input.gate ∧ (∃ items, p.messages = .arr items) ∧
      (∀ q : Json → Prop, (∀ s, q (.str s)) → (Json.arr input.messages).Every q →
        p.messages.Every q) ∧
      ∀ r, p.retrieval = some r → ∀ found, r.outcome = .ok found → found.HasFiniteNumbers := by
  rcases input.prepared_cases g today service with ⟨hgate, hprepared⟩ | ⟨hgate, hprepared⟩
  · obtain rfl := Except.ok.inj (h.symm.trans hprepared)
    exact ⟨hgate.symm, ⟨_, rfl⟩, fun q _ hq => hq, by simp⟩
  · rw [h] at hprepared
    -- Something came of it, so the messages were not too deep to be copied.
    split_ifs at hprepared
    obtain rfl := Except.ok.inj hprepared
    refine ⟨hgate.symm, ⟨_, rfl⟩, fun q hstring hq => ?_, fun r hr found => ?_⟩
    · exact Conversation.every_inject hstring hq _ today
    · obtain rfl := Option.some.inj hr
      exact Gateway.hasFiniteNumbers_of_augmentFor

end PrepareBody

/-- Prepared messages that can be sent back: none of them nests too deep, and all texts in them and in the
record of the retrieval can be encoded, but for names that can be shown in another form. -/
structure CanReturn (platform : Platform) (p : Prepared) : Prop where
  shallow : Shallow p.messages
  messages : ∃ shown, shownNames platform p.messages = some shown ∧ shown.isWhole = true
  record : ∀ r, p.retrieval = some r → r.toJson.isWhole = true

/-- Messages of a call that can be prepared and, as far as their depth goes, sent back. -/
def Returns (room : Room) (input : PrepareBody) : Prop :=
  if input.gate then
    room.isTooDeep (.arr input.messages) = false ∧
      ∀ context day, Shallow (inject (.arr input.messages) context day)
  else Shallow (.arr input.messages)

section Prepared

variable {platform : Platform} {p : Prepared} {items : List Json}

theorem isWhole_preparedJson_iff :
    (preparedJson p).isWhole = true ↔
      p.messages.isWhole = true ∧ ∀ r, p.retrieval = some r → r.toJson.isWhole = true := by
  have hnames : Text.isWhole "messages" = true ∧ Text.isWhole "rag_used" = true ∧
      Text.isWhole "result" = true := by
    decide +kernel
  obtain ⟨messages, retrieval⟩ := p
  cases retrieval <;> simp [preparedJson, hnames]

theorem shortIntegers_preparedJson (h : p.messages.HasShortIntegers) :
    (preparedJson p).HasShortIntegers := by
  obtain ⟨messages, retrieval⟩ := p
  cases retrieval with
  | none => simpa [preparedJson] using h
  | some r => simpa [preparedJson, r.shortIntegers_toJson] using h

theorem isFinite_preparedJson_iff (hmessages : p.messages.IsFinite)
    (hfound : ∀ r, p.retrieval = some r →
      ∀ found, r.outcome = .ok found → found.HasFiniteNumbers) :
    (preparedJson p).IsFinite ↔ ∀ r, p.retrieval = some r → r.latency.isFinite = true := by
  obtain ⟨messages, retrieval⟩ := p
  cases retrieval with
  | none => simpa [preparedJson] using hmessages
  | some r =>
      have hr : r.toJson.IsFinite ↔ r.latency.isFinite = true :=
        Retrieval.isFinite_toJson (hfound r rfl)
      simpa [preparedJson, hr] using fun _ => hmessages

/-- Prepared messages are sent back as they are shown if they can be, and otherwise the call fails. -/
theorem preparedResponse_cases (hitems : p.messages = .arr items)
    (hshort : p.messages.HasShortIntegers) :
    (CanReturn platform p ∧ (preparedResponse platform (.ok p)).status = 200 ∧
      ∃ shown, shownNames platform p.messages = some shown ∧
        preparedResponse platform (.ok p) = .ok (preparedJson { p with messages := shown })) ∨
    (¬ CanReturn platform p ∧ preparedResponse platform (.ok p) = .internalError) := by
  obtain ⟨messages, retrieval⟩ := p
  subst hitems
  cases hdeep : items.any isTooDeep with
  | true =>
      refine .inr ⟨fun h => ?_, by simp [preparedResponse, hdeep]⟩
      obtain ⟨m, hm, htooDeep⟩ := List.any_eq_true.1 hdeep
      rw [h.shallow items rfl m hm] at htooDeep
      contradiction
  | false =>
      cases hshown : shownItems platform items with
      | none =>
          refine .inr ⟨fun h => ?_, by simp [preparedResponse, hdeep, hshown]⟩
          obtain ⟨shown, hnames, -⟩ := h.messages
          simp [shownNames, hshown] at hnames
      | some others =>
          have hnames : shownNames platform (.arr items) = some (.arr others) := by
            rw [shownNames, hshown, Option.map_some]
          have hresponse : preparedResponse platform (.ok ⟨.arr items, retrieval⟩) =
              .ok (preparedJson ⟨.arr others, retrieval⟩) := by
            simp [preparedResponse, hdeep, hshown]
          have hothers : (preparedJson ⟨.arr others, retrieval⟩).HasShortIntegers :=
            shortIntegers_preparedJson (every_of_shownNames hnames hshort)
          have hstatus := Response.ok_status_iff.trans (and_iff_right hothers)
          rw [isWhole_preparedJson_iff] at hstatus
          have hshallow : Shallow (.arr items) := by
            simpa using hdeep
          by_cases hwhole : (Response.ok (preparedJson ⟨.arr others, retrieval⟩)).status = 200
          · obtain ⟨hmessages, hrecord⟩ := hstatus.1 hwhole
            refine .inl ⟨⟨hshallow, ⟨_, hnames, hmessages⟩, hrecord⟩, ?_, _, hnames, hresponse⟩
            rw [hresponse]
            exact hwhole
          · refine .inr ⟨fun h => hwhole (hstatus.2 ⟨?_, h.record⟩), ?_⟩
            · obtain ⟨shown, hshown', hmessages⟩ := h.messages
              obtain rfl := Option.some.inj (hnames.symm.trans hshown')
              exact hmessages
            · rw [hresponse]
              exact Response.ok_of_not_whole fun hboth =>
                hwhole (hstatus.2 (isWhole_preparedJson_iff.1 hboth.2))

/-- What the response to messages says: the messages as they were prepared, whether a retrieval was made,
and its record. -/
structure ShowsPrepared (r : Response) (gate : Bool) (p : Prepared) : Prop where
  shown : r = ⟨200, .json (preparedJson p)⟩
  used : (preparedJson p).get? "rag_used" = some (.bool gate)
  result : (preparedJson p).get? "result" = some .null ↔ gate = false

theorem get?_ragUsed (p : Prepared) :
    (preparedJson p).get? "rag_used" = some (.bool p.retrieval.isSome) := by
  simp [preparedJson, Json.get?, Json.lookup]

theorem get?_result_eq_null_iff (p : Prepared) :
    (preparedJson p).get? "result" = some .null ↔ p.retrieval.isSome = false := by
  have hget : (preparedJson p).get? "result" = some ((p.retrieval.map Retrieval.toJson).getD .null) := by
    simp [preparedJson, Json.get?, Json.lookup]
  rw [hget]
  cases p.retrieval with
  | none => simp
  | some r => simp [Retrieval.toJson]

end Prepared

/-- Messages without a torn text come back if their depth allows it, and if nothing torn was found for
them. -/
theorem canReturn_iff_of_isWhole (platform : Platform) {input : PrepareBody}
    (hwhole : (Json.arr input.messages).isWhole = true) (g : Gateway) (today : Date)
    (service : Service) :
    (∃ p, (input.prepared g today service).result = .ok p ∧ CanReturn platform p) ↔
      Returns service.room input ∧
        (input.gate = true → (input.asked g service).toJson.isWhole = true) := by
  unfold Returns
  rcases input.prepared_cases g today service with ⟨hgate, hprepared⟩ | ⟨hgate, hprepared⟩
  · rw [hprepared, hgate, if_neg Bool.false_ne_true]
    constructor
    · rintro ⟨p, hp, hcan⟩
      obtain rfl := Except.ok.inj hp
      exact ⟨hcan.shallow, by simp⟩
    · rintro ⟨hshallow, -⟩
      exact ⟨_, rfl, hshallow, ⟨_, shownNames_of_isWhole hwhole, hwhole⟩, by simp⟩
  · rw [hprepared, hgate, if_pos rfl]
    cases hdeep : service.room.isTooDeep (.arr input.messages) with
    | true => simp
    | false =>
        rw [if_neg Bool.false_ne_true]
        constructor
        · rintro ⟨p, hp, hcan⟩
          obtain rfl := Except.ok.inj hp
          -- The text in front is the service's, and any other does as well.
          exact ⟨⟨rfl, fun context day => (shallow_inject_congr _ _ _ _ _).1 hcan.shallow⟩,
            fun _ => hcan.record _ rfl⟩
        · rintro ⟨⟨-, hshallow⟩, hrecord⟩
          have hfound := Retrieval.isWhole_contextOf (hrecord rfl)
          have hmessages := Conversation.isWhole_inject hfound hwhole today
          refine ⟨_, rfl, hshallow _ _, ⟨_, shownNames_of_isWhole hmessages, hmessages⟩, ?_⟩
          intro r hr
          obtain rfl := Option.some.inj hr
          exact hrecord rfl

/-- Messages are a member of the body that they came in. -/
theorem PrepareBody.lookup_of_ofMembers {members : List (String × Json)} {input : PrepareBody}
    (h : ofMembers members = .ok input) :
    Json.lookup "messages" members = some (.arr input.messages) := by
  rcases hread : readMessages members with ⟨messages, faults⟩
  simp only [ofMembers, hread] at h
  split at h
  · obtain rfl := Except.ok.inj h
    unfold readMessages at hread
    split at hread
    · simp at hread
    · next hmessages =>
      obtain ⟨rfl, -⟩ := Prod.mk.inj hread
      exact hmessages
    · simp at hread
  · contradiction

theorem PrepareBody.shortIntegers_of_readChecked {room : Room} {body : List UInt8}
    {input : PrepareBody} (h : readChecked room body ofMembers = .ok input) :
    (Json.arr input.messages).HasShortIntegers := by
  obtain ⟨members, hbody, hmembers⟩ := exists_members_of_readChecked h
  exact (Json.shortIntegers_of_decodeWithin hbody).lookup (lookup_of_ofMembers hmembers)

theorem postPrepare_of_ok {body : List UInt8} {input : PrepareBody}
    (h : readChecked service.room body PrepareBody.ofMembers = .ok input) (g : Gateway)
    (today : Date) :
    postPrepare g body today service =
      { input.prepared g today service with
        result := preparedResponse g.platform (input.prepared g today service).result } := by
  rw [postPrepare, h]
  rfl

/-- What comes back for messages that passed their check. -/
structure AnswersMessages (g : Gateway) (today : Date) (service : Service) (input : PrepareBody)
    (o : Outcome Response) : Prop where
  requests : o.requests = (input.prepared g today service).requests
  status : o.result.status = 200 ↔
    ∃ p, (input.prepared g today service).result = .ok p ∧ CanReturn g.platform p
  whole : (Json.arr input.messages).isWhole = true →
    (o.result.status = 200 ↔ Returns service.room input ∧
      (input.gate = true → (input.asked g service).toJson.isWhole = true))
  otherwise : o.result.status ≠ 200 → o.result = .internalError
  shows : o.result.status = 200 → (Json.arr input.messages).IsFinite →
    ∃ p, (input.prepared g today service).result = .ok p ∧
      (p.messages.isWhole = true →
        ((∀ r, p.retrieval = some r → r.latency.isFinite = true) ↔
          ShowsPrepared o.result input.gate p))

theorem answersMessages_postPrepare {body : List UInt8} {input : PrepareBody}
    (h : readChecked service.room body PrepareBody.ofMembers = .ok input) (g : Gateway)
    (today : Date) : AnswersMessages g today service input (postPrepare g body today service) := by
  have hwhole (hinput : (Json.arr input.messages).isWhole = true) :=
    canReturn_iff_of_isWhole g.platform hinput g today service
  rw [postPrepare_of_ok h]
  cases hprepared : (input.prepared g today service).result with
  | error fault =>
      have hnone : ¬ ∃ p, (input.prepared g today service).result = .ok p ∧
          CanReturn g.platform p := by
        simp [hprepared]
      have hstatus : (preparedResponse g.platform (.error fault)).status ≠ 200 := by
        simp [preparedResponse, Response.internalError]
      exact ⟨rfl, iff_of_false hstatus hnone,
        fun hinput => iff_of_false hstatus fun hreturns => hnone ((hwhole hinput).2 hreturns),
        fun _ => rfl, fun hsent => absurd hsent hstatus⟩
  | ok p =>
      obtain ⟨hgate, ⟨items, hitems⟩, hevery, hfound⟩ := input.prepared_of_ok hprepared
      have hshort : p.messages.HasShortIntegers :=
        hevery _ (fun _ => trivial) (PrepareBody.shortIntegers_of_readChecked h)
      have hcan : (∃ p, (input.prepared g today service).result = .ok p ∧ CanReturn g.platform p) ↔
          CanReturn g.platform p := by
        simp [hprepared]
      rcases preparedResponse_cases hitems hshort with ⟨hreturn, hstatus, shown, hshown, hresponse⟩ |
        ⟨hreturn, hresponse⟩
      · refine ⟨rfl, iff_of_true hstatus (hcan.2 hreturn), fun hinput => ?_,
          fun hfailed => absurd hstatus hfailed, fun _ hfinite => ⟨p, hprepared, fun hmessages => ?_⟩⟩
        · exact iff_of_true hstatus ((hwhole hinput).1 (hcan.2 hreturn))
        · -- Whole names are shown as they are.
          obtain rfl := Option.some.inj ((shownNames_of_isWhole hmessages).symm.trans hshown)
          have hjson := shortIntegers_preparedJson hshort
          have hiff := Response.ok_eq_iff hjson
          rw [isFinite_preparedJson_iff (hevery _ (fun _ => trivial) hfinite) hfound,
            isWhole_preparedJson_iff, and_iff_left ⟨hmessages, hreturn.record⟩] at hiff
          rw [← hiff]
          constructor
          · intro hok
            refine ⟨hresponse.trans hok, by rw [get?_ragUsed, hgate], ?_⟩
            rw [get?_result_eq_null_iff, hgate]
          · exact fun hshows => hresponse.symm.trans hshows.shown
      · have hstatus : (preparedResponse g.platform (.ok p)).status ≠ 200 := by
          rw [hresponse]
          decide
        have hnone := fun hsome => hreturn (hcan.1 hsome)
        exact ⟨rfl, iff_of_false hstatus hnone,
          fun hinput => iff_of_false hstatus fun hreturns => hnone ((hwhole hinput).2 hreturns),
          fun _ => hresponse, fun hsent => absurd hsent hstatus⟩

/-- Messages that nest neither too deep to be sent back nor too deep to be copied come back whatever is put
in front of them. -/
theorem returns_of_shallow {room : Room} {input : PrepareBody}
    (hshallow : Shallow (.arr input.messages))
    (hroom : room.isTooDeep (.arr input.messages) = false) : Returns room input := by
  unfold Returns
  split_ifs
  · exact ⟨hroom, hshallow.inject⟩
  · exact hshallow

/-- A call that passes its check is answered whatever the service does, as long as the texts of the answer
can be encoded and its messages are not too deep. -/
theorem answered_contract (g : Gateway) (call : Call) (today : Date) (service : Service) :
    let o := respond g call today service
    (∀ input, call.Reaches "POST" .augment →
      readChecked service.room call.body AugmentBody.ofMembers = .ok input →
      AnswersQuestion (g.augment input.query input.session service) o) ∧
    (∀ input, call.Reaches "POST" .prepare →
      readChecked service.room call.body PrepareBody.ofMembers = .ok input →
      AnswersMessages g today service input o ∧
      (Shallow (.arr input.messages) → service.room.isTooDeep (.arr input.messages) = false →
        Returns service.room input)) ∧
    (call.Reaches "GET" .health →
      let healthy := (g.isHealthy service).result
      o.result = ⟨200, .json (.obj [("enabled", .bool g.settings.isEnabled),
        ("healthy", .bool healthy)])⟩ ∧
      (healthy = true → g.settings.isEnabled = true)) := by
  intro o
  refine ⟨?_, ?_, ?_⟩
  · intro input hreaches hread
    have hrespond : o = postAugment g call.body service := hreaches.respond (by decide) g today service
    rw [hrespond]
    exact answersQuestion_postAugment hread g
  · intro input hreaches hread
    have hrespond : o = postPrepare g call.body today service :=
      hreaches.respond (by decide) g today service
    rw [hrespond]
    exact ⟨answersMessages_postPrepare hread g today, returns_of_shallow⟩
  · intro hreaches
    have hrespond : o = getHealth g service := hreaches.respond (by decide) g today service
    rw [hrespond]
    exact ⟨getHealth_result g service, isEnabled_of_isHealthy⟩

/-! ## A question, a message and a look at the health -/

def askingCall : Call := ⟨"POST", "/rag/augment".toList, "\x7b\"query\":\"leave\"\x7d".toUTF8.toList⟩

def preparingCall : Call :=
  ⟨"POST", "/rag/prepare".toList,
    "\x7b\"messages\":[\x7b\"role\":\"user\",\"content\":\"leave\"\x7d]\x7d".toUTF8.toList⟩

def healthCall : Call := ⟨"GET", "/rag/health".toList, []⟩

theorem reads_askingCall :
    readChecked .usual askingCall.body AugmentBody.ofMembers = .ok ⟨"leave", ""⟩ := by
  have hbody : askingCall.body =
      [123, 34, 113, 117, 101, 114, 121, 34, 58, 34, 108, 101, 97, 118, 101, 34, 125] := by
    decide +kernel
  rw [hbody]
  rfl

theorem reads_preparingCall :
    readChecked .usual preparingCall.body PrepareBody.ofMembers =
      .ok ⟨[Conversation.leaveMessage], [], ""⟩ := by
  have hbody : preparingCall.body = [123, 34, 109, 101, 115, 115, 97, 103, 101, 115, 34, 58, 91,
      123, 34, 114, 111, 108, 101, 34, 58, 34, 117, 115, 101, 114, 34, 44, 34, 99, 111, 110, 116,
      101, 110, 116, 34, 58, 34, 108, 101, 97, 118, 101, 34, 125, 93, 125] := by
    decide +kernel
  rw [hbody]
  rfl

theorem answered_contract_lost :
    let service : Service := .always .lost
    (askingCall.Reaches "POST" .augment ∧
      (respond Gateway.linked askingCall ⟨2026, 3, 7⟩ service).result =
        ⟨200, .json (Gateway.linked.augment "leave" "" service).result.toJson⟩) ∧
    (preparingCall.Reaches "POST" .prepare ∧
      ∃ p, ShowsPrepared (respond Gateway.linked preparingCall ⟨2026, 3, 7⟩ service).result true p) ∧
    (healthCall.Reaches "GET" .health ∧
      (respond Gateway.linked healthCall ⟨2026, 3, 7⟩ service).result =
        ⟨200, .json (.obj [("enabled", .bool Gateway.linked.settings.isEnabled),
          ("healthy", .bool (Gateway.linked.isHealthy service).result)])⟩) := by
  intro service
  have hasking : askingCall.Reaches "POST" .augment := ⟨by decide, by decide⟩
  have hpreparing : preparingCall.Reaches "POST" .prepare := ⟨by decide, by decide⟩
  have hhealth : healthCall.Reaches "GET" .health := ⟨by decide, by decide⟩
  have hshown : (Gateway.linked.augment "leave" "" service).result.toJson.isWhole = true ∧
      (Gateway.linked.augment "leave" "" service).result.latency.isFinite = true := by
    decide +kernel
  have hprepared : (({ messages := [Conversation.leaveMessage], options := [], session := "" } :
      PrepareBody).prepared Gateway.linked ⟨2026, 3, 7⟩ service).result.toOption.all fun p =>
        p.messages.isWhole && p.retrieval.all fun r => r.latency.isFinite := by
    decide +kernel
  obtain ⟨haugment, -, -⟩ := answered_contract Gateway.linked askingCall ⟨2026, 3, 7⟩ service
  have hanswers := haugment _ hasking reads_askingCall
  dsimp only at hanswers
  obtain ⟨-, hprepare, -⟩ := answered_contract Gateway.linked preparingCall ⟨2026, 3, 7⟩ service
  obtain ⟨hmessages, hreturns⟩ := hprepare _ hpreparing reads_preparingCall
  have hsent := (hmessages.whole (by decide +kernel)).2
    ⟨hreturns (by simp; decide) (by decide +kernel), fun _ => by decide +kernel⟩
  obtain ⟨p, hp, hshows⟩ := hmessages.shows hsent (by decide)
  obtain ⟨-, -, hlook⟩ := answered_contract Gateway.linked healthCall ⟨2026, 3, 7⟩ service
  simp only [hp, Except.toOption, Option.all_some, Bool.and_eq_true] at hprepared
  have hrecord := (hanswers.shows (hanswers.status.2 hshown.1)).2 hshown.2
  refine ⟨⟨hasking, hrecord⟩, ⟨hpreparing, p, (hshows hprepared.1).1 ?_⟩, hhealth, (hlook hhealth).1⟩
  intro r hr
  simpa [hr] using hprepared.2

/-- A reply whose context is half of a character. -/
def tornReply : Answer :=
  .arrived 200 "\x7b\"augmented_context\":\"\\ud83d\"\x7d".toUTF8.toList

/-- A message that nests too deep to be sent back. -/
def tangledCall : Call :=
  ⟨"POST", "/rag/prepare".toList,
    "\x7b\"messages\":[\x7b\"a\":".toUTF8.toList ++ List.replicate 256 91 ++
      List.replicate 256 93 ++ "\x7d]\x7d".toUTF8.toList⟩

/-- The service can keep a question from being answered by a text that has no encoding, and a message can do
so by its depth alone. -/
theorem not_answered_torn :
    (askingCall.Reaches "POST" .augment ∧
      readChecked .usual askingCall.body AugmentBody.ofMembers = .ok ⟨"leave", ""⟩ ∧
      (respond Gateway.linked askingCall ⟨2026, 3, 7⟩ (.always tornReply)).result.status ≠ 200) ∧
    tangledCall.Reaches "POST" .prepare ∧
      (∃ input ∈ (readChecked .usual tangledCall.body PrepareBody.ofMembers).toOption,
        (Json.arr input.messages).IsFinite) ∧
      (respond Gateway.linked tangledCall ⟨2026, 3, 7⟩ (.always .lost)).result.status ≠ 200 := by
  refine ⟨⟨⟨by decide, by decide⟩, reads_askingCall, ?_⟩, ⟨by decide, by decide⟩, ?_, ?_⟩
  · decide +kernel
  · decide +kernel
  · decide +kernel

end Grounding.Http
