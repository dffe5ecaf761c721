import Grounding.Probe.Report
import Grounding.Proofs.Gateway.Clients
import Grounding.Proofs.Gateway.RetrievalShape
import Grounding.Proofs.Gateway.Traffic
import Grounding.Proofs.Number.DigitRun
import Grounding.Proofs.Settings.Loading

/-!
# What a probe does

A probe that gets as far as its gateway says whether the service is healthy and, if it was given a query,
whether it was answered; its exit code says the same.  It looks at the health once and asks at most once,
with the switch on whatever the environment says, and leaves no client open.
-/

namespace Grounding

namespace Environment

variable {vars : Variables} {e : Environment} {s : Settings}

/-- The switch is one field of the settings and decides about no other. -/
theorem settings_withEnabled (h : e.settings = .ok s) (flag : Bool) :
    { e with enabled := flag }.settings = .ok { s with enabled := flag } := by
  obtain ⟨hhost, hport, hresults, hthreshold, htools, htimeout, -⟩ :=
    Settings.ofMembers_eq_ok_iff.1 h
  exact Settings.ofMembers_eq_ok_iff.2
    ⟨hhost, hport, hresults, hthreshold, htools, htimeout, rfl⟩

theorem maxResults_of_settings (h : e.settings = .ok s) : s.maxResults = e.maxResults := by
  obtain ⟨-, -, hresults, -⟩ := Settings.ofMembers_eq_ok_iff.1 h
  exact Input.readCount_int_eq (Input.read_of_field hresults rfl)

/-- A number that was read can be written. -/
theorem natAbs_maxResults_lt (h : load vars = .ok e) :
    e.maxResults.natAbs < Nat.pow 10 numeralDigitLimit := by
  simp only [load, Except.bind_eq_ok_iff] at h
  obtain ⟨port, -, n, hread, x, -, timeout, -, hmade⟩ := h
  obtain rfl := Except.ok.inj hmade
  exact natAbs_lt_of_readInteger hread

end Environment

namespace Gateway

/-- What comes of a question depends on the answer and not on the time. -/
theorem ask_outcome_congr (g : Gateway) (body : Json) {service other : Service}
    (hanswer : other.augment.answer = service.augment.answer) (hroom : other.room = service.room) :
    (g.ask body other).result.outcome = (g.ask body service).result.outcome := by
  unfold ask
  split
  · rfl
  · split
    · rfl
    · dsimp only
      rw [hanswer, hroom]

theorem augment_outcome_congr (g : Gateway) (query session : String) {service other : Service}
    (hanswer : other.augment.answer = service.augment.answer) (hroom : other.room = service.room) :
    (g.augment query session other).result.outcome =
      (g.augment query session service).result.outcome := by
  unfold augment augmentFor
  split_ifs
  · rfl
  · rfl
  · exact ask_outcome_congr g _ hanswer hroom

end Gateway

/-- Standard output takes all of the texts. -/
def Platform.Takes (platform : Platform) (texts : List String) : Prop :=
  ∀ text ∈ texts, platform.unprintable? text = none

instance (platform : Platform) (texts : List String) : Decidable (platform.Takes texts) :=
  List.decidableBAll (fun text => platform.unprintable? text = none) texts

namespace Probe

/-! ## Printing -/

def lines (texts : List String) : String := String.join (texts.map line)

theorem lines_append (texts more : List String) : lines (texts ++ more) = lines texts ++ lines more := by
  simp [lines, String.join_append]

section Printing

variable {platform : Platform} {texts : List String}

theorem fault?_printed_eq_none_iff :
    (printed platform texts).fault? = none ↔ platform.Takes texts := by
  unfold Platform.Takes
  induction texts with
  | nil => simp [printed]
  | cons text rest ih =>
      rw [printed, List.forall_mem_cons, ← ih]
      cases platform.unprintable? text <;> simp

theorem text_printed (h : platform.Takes texts) : (printed platform texts).text = lines texts := by
  induction texts with
  | nil => rfl
  | cons text rest ih =>
      obtain ⟨htext, hrest⟩ := List.forall_mem_cons.1 h
      rw [printed, htext]
      dsimp only
      rw [ih hrest]
      simp [lines]

/-- A run ends with its exit code if everything was printed. -/
theorem exit_printed_of_takes (h : platform.Takes texts) (code : Nat) :
    (printed platform texts).exit code = .ok code := by
  rw [Printed.exit, fault?_printed_eq_none_iff.2 h]

theorem exit_printed_of_not_takes (h : ¬ platform.Takes texts) (code : Nat) :
    ∃ message, (printed platform texts).exit code = .error (.unprintable message) := by
  unfold Printed.exit
  cases hfault : (printed platform texts).fault? with
  | none => exact absurd (fault?_printed_eq_none_iff.1 hfault) h
  | some message => exact ⟨message, rfl⟩

end Printing

/-! ## With a gateway at hand -/

/-- The question of a run, which follows the look at the health. -/
def questioned (g : Gateway) (a : Arguments) (service : Service) : Outcome Retrieval :=
  g.augment a.query a.session { service with clock := (g.isHealthy service).clock }

/-- What a run has to print: the health and, if there is a query, what came of it. -/
def texts (g : Gateway) (host : String) (a : Arguments) (service : Service) : List String :=
  healthText host (g.isHealthy service).result ::
    if a.query = "" then [] else retrievalTexts (questioned g a service).result

/-- How a run ends that prints everything. -/
def exitCode (g : Gateway) (a : Arguments) (service : Service) : Nat :=
  if a.query = "" then if (g.isHealthy service).result then 0 else 1
  else retrievalExit (questioned g a service).result

/-- A run prints as much as standard output takes, and asks once the health was printed. -/
theorem examine_eq (g : Gateway) (host : String) (a : Arguments) (service : Service) :
    examine g host a service =
      ⟨(printed g.platform (texts g host a service)).exit (exitCode g a service),
        (printed g.platform (texts g host a service)).text,
        (g.isHealthy service).requests ++
          if a.query ≠ "" ∧ g.platform.Takes [healthText host (g.isHealthy service).result] then
            (questioned g a service).requests
          else [],
        some g.close⟩ := by
  unfold examine texts exitCode Platform.Takes
  by_cases hquery : a.query = ""
  · simp [hquery]
  · cases hhealth : g.platform.unprintable? (healthText host (g.isHealthy service).result) with
    | some message => simp [hquery, hhealth, printed, Printed.exit]
    | none => simp [hquery, hhealth, printed, Printed.exit, questioned, Gateway.augment]

theorem retrievalExit_eq_zero_iff (r : Retrieval) : retrievalExit r = 0 ↔ r.Succeeded := by
  rw [Retrieval.succeeded_iff, retrievalExit]
  cases r.outcome with
  | ok found => simp
  | error refusal => simp

theorem exitCode_cases (g : Gateway) (a : Arguments) (service : Service) :
    exitCode g a service = 0 ∨ exitCode g a service = 1 := by
  unfold exitCode retrievalExit
  split_ifs
  · exact .inl rfl
  · exact .inr rfl
  · split
    · exact .inl rfl
    · exact .inr rfl

/-- With a query the health of the service does not matter. -/
theorem exitCode_withHealth {a : Arguments} (hquery : a.query ≠ "") (g : Gateway) (service : Service)
    (health : Reply) : exitCode g a { service with health } = exitCode g a service := by
  -- The question starts at another time, so the two retrievals may differ in their latency.
  have houtcome : (questioned g a { service with health }).result.outcome =
      (questioned g a service).result.outcome :=
    Gateway.augment_outcome_congr g a.query a.session rfl rfl
  rw [exitCode, exitCode, if_neg hquery, if_neg hquery, retrievalExit, retrievalExit, houtcome]

/-! ## From arguments and environment -/

/-- The gateway of a run. -/
def gatewayOf (platform : Platform) (settings : Settings) (a : Arguments) : Gateway :=
  (Gateway.create platform (override settings a)).2.1

/-- The variables and arguments of a run that gets as far as its gateway. -/
structure Launched (platform : Platform) (vars : Variables) (args : List String)
    (environment : Environment) (a : Arguments) (settings : Settings) : Prop where
  loaded : Environment.load vars = .ok environment
  arguments : readArguments args = .ok a
  level : environment.logLevel ∈ logLevels
  checked : environment.settings = .ok settings
  created : (Gateway.create platform (override settings a)).1 = .ok ()

section Run

variable {platform : Platform} {vars : Variables} {args : List String} {environment : Environment}
  {a : Arguments} {settings : Settings} {service : Service} {link : Link}

theorem isEnabled_gatewayOf (platform : Platform) (settings : Settings) (a : Arguments) :
    (gatewayOf platform settings a).settings.isEnabled = true := by
  rw [gatewayOf, Gateway.create_settings]
  rfl

theorem platform_gatewayOf (platform : Platform) (settings : Settings) (a : Arguments) :
    (gatewayOf platform settings a).platform = platform :=
  Gateway.create_platform platform _

/-- The arguments do not reach the body of a question, apart from query and session. -/
theorem augmentBody_gatewayOf (platform : Platform) (settings : Settings) (a : Arguments)
    (query session : String) :
    augmentBody (gatewayOf platform settings a).settings (.str query) (.str session) =
      settings.questionBody query session := by
  rw [gatewayOf, Gateway.create_settings, ← Settings.augmentBody_values]
  rfl

/-- The link of a run was built from its settings. -/
theorem exists_build_gatewayOf (h : (gatewayOf platform settings a).link = some link) :
    ∃ number, (Link.build platform (override settings a) number).value = .ok link := by
  have hon : (override settings a).isEnabled = true := rfl
  unfold gatewayOf Gateway.create at h
  dsimp only at h
  rw [if_pos hon] at h
  rcases Gateway.rebuild_cases ⟨override settings a, none, 0, [], platform⟩ with
    ⟨built, _, hbuild, hcase⟩ | ⟨_, _, _, hcase⟩ | ⟨_, _, _, _, hcase⟩
  · rw [hcase] at h
    obtain rfl := Option.some.inj h
    exact ⟨_, hbuild⟩
  · rw [hcase] at h
    cases h
  · rw [hcase] at h
    cases h

/-- A run for a plain host sends to one base URL. -/
theorem exists_sendsTo_gatewayOf (hlink : (gatewayOf platform settings a).link = some link)
    (hplain : Endpoint.IsPlain (chosenHost settings a)) :
    ∃ base, link.client.binding.SendsTo base := by
  obtain ⟨number, hbuild⟩ := exists_build_gatewayOf hlink
  refine Link.exists_sendsTo_of_build rfl ?_ hplain hbuild
  intro text
  unfold override
  rcases a.port with _ | (n | _)
  · exact Json.noConfusion
  · exact Json.noConfusion
  · exact Json.noConfusion

/-- Closing the gateway of a run closes every client that was opened. -/
theorem mem_closed_of_lt {n : Nat} (h : n < (gatewayOf platform settings a).close.opened) :
    n ∈ (gatewayOf platform settings a).close.closed := by
  have howns := Gateway.ownsClients_create platform (override settings a)
  unfold gatewayOf at h ⊢
  exact howns.mem_closed_close h

namespace Launched

variable (h : Launched platform vars args environment a settings)
include h

theorem run_eq (service : Service) :
    run platform environment args service =
      examine (gatewayOf platform settings a) (chosenHost settings a) a service := by
  have hlevel : logLevels.contains environment.logLevel = true := List.contains_iff_mem.2 h.level
  have hcreated := h.created
  unfold run gatewayOf
  rw [h.arguments]
  simp only [hlevel, h.checked]
  generalize Gateway.create platform (override settings a) = created at hcreated ⊢
  rcases created with ⟨fault | done, g, notices⟩
  · contradiction
  · rfl

/-- A run does the same with the switch on and off. -/
theorem run_withEnabled (flag : Bool) (service : Service) :
    run platform { environment with enabled := flag } args service =
      run platform environment args service := by
  have hchecked := Environment.settings_withEnabled h.checked flag
  unfold run
  rw [h.arguments]
  dsimp only
  rw [hchecked, h.checked]
  -- What differs is overridden, in both runs by the same.
  rfl

theorem valid : settings.Valid := Settings.valid_of_ofMembers h.checked

/-- The number of results is not bounded by its check, only by having been read from a text. -/
theorem isWritable : settings.IsWritable := by
  unfold Settings.IsWritable
  rw [Environment.maxResults_of_settings h.checked]
  exact Environment.natAbs_maxResults_lt h.loaded

/-- Query and session decide whether a question can be sent. -/
theorem canSend_iff (query session : String) :
    settings.CanSend query session ↔
      Text.isWhole query = true ∧ Text.isWhole session = true := by
  simp [Settings.canSend_iff, h.isWritable]

theorem content_requests (hlink : (gatewayOf platform settings a).link = some link)
    (service : Service) :
    (run platform environment args service).requests.map Request.content =
      link.client.binding.health.contents .get none ++
        if platform.Takes [healthText (chosenHost settings a)
            ((gatewayOf platform settings a).isHealthy service).result] then
          settings.question link.client.binding a.query a.session
        else [] := by
  have hon := isEnabled_gatewayOf platform settings a
  have hbody := augmentBody_gatewayOf platform settings a a.query a.session
  rw [h.run_eq, examine_eq, List.map_append, Gateway.isHealthy_requests hon hlink,
    link.content_healthRequest, platform_gatewayOf]
  congr 1
  by_cases hquery : a.query = ""
  · simp [hquery, Settings.question]
  · simp only [hquery, ne_eq, not_false_eq_true, true_and]
    split_ifs
    · exact Gateway.content_augmentFor h.valid hon hlink hbody _
    · rfl

theorem exit_of_takes {service : Service}
    (hshown : platform.Takes
      (texts (gatewayOf platform settings a) (chosenHost settings a) a service)) :
    (run platform environment args service).exit =
      .ok (exitCode (gatewayOf platform settings a) a service) := by
  rw [h.run_eq, examine_eq, platform_gatewayOf]
  exact exit_printed_of_takes hshown _

theorem exit_of_not_takes {service : Service}
    (hshown : ¬ platform.Takes
      (texts (gatewayOf platform settings a) (chosenHost settings a) a service)) :
    ∃ message, (run platform environment args service).exit = .error (.unprintable message) := by
  rw [h.run_eq, examine_eq, platform_gatewayOf]
  exact exit_printed_of_not_takes hshown _

/-- A run ends well if its exit code says so and everything was printed. -/
theorem exit_eq_zero_iff (service : Service) :
    (run platform environment args service).exit = .ok 0 ↔
      platform.Takes (texts (gatewayOf platform settings a) (chosenHost settings a) a service) ∧
        exitCode (gatewayOf platform settings a) a service = 0 := by
  by_cases hshown : platform.Takes
      (texts (gatewayOf platform settings a) (chosenHost settings a) a service)
  · rw [h.exit_of_takes hshown]
    simp [hshown]
  · obtain ⟨message, hexit⟩ := h.exit_of_not_takes hshown
    rw [hexit]
    simp [hshown]

theorem client_of_mem_requests (hlink : (gatewayOf platform settings a).link = some link)
    {service : Service} {r : Request} (hr : r ∈ (run platform environment args service).requests) :
    r.client = link.client.number ∧ r.timeout = link.client.timeout := by
  have hstep : ∃ op, r ∈ (Session.step (gatewayOf platform settings a) op).requests := by
    rw [h.run_eq, examine_eq, List.mem_append] at hr
    rcases hr with hhealth | hasked
    · exact ⟨.checkHealth service, hhealth⟩
    · split_ifs at hasked
      · exact ⟨.augment a.query a.session _, hasked⟩
      · contradiction
  obtain ⟨op, hop⟩ := hstep
  obtain ⟨-, own, hown, hclient⟩ := Gateway.client_of_mem_step hop
  obtain rfl := Option.some.inj (hown.symm.trans hlink)
  exact hclient

end Launched

/-- What a run sends through its link: a look at the health and, once that is shown, the question.  A plain
host can only be too long for that. -/
structure Sends (platform : Platform) (settings : Settings) (a : Arguments) (shown : List String)
    (requests : List Request) (link : Link) : Prop where
  content : requests.map Request.content = link.client.binding.health.contents .get none ++
    if platform.Takes shown then settings.question link.client.binding a.query a.session else []
  client : ∀ r ∈ requests, r.client = link.client.number ∧ r.timeout = link.client.timeout
  plain : Endpoint.IsPlain (chosenHost settings a) → ∃ base, link.client.binding.SendsTo base

/-- A run that can print what it has to say ends with 0 or 1: without a query the exit code tells the health,
and with one whether it was answered.  One look at the health is sent and then at most one question, if there
is a link to send them through.  The switch in the environment does not matter, and every client that was
opened is closed in the end, whatever could be printed. -/
theorem contract_of_launched (h : Launched platform vars args environment a settings)
    (service : Service) :
    let g := gatewayOf platform settings a
    let host := chosenHost settings a
    let report := run platform environment args service
    let shown := platform.Takes (texts g host a service)
    (shown → report.exit = .ok 0 ∨ report.exit = .ok 1) ∧
    (¬ shown → ∃ message, report.exit = .error (.unprintable message)) ∧
    (a.query = "" → (report.exit = .ok 0 ↔ shown ∧ (g.isHealthy service).result = true)) ∧
    (a.query ≠ "" →
      (report.exit = .ok 0 ↔ shown ∧ (questioned g a service).result.Succeeded) ∧
      ∀ health, shown → platform.Takes (texts g host a { service with health }) →
        (run platform environment args { service with health }).exit = report.exit) ∧
    (g.link = none → report.requests = []) ∧
    (∀ link, g.link = some link →
      Sends platform settings a [healthText host (g.isHealthy service).result] report.requests
        link) ∧
    (settings.CanSend a.query a.session ↔
      Text.isWhole a.query = true ∧ Text.isWhole a.session = true) ∧
    (g.settings.isEnabled = true ∧
      ∀ flag, run platform { environment with enabled := flag } args service = report) ∧
    ∃ final, report.gateway = some final ∧ final.link = none ∧
      ∀ n < final.opened, n ∈ final.closed := by
  intro g host report shown
  refine ⟨?_, fun hshown => h.exit_of_not_takes hshown, ?_, ?_, ?_, ?_, h.canSend_iff _ _, ?_, ?_⟩
  · intro hshown
    have hexit : report.exit = _ := h.exit_of_takes hshown
    rw [hexit]
    simpa using exitCode_cases g a service
  · intro hquery
    have hzero : report.exit = .ok 0 ↔ _ := h.exit_eq_zero_iff service
    rw [hzero, exitCode, if_pos hquery]
    simp [shown, g, host]
  · intro hquery
    have hzero : report.exit = .ok 0 ↔ _ := h.exit_eq_zero_iff service
    refine ⟨?_, fun health hshown hother => ?_⟩
    · rw [hzero, exitCode, if_neg hquery, retrievalExit_eq_zero_iff]
    · have hexit : report.exit = _ := h.exit_of_takes hshown
      rw [hexit, h.exit_of_takes hother, exitCode_withHealth hquery]
  · intro hlink
    have hrun : report = _ := h.run_eq service
    rw [hrun, examine_eq]
    have hhealth : (g.isHealthy service).requests = [] :=
      Gateway.step_requests_of_unlinked hlink (.checkHealth service)
    have hasked : (questioned g a service).requests = [] :=
      Gateway.step_requests_of_unlinked hlink (.augment a.query a.session _)
    dsimp only
    rw [hhealth, hasked, ite_self, List.append_nil]
  · intro link hlink
    exact ⟨h.content_requests hlink service, fun r hr => h.client_of_mem_requests hlink hr,
      exists_sendsTo_gatewayOf hlink⟩
  · exact ⟨isEnabled_gatewayOf platform settings a, fun flag => h.run_withEnabled flag service⟩
  · have hrun : report = _ := h.run_eq service
    rw [hrun, examine_eq]
    exact ⟨g.close, rfl, rfl, fun n hn => mem_closed_of_lt hn⟩

end Run


/-- What an environment without variables comes to. -/
def usual : Environment where
  host := "localhost"
  port := 8001
  maxResults := 5
  similarityThreshold := .ofDecimal false 3 (-1)
  includeTools := false
  timeoutMs := 5000
  enabled := false
  certificates := "/etc/ssl/certs"
  logLevel := "INFO"

theorem launched_usual {args : List String} {a : Arguments} (h : readArguments args = .ok a)
    (hcreated : (Gateway.create .usual (override {} a)).1 = .ok ()) :
    Launched .usual [] args usual a {} where
  loaded := by decide +kernel
  arguments := h
  level := by decide
  checked := by decide +kernel
  created := hcreated

def leaving : Arguments := { query := "leave" }

theorem launched_leaving : Launched .usual [] ["leave"] usual leaving {} :=
  launched_usual (by decide +kernel) (by decide +kernel)

/-- A service that answers everything with an empty object. -/
def blank : Service := .always (.arrived 200 [123, 125])

theorem contract_of_launched_leave :
    Launched .usual [] ["leave"] usual leaving {} ∧
      (run .usual usual ["leave"] blank).exit = .ok 0 ∧
      (run .usual { usual with enabled := true } ["leave"] blank).exit = .ok 0 ∧
      (run .usual usual ["leave"] blank).requests.map Request.content =
        [(.get, "http://localhost:8001/api/v1/llama/health", none),
          (.post, "http://localhost:8001/api/v1/llama/augment",
            some (({} : Settings).questionBody "leave" ""))] := by
  obtain ⟨-, -, -, hasked, -, hsends, hcan, ⟨-, hforced⟩, -⟩ :=
    contract_of_launched launched_leaving blank
  obtain ⟨hexit, -⟩ := hasked (by decide)
  have hfound : (questioned (gatewayOf .usual {} leaving) leaving blank).result.outcome = .ok {} := by
    decide +kernel
  have hzero := hexit.2 ⟨by decide +kernel, Retrieval.succeeded_of_ok hfound⟩
  have hbound : (gatewayOf .usual {} leaving).link.map
      (fun link => (link.client.binding.health, link.client.binding.augment)) =
        some (.url "http://localhost:8001/api/v1/llama/health",
          .url "http://localhost:8001/api/v1/llama/augment") := by
    decide +kernel
  obtain ⟨link, hlink, hurls⟩ := Option.map_eq_some_iff.1 hbound
  obtain ⟨hhealth, haugment⟩ := Prod.mk.inj hurls
  have hcontent := (hsends link hlink).content
  rw [hhealth, if_pos (by decide +kernel), Settings.question,
    if_pos ⟨by decide, hcan.2 ⟨by decide, by decide⟩⟩, haugment] at hcontent
  exact ⟨launched_leaving, hzero, by rw [hforced true, hzero], hcontent⟩

def loud : Environment := { usual with logLevel := "LOUD" }

/-- A service that finds half of a character. -/
def torn : Service := .always (.arrived 200 "\x7b\"augmented_context\":\"\\ud83d\"\x7d".toUTF8.toList)

/-- A run may end before it gets to its gateway although its settings are fine: over a name that is no
level of logging, or over arguments that make no sense.  And it may find what it cannot print. -/
theorem not_examined_loud :
    (Environment.load [("RAG_LOG_LEVEL", "LOUD")] = .ok loud ∧ loud.settings = .ok {} ∧
      (Gateway.create .usual (override {} {})).1 = .ok () ∧
      ∀ code, (run .usual loud [] (.always .lost)).exit ≠ .ok code) ∧
    (Environment.load [] = .ok usual ∧ usual.settings = .ok {} ∧
      (run .usual usual ["--loud"] (.always .lost)).exit = .ok 2) ∧
    Launched .usual [] ["leave"] usual leaving {} ∧
      ∃ message, (run .usual usual ["leave"] torn).exit = .error (.unprintable message) := by
  refine ⟨⟨by decide +kernel, by decide +kernel, by decide +kernel, ?_⟩, ⟨by decide +kernel,
    by decide +kernel, ?_⟩, launched_leaving, launched_leaving.exit_of_not_takes (by decide +kernel)⟩
  · intro code h
    contradiction
  · have hargs : readArguments ["--loud"] = .error .usage := by decide +kernel
    rw [run, hargs]
    rfl

end Probe

end Grounding
