import Grounding.Proofs.Gateway.Change
import Grounding.Proofs.Json.Scalars

/-!
# What a step sends

Only an enabled gateway with a link sends anything, and it sends through that link.  A step sends one
request or none: a question if there is a query and the request can be made, or a look at the health.
-/

namespace Grounding

/-! ## Questions -/

namespace Settings

/-- The number of results can be written as a numeral. -/
def IsWritable (s : Settings) : Prop := s.maxResults.natAbs < Nat.pow 10 numeralDigitLimit

instance (s : Settings) : Decidable s.IsWritable := Nat.decLt _ _

/-- The body of a question: the query, what the settings say about the answer, and the session if
there is one. -/
def questionBody (s : Settings) (query session : String) : Json :=
  .obj ([("query", .str query), ("max_results", .int s.maxResults),
    ("similarity_threshold", .real s.similarityThreshold),
    ("include_tools", .bool s.includeTools)] ++
    if session = "" then [] else [("session_id", .str session)])

theorem augmentBody_values (s : Settings) (query session : String) :
    augmentBody s.values (.str query) (.str session) = s.questionBody query session := by
  unfold augmentBody questionBody values
  by_cases hsession : session = ""
  · simp [Json.isNothing, hsession]
  · simp [Json.isNothing, hsession]

/-- Only the number of results can keep a question of checked settings from being written. -/
theorem writeFault?_questionBody {s : Settings} (hs : s.Valid) (query session : String) :
    (s.questionBody query session).writeFault? = none ↔ s.IsWritable := by
  rw [Json.writeFault?_eq_none_iff]
  by_cases h : session = "" <;>
    simp [questionBody, h, hs.isFinite_threshold, Json.shortInteger_int, IsWritable]

/-- A question can be written, and its texts have an encoding. -/
structure CanSend (s : Settings) (query session : String) : Prop where
  isWritable : s.IsWritable
  query : Text.isWhole query = true
  session : Text.isWhole session = true

theorem canSend_iff {s : Settings} {query session : String} :
    s.CanSend query session ↔
      s.IsWritable ∧ Text.isWhole query = true ∧ Text.isWhole session = true :=
  ⟨fun h => ⟨h.isWritable, h.query, h.session⟩, fun h => ⟨h.1, h.2.1, h.2.2⟩⟩

instance (s : Settings) (query session : String) : Decidable (s.CanSend query session) :=
  decidable_of_iff' _ canSend_iff

/-- The names in a question have an encoding, so that it depends on the query and the session. -/
theorem isWhole_questionBody (s : Settings) (query session : String) :
    (s.questionBody query session).isWhole = (Text.isWhole query && Text.isWhole session) := by
  have hnames : Text.isWhole "query" = true ∧ Text.isWhole "max_results" = true ∧
      Text.isWhole "similarity_threshold" = true ∧ Text.isWhole "include_tools" = true ∧
      Text.isWhole "session_id" = true := by
    decide
  obtain ⟨hquery, hresults, hthreshold, htools, hsession⟩ := hnames
  have hempty : Text.isWhole "" = true := by decide
  rw [Bool.eq_iff_iff]
  by_cases h : session = ""
  · simp [questionBody, h, hquery, hresults, hthreshold, htools, hempty]
  · simp [questionBody, h, hquery, hresults, hthreshold, htools, hsession]

theorem sendFault?_questionBody {s : Settings} (hs : s.Valid) (query session : String) :
    (s.questionBody query session).sendFault? = none ↔ s.CanSend query session := by
  rw [Json.sendFault?_eq_none_iff, writeFault?_questionBody hs, isWhole_questionBody,
    Bool.and_eq_true, canSend_iff]

end Settings

/-- The first half of a surrogate pair, alone. -/
def Text.loneHalf : String := String.ofList (Text.ofPoint 0xD83D)

theorem Text.isWhole_loneHalf : Text.isWhole Text.loneHalf = false := by decide

/-- A service that gives the same answer to everything, at once. -/
def Service.always (answer : Answer) : Service :=
  ⟨.zero, ⟨.zero, answer⟩, ⟨.zero, answer⟩, .usual⟩

namespace Link

variable {link : Link} {r : Request}

theorem augmentRequest_eq_ok_iff {body : Json} :
    link.augmentRequest body = .ok r ↔ body.sendFault? = none ∧
      ∃ url, link.client.binding.augment = .url url ∧
        r = ⟨link.client.number, .post, url, link.client.timeout, some body⟩ := by
  unfold augmentRequest
  cases link.client.binding.augment with
  | fails detail => simp
  | url url => cases body.sendFault? <;> simp [eq_comm]

theorem augmentRequest_sends_iff {body : Json} :
    (link.augmentRequest body).toOption.toList ≠ [] ↔
      body.sendFault? = none ∧ ∃ url, link.client.binding.augment = .url url := by
  unfold augmentRequest
  cases link.client.binding.augment with
  | fails detail => simp [Except.toOption]
  | url url => cases body.sendFault? <;> simp [Except.toOption]

theorem healthRequest_eq_ok_iff :
    link.healthRequest = .ok r ↔
      ∃ url, link.client.binding.health = .url url ∧
        r = ⟨link.client.number, .get, url, link.client.timeout, none⟩ := by
  unfold healthRequest
  cases link.client.binding.health with
  | fails detail => simp
  | url url => simp [eq_comm]

end Link

/-- A change sends nothing. -/
@[simp] theorem Session.ofChange_requests (change : Except LinkFault Unit × Gateway × Nat) :
    (ofChange change).requests = [] := by
  rcases change with ⟨fault | done, g, notices⟩ <;> rfl

namespace Gateway

variable {g : Gateway} {link : Link}

/-! ## Through which link -/

theorem mem_ask_requests {body : Json} {service : Service} {r : Request}
    (hr : r ∈ (g.ask body service).requests) :
    ∃ link, g.link = some link ∧ link.augmentRequest body = .ok r := by
  unfold ask at hr
  split at hr
  · simp [still] at hr
  · next link hlink =>
    split at hr
    · simp [still] at hr
    · next request hrequest =>
      obtain rfl : r = request := by simpa using hr
      exact ⟨link, hlink, hrequest⟩

theorem mem_augmentFor_requests {session : Json} {query : String} {service : Service} {r : Request}
    (hr : r ∈ (g.augmentFor session query service).requests) :
    g.settings.isEnabled = true ∧
      ∃ link body, g.link = some link ∧ link.augmentRequest body = .ok r := by
  unfold augmentFor at hr
  split_ifs at hr with hoff hquery
  · simp [still] at hr
  · simp [still] at hr
  · obtain ⟨link, hlink, hask⟩ := mem_ask_requests hr
    exact ⟨by simpa using hoff, link, _, hlink, hask⟩

/-- Whatever a step sends goes through the link of an enabled gateway. -/
theorem mem_step_requests {op : Operation} {r : Request} (hr : r ∈ (Session.step g op).requests) :
    g.settings.isEnabled = true ∧ ∃ link, g.link = some link ∧
      ((∃ body, link.augmentRequest body = .ok r) ∨ link.healthRequest = .ok r) := by
  cases op with
  | update new => simp [Session.step] at hr
  | close => simp [Session.step] at hr
  | readSettings => simp [Session.step] at hr
  | augment query session service =>
      obtain ⟨hon, link, body, hlink, hmade⟩ := mem_augmentFor_requests hr
      exact ⟨hon, link, hlink, .inl ⟨body, hmade⟩⟩
  | checkHealth service =>
      simp only [Session.step, Session.ofOutcome] at hr
      unfold isHealthy at hr
      split_ifs at hr with hoff
      · simp [still] at hr
      · split at hr
        · simp [still] at hr
        · next link hlink =>
          split at hr
          · simp [still] at hr
          · next request hmade =>
            obtain rfl : r = request := by simpa using hr
            exact ⟨by simpa using hoff, link, hlink, .inr hmade⟩
  | prepare messages options session today service =>
      simp only [Session.step, Session.ofOutcome, prepare] at hr
      unfold prepareFor at hr
      dsimp only at hr
      split_ifs at hr with hgate
      · obtain ⟨hon, link, body, hlink, hmade⟩ := mem_augmentFor_requests hr
        exact ⟨hon, link, hlink, .inl ⟨body, hmade⟩⟩
      · simp [still] at hr

/-- A request goes out by the client of the link and waits as long as it does. -/
theorem client_of_mem_step {op : Operation} {r : Request} (hr : r ∈ (Session.step g op).requests) :
    g.settings.isEnabled = true ∧ ∃ link, g.link = some link ∧
      r.client = link.client.number ∧ r.timeout = link.client.timeout := by
  obtain ⟨hon, link, hlink, ⟨body, hmade⟩ | hmade⟩ := mem_step_requests hr
  · obtain ⟨-, url, -, rfl⟩ := Link.augmentRequest_eq_ok_iff.1 hmade
    exact ⟨hon, link, hlink, rfl, rfl⟩
  · obtain ⟨url, -, rfl⟩ := Link.healthRequest_eq_ok_iff.1 hmade
    exact ⟨hon, link, hlink, rfl, rfl⟩

theorem step_requests_of_disabled (hoff : g.settings.isEnabled = false) (op : Operation) :
    (Session.step g op).requests = [] := by
  rw [List.eq_nil_iff_forall_not_mem]
  intro r hr
  obtain ⟨hon, -⟩ := mem_step_requests hr
  rw [hoff] at hon
  contradiction

theorem step_requests_of_unlinked (hlink : g.link = none) (op : Operation) :
    (Session.step g op).requests = [] := by
  rw [List.eq_nil_iff_forall_not_mem]
  intro r hr
  obtain ⟨-, link, hsome, -⟩ := mem_step_requests hr
  rw [hlink] at hsome
  contradiction

/-! ## Which requests -/

/-- A linked gateway asks if the request can be made. -/
theorem ask_requests (hlink : g.link = some link) (body : Json) (service : Service) :
    (g.ask body service).requests = (link.augmentRequest body).toOption.toList := by
  unfold ask
  rw [hlink]
  dsimp only
  cases link.augmentRequest body <;> rfl

theorem augmentFor_requests (hon : g.settings.isEnabled = true) (hlink : g.link = some link)
    (session : Json) (query : String) (service : Service) :
    (g.augmentFor session query service).requests =
      if query = "" then []
      else (link.augmentRequest (augmentBody g.settings (.str query) session)).toOption.toList := by
  unfold augmentFor
  by_cases hquery : query = ""
  · simp [hon, hquery, still]
  · simp [hon, hquery, ask_requests hlink]

theorem isHealthy_requests (hon : g.settings.isEnabled = true) (hlink : g.link = some link)
    (service : Service) :
    (g.isHealthy service).requests = link.healthRequest.toOption.toList := by
  unfold isHealthy
  rw [hon, hlink]
  dsimp only
  cases link.healthRequest <;> rfl

end Gateway

end Grounding
