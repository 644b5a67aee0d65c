import ModelPilot.LedgerRuns

/-! The gateway over HTTP (`main.py`): what a client is told of its request, and where it
finds the request in `/v1/logs`. -/
namespace ModelPilot.ChatCompletions
open GatewayService GatewayRequest LedgerRuns MetricsStore SharedLogs

/-- The answer to a chat completion. An exception that no handler knows is answered by the
server itself. -/
inductive ChatAnswer where
  | ok (payload : Payload)
  | error (statusCode : Nat) (detail : Json)
  | serverError (error : PyError)
  | cancelled

def noProviderMessage : String := "no configured provider can serve the requested model"

/-- What the handlers of `chat_completions` make of the end of a request. -/
def answerOf : Completion → ChatAnswer
  | .returned payload => .ok payload
  | .noProviderAvailable _ => .error 503 (.str noProviderMessage)
  | .allProvidersFailed requestId =>
    .error 502 (.obj [("message", .str "all providers failed"), ("request_id", .str requestId)])
  | .raised error => .serverError error
  | .cancelled => .cancelled

variable {float decimal : Rounding} {ι : Type} [DecidableEq ι] {service : GatewayService}
  {requests : ι → GatewayRequest float} {initial ledger : Ledger}
  {history : List (LedgerEntry ι)}

/-- `chat_completions`: a streamed request is refused before it reaches the gateway. -/
def chatCompletions (service : GatewayService) (decimal : Rounding) (stream : Bool)
    (served : GatewayRequest float) : Option Completed × ChatAnswer :=
  if stream then (none, .error 400 (.str "streaming is not supported in V0.2"))
  else
    let completed := served.complete service decimal
    (some completed, answerOf completed.completion)

/-- `/v1/logs`. -/
def requestLogs (ledger : Ledger) : List RequestLog := ledger.logs.list

/-- The log was appended by the request, and is listed until the store's limit of others
was appended behind it. -/
def Listed (initial : Ledger) (history : List (LedgerEntry ι)) (ledger : Ledger) (request : ι)
    (log : RequestLog) : Prop :=
  ∃ before entry after, history = before ++ entry :: after ∧ entry.request = request ∧
    entry.call = .log log ∧
    ((after.filterMap fun later => logOf later.call).length < initial.logs.limit →
      log ∈ requestLogs ledger)

/-- What the answer to a finished request says about the ledger. -/
inductive Tells (initial : Ledger) (history : List (LedgerEntry ι)) (ledger : Ledger)
    (request : ι) (requestId : String) : ChatAnswer → Prop where
  | served {payload : Payload} {log : RequestLog}
      (listed : Listed initial history ledger request log)
      (own : log.requestId = requestId) (succeeded : log.success = true) (ends : EndsOnce log)
      (names : Names payload log) : Tells initial history ledger request requestId (.ok payload)
  | failed {log : RequestLog} (listed : Listed initial history ledger request log)
      (own : log.requestId = requestId) (refused : log.success = false) (ends : EndsOnce log)
      (tried : log.attempts ≠ []) :
      Tells initial history ledger request requestId
        (.error 502 (.obj [("message", .str "all providers failed"),
          ("request_id", .str log.requestId)]))
  | unavailable (attempts : ledger.attemptsOf requestId = [])
      (decisions : ledger.decisionsOf requestId = [])
      (unlogged : ∀ log, .log log ∉ callsOf history request) :
      Tells initial history ledger request requestId (.error 503 (.str noProviderMessage))
  | broken (error : PyError) : Tells initial history ledger request requestId (.serverError error)
  | cancelled (unlogged : ∀ log, .log log ∉ callsOf history request) :
      Tells initial history ledger request requestId .cancelled

theorem listed_of_call (serves : Serves service decimal requests initial history ledger)
    {request : ι} {log : RequestLog} (logged : .log log ∈ callsOf history request) :
    Listed initial history ledger request log := by
  obtain ⟨entry, member, called⟩ := List.mem_map.mp logged
  obtain ⟨inside, own⟩ := List.mem_filter.mp member
  obtain ⟨before, after, split⟩ := List.append_of_mem inside
  refine ⟨before, entry, after, split, by simpa using own, called, fun few => ?_⟩
  have list := (logs_kept serves).2
  have newest : (history.filterMap fun entry => logOf entry.call).reverse ++ initial.logs.list =
      (after.filterMap fun later => logOf later.call).reverse ++ log ::
        ((before.filterMap fun earlier => logOf earlier.call).reverse ++ initial.logs.list) := by
    rw [split, List.filterMap_append, List.filterMap_cons_some (by rw [called]; rfl)]
    simp
  rw [requestLogs, list, newest]
  exact mem_newest (by simpa using few)

/-- A client that gets a response or a failure finds its log under the identifier it was
given, and a client that was told there is no provider has left nothing. -/
theorem client_finds_its_log
    (distinct : ∀ one other,
      (requests one).requestId = (requests other).requestId → one = other)
    (fresh : ∀ request, initial.attemptsOf (requests request).requestId = [] ∧
      initial.decisionsOf (requests request).requestId = [])
    (serves : Serves service decimal requests initial history ledger) (request : ι)
    (finished : callsOf history request = (requests request).calls service decimal) :
    Tells initial history ledger request (requests request).requestId
      (chatCompletions service decimal false (requests request)).2 := by
  obtain ⟨course, ending, shape, concluded⟩ := calls_shape service decimal (requests request)
  have same := (answered service decimal (requests request)).completion
  have calls : callsOf history request =
      (course.effects.filterMap rowOf).map .attempt ++ ending := finished.trans shape.calls
  have attempts := rows_apart distinct fresh serves request
  have decisions := decisions_apart distinct fresh serves request
  have given : (chatCompletions service decimal false (requests request)).2 =
      answerOf ((requests request).accepting.complete service decimal).completion := by
    rw [← same]
    rfl
  have found : ∀ {log : RequestLog} {more : List LedgerCall}, ending = .log log :: more →
      .log log ∈ callsOf history request ∧ EndsOnce log := by
    intro log more head
    have logged : .log log ∈ callsOf history request := by
      rw [calls, head]
      exact List.mem_append_right _ List.mem_cons_self
    obtain ⟨_, _, _, told, about, _⟩ := log_cases shape (made serves request) logged
    exact ⟨logged, endsOnce_of_log told about⟩
  have unlogged (silent : ending = []) : ∀ log, .log log ∉ callsOf history request := by
    intro log member
    rw [calls, silent, List.append_nil] at member
    obtain ⟨_, _, other⟩ := List.mem_map.mp member
    cases other
  rw [given]
  generalize ((requests request).accepting.complete service decimal).completion = completion
    at concluded
  cases concluded with
  | returned about names =>
    obtain ⟨logged, ends⟩ := found rfl
    exact .served (listed_of_call serves logged) about.requestId about.success ends names
  | @failed log _ about tried =>
    obtain ⟨logged, ends⟩ := found rfl
    have told : Tells initial history ledger request (requests request).requestId
        (.error 502 (.obj [("message", .str "all providers failed"),
          ("request_id", .str log.requestId)])) :=
      .failed (listed_of_call serves logged) about.requestId about.success ends tried
    rwa [about.requestId] at told
  | unavailable rows =>
    rw [rows] at calls
    rw [calls] at attempts decisions
    refine .unavailable ?_ ?_ (unlogged rfl)
    · have none : takenAttempts (requests request) ([].map LedgerCall.attempt ++ []) = [] := rfl
      rw [none] at attempts
      exact List.forall₂_nil_right_iff.mp attempts
    · have none : takenDecisions (requests request) ([].map LedgerCall.attempt ++ []) = [] := by
        unfold takenDecisions
        split <;> rfl
      rw [none] at decisions
      exact List.forall₂_nil_right_iff.mp decisions
  | raised => exact .broken _
  | cancelled => exact .cancelled (unlogged rfl)

/-- One of two requests served in turns. -/
theorem answered_request_told : ∃ history ledger,
    Serves recordingGateway .exact twoRequests {} history ledger ∧
    Tells {} history ledger false (twoRequests false).requestId
      (chatCompletions recordingGateway .exact false (twoRequests false)).2 := by
  obtain ⟨history, ledger, serves, _, _, all⟩ := two_requests_served
  exact ⟨history, ledger, serves,
    client_finds_its_log twoRequests_distinct twoRequests_fresh serves false all⟩

end ModelPilot.ChatCompletions
