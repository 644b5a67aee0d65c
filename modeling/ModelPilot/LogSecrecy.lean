import ModelPilot.ChatCompletions
import ModelPilot.ErrorMessages

/-! Keys and the request logs: what upstreams answer to the adapters ends up in `/v1/logs`,
and the keys of the adapters do not, whatever the requests and however they interleave. -/
namespace ModelPilot.LogSecrecy
open GatewayService GatewayRequest LedgerRuns ErrorMessages CandidateCalls ChatCompletions

/-! ### Adapters of a gateway -/

/-- The adapters of the gateway, by the names of their providers. -/
abbrev Adapters := String → Option Adapter

/-- How a call through an adapter can end, whatever its upstream answers and its clock reads:
with the outcome or the exception of the adapter, or with a cancellation. -/
inductive Through (isalnum : Char → Bool) (adapter : Adapter) (model : String) :
    CallResult → Prop where
  | outcome {client : HttpRequest → Except CallError HttpResponse} {world : CallWorld}
      {request : ChatRequest} {outcome : ProviderOutcome}
      (completed : adapter.complete (sanitizeErrorMessage isalnum) client world request model =
        .ok outcome) : Through isalnum adapter model (.outcome outcome)
  | raised {client : HttpRequest → Except CallError HttpResponse} {world : CallWorld}
      {request : ChatRequest} {error : PyError}
      (completed : adapter.complete (sanitizeErrorMessage isalnum) client world request model =
        .error error) : Through isalnum adapter model (.raised error)
  | cancelled : Through isalnum adapter model .cancelled

variable {float decimal : Rounding} {service : GatewayService} {isalnum : Char → Bool}
  {adapters : Adapters}

/-- The candidates of a request are called through the adapters of their providers. -/
def CallsThrough (isalnum : Char → Bool) (adapters : Adapters) (service : GatewayService)
    (decimal : Rounding) (served : GatewayRequest float) : Prop :=
  ∀ ranked routing, service.router.rankWithExplanation decimal served.world.ranking
      served.request.model served.request.preferences served.world.requestId =
    .ok (ranked, routing) →
  ∀ index item, ranked[index]? = some item → ∀ adapter,
    adapters item.candidate.provider = some adapter →
      Through isalnum adapter item.candidate.model (served.world.attempts index).result

/-- No error of the log has the key of the adapter that was called. -/
def Hides (adapters : Adapters) (log : RequestLog) : Prop :=
  ∀ attempt ∈ log.attempts, ∀ adapter, adapters attempt.provider = some adapter →
    ∀ secret, adapter.provider.apiKey = some secret →
      ∀ message ∈ attempt.error, ¬ Occurs secret message

/-- The keys are keys. -/
def Keyed (adapters : Adapters) : Prop :=
  ∀ name adapter, adapters name = some adapter →
    ∀ secret, adapter.provider.apiKey = some secret → IsKey secret

/-! ### One call -/

section Calls
variable {adapter : Adapter} {model secret : String} {result : CallResult}

/-- An exception of a validation, which no provider raises on its own. -/
def IsValue (error : PyError) : Prop := ∃ message, error = .value message

theorem require_value {condition : Prop} [Decidable condition] {message : String} {error : PyError}
    (refused : require condition message = .error error) : IsValue error := by
  unfold require at refused
  split at refused
  · cases refused
  · cases refused
    exact ⟨message, rfl⟩

theorem then_value {first rest : Except PyError Unit} {error : PyError}
    (early : ∀ error, first = .error error → IsValue error)
    (late : ∀ error, rest = .error error → IsValue error)
    (refused : (first >>= fun _ => rest) = .error error) : IsValue error := by
  cases first with
  | error raised =>
    cases refused
    exact early _ rfl
  | ok value => exact late _ refused

theorem shape_value {fields : OutcomeFields} {error : PyError}
    (refused : fields.validateOutcomeShape = .error error) : IsValue error := by
  refine then_value (fun _ => require_value) (fun _ late => ?_) refused
  split at late
  · exact then_value (fun _ => require_value) (fun _ => require_value) late
  · exact then_value (fun _ => require_value) (fun _ => require_value) late

theorem check_value {fields : OutcomeFields} {error : PyError}
    (refused : fields.check = .error error) : IsValue error := by
  refine then_value (fun _ => require_value) (fun _ late => ?_) refused
  refine then_value (fun _ => require_value) (fun _ late => ?_) late
  refine then_value (fun _ early => ?_) (fun _ late => ?_) late
  · cases code : fields.statusCode with
    | none =>
      rw [code] at early
      cases early
    | some code_ =>
      rw [code] at early
      exact require_value early
  · exact then_value (fun _ => require_value) (fun _ => shape_value) late

theorem modelValidate_value {sanitize : String → List String → String} {fields : OutcomeFields}
    {error : PyError} (refused : ProviderOutcome.modelValidate sanitize fields = .error error) :
    IsValue error := by
  unfold ProviderOutcome.modelValidate at refused
  split at refused
  · rename_i raised accepted
    cases refused
    exact check_value accepted
  · cases refused

/-- An adapter raises nothing but the exceptions of its own validation. -/
theorem complete_value {sanitize : String → List String → String} {error : PyError}
    {client : HttpRequest → Except CallError HttpResponse} {world : CallWorld}
    {request : ChatRequest} (refused : adapter.complete sanitize client world request model =
      .error error) : IsValue error := by
  rw [Adapter.complete_eq] at refused
  unfold Provider.call at refused
  split at refused
  · exact modelValidate_value refused
  · split at refused
    · exact modelValidate_value refused
    · split at refused
      · cases refused
      · exact modelValidate_value refused

/-- What the log of a call through an adapter says of its error. -/
theorem attemptLog_hides (key : IsKey secret) (held : adapter.provider.apiKey = some secret)
    (item : RankedCandidate) (world : AttemptWorld) {ended : CallResult}
    (through : Through isalnum adapter model world.result)
    (kept : ended = world.result ∨ ∃ error, ended = .raised error ∧ ∀ message,
      error ≠ .providerError message) (success : Bool) :
    ∀ message ∈ (service.attemptLog item world ended success).error, ¬ Occurs secret message := by
  rcases kept with rfl | ⟨error, rfl, foreign⟩
  · generalize ended : world.result = result at through
    cases through with
    | outcome completed =>
      cases success with
      | true => nofun
      | false => exact complete_hides_key adapter key held completed
    | raised completed =>
      obtain ⟨message, rfl⟩ := complete_value completed
      cases success <;> nofun
    | cancelled => cases success <;> nofun
  · cases success with
    | true => nofun
    | false =>
      cases error with
      | providerError message => exact absurd rfl (foreign message)
      | _ => nofun

end Calls

/-! ### One request -/

section Requests
variable {requestedModel requestId : String} {attempts : Nat → AttemptWorld} {position : Position}
  {served : GatewayRequest float} {log : RequestLog}

/-- The log of a turn is about the call of its candidate. -/
theorem logAt_called {attempt : AttemptLog}
    (logged : service.logAt requestedModel requestId attempts position = some attempt) :
    ∃ ended success, attempt = service.attemptLog position.1 (attempts position.2) ended success ∧
      (ended = (attempts position.2).result ∨ ended = .raised .overflow) := by
  unfold logAt next at logged
  cases service.turn requestedModel requestId attempts position with
  | undecided _ _ invoked =>
    rw [invoked] at logged
    cases logged
  | refused _ _ _ _ invoked =>
    rw [invoked] at logged
    cases logged
  | called _ _ _ _ _ invoked =>
    rw [invoked] at logged
    have kept : (afterCall service.health (attempts position.2).managerStore
          (attempts position.2).result).2 = (attempts position.2).result ∨
        (afterCall service.health (attempts position.2).managerStore
          (attempts position.2).result).2 = .raised .overflow := by
      rcases afterCall_cases service (attempts position.2) with ⟨_, same⟩ | ⟨_, raised⟩
      · exact .inl same
      · exact .inr (congrArg Prod.snd raised)
    dsimp only at logged
    split at logged
    · cases logged
      exact ⟨_, false, rfl, kept⟩
    · cases logged
      exact ⟨_, true, rfl, kept⟩
    · cases logged

/-- The attempts of a loop hide the keys of the adapters. -/
theorem course_hides {ranked : List RankedCandidate} (keyed : Keyed adapters)
    (through : ∀ index item, ranked[index]? = some item → ∀ adapter,
      adapters item.candidate.provider = some adapter →
        Through isalnum adapter item.candidate.model (attempts index).result) :
    ∀ attempt ∈ (service.course requestedModel requestId attempts 0 ranked).attempts,
      ∀ adapter, adapters attempt.provider = some adapter →
        ∀ secret, adapter.provider.apiKey = some secret →
          ∀ message ∈ attempt.error, ¬ Occurs secret message := by
  intro attempt member adapter named secret held
  rw [course_eq] at member
  obtain ⟨position, reached, logged⟩ := List.mem_filterMap.mp member
  have place : ranked[position.2]? = some position.1 :=
    List.mem_zipIdx_iff_getElem?.mp (Prefixes.mem_of_mem_upTo reached)
  obtain ⟨ended, success, rfl, kept⟩ := logAt_called logged
  have called := through position.2 position.1 place adapter named
  apply attemptLog_hides (keyed _ adapter named secret held) held _ _ called
  rcases kept with same | overflowed
  · exact .inl same
  · exact .inr ⟨.overflow, overflowed, nofun⟩

/-- Every log of a request tells the attempts of its loop. -/
theorem log_of_calls (logged : .log log ∈ served.calls service decimal) :
    ∃ ranked routing, service.router.rankWithExplanation decimal served.world.ranking
        served.request.model served.request.preferences served.world.requestId =
      .ok (ranked, routing) ∧
      log.attempts = (courseOf service served.request served.accepting.world ranked).attempts := by
  unfold calls GatewayRequest.complete at logged
  cases ranks : service.router.rankWithExplanation decimal served.accepting.world.ranking
      served.accepting.request.model served.accepting.request.preferences
      served.accepting.world.requestId with
  | error error =>
    rw [GatewayService.complete, ranks] at logged
    cases logged
  | ok result =>
    obtain ⟨ranked, routing⟩ := result
    refine ⟨ranked, routing, ranks, ?_⟩
    by_cases empty : ranked = []
    · subst empty
      rw [complete_of_unranked _ ranks] at logged
      cases logged
    · rw [complete_of_ranked _ ranks empty] at logged
      obtain ⟨ending, shape, ends, _⟩ := calls_of_conclude ranks
      rw [shape] at logged
      rcases List.mem_append.mp logged with row | last
      · obtain ⟨_, _, same⟩ := List.mem_map.mp row
        cases same
      · cases ends with
        | silent => cases last
        | logged _ about =>
          cases List.mem_singleton.mp last
          exact about.attempts
        | decided _ about _ =>
          rcases List.mem_cons.mp last with same | other
          · cases same
            exact about.attempts
          · cases List.mem_singleton.mp other

theorem log_hides (keyed : Keyed adapters)
    (through : CallsThrough isalnum adapters service decimal served)
    (logged : .log log ∈ served.calls service decimal) : Hides adapters log := by
  obtain ⟨ranked, routing, ranks, attempts⟩ := log_of_calls logged
  unfold Hides
  rw [attempts]
  exact course_hides keyed (through ranked routing ranks)

end Requests

/-! ### Every run -/

section Runs
variable {ι : Type} [DecidableEq ι] {requests : ι → GatewayRequest float}
  {initial ledger : Ledger} {history : List (LedgerEntry ι)}

/-- However requests interleave, and whatever their upstreams answer, `/v1/logs` never shows
the key of an adapter in the error of a call through it. -/
theorem no_key_is_logged (keyed : Keyed adapters)
    (through : ∀ request, CallsThrough isalnum adapters service decimal (requests request))
    (clean : ∀ log ∈ requestLogs initial, Hides adapters log)
    (serves : Serves service decimal requests initial history ledger) :
    ∀ log ∈ requestLogs ledger, Hides adapters log := by
  intro log listed
  rw [requestLogs, (logs_kept serves).2] at listed
  rcases List.mem_append.mp (List.mem_of_mem_take listed) with added | kept
  · obtain ⟨entry, member, called⟩ := List.mem_filterMap.mp (List.mem_reverse.mp added)
    have call : entry.call = .log log := by
      cases same : entry.call with
      | log item =>
        rw [same] at called
        exact congrArg LedgerCall.log (Option.some.inj called)
      | _ =>
        rw [same] at called
        cases called
    have own : .log log ∈ callsOf history entry.request := by
      apply List.mem_map.mpr
      exact ⟨entry, List.mem_filter.mpr ⟨member, decide_eq_true rfl⟩, call⟩
    exact log_hides keyed (through entry.request) ((made serves entry.request).subset own)
  · exact clean log kept

end Runs

section EchoedKey
open Adapter (forwardWorld greeting)

private theorem echo_named : "p" ≠ "" := by decide

/-- An adapter whose upstream cannot be reached, for a reason that names the key. -/
def echoAdapter : Adapter :=
  .openAICompatible (.create "p" (some "sk-1") "https://provider.test/v1" echo_named)

def echoAdapters : Adapters := fun name => if name = "p" then some echoAdapter else none

def echoCall : Except PyError ProviderOutcome :=
  echoAdapter.complete (sanitizeErrorMessage Char.isAlphanum)
    (fun _ => .error { message := "no route for sk-1" }) forwardWorld greeting "n"

def echoOutcome : ProviderOutcome := echoCall.toOption.getD timedOut

def echoRequest : Unit → GatewayRequest .exact := fun _ =>
  ⟨qualityRequest, { answeringWorld with
    attempts := fun _ =>
      { reading := .utc 0, result := .outcome echoOutcome
        managerStore := fun _ => ⟨.ok none, none⟩ } }⟩

private theorem echo_told : echoCall.toOption.map (·.errorMessage) =
    some (some "p request failed: no route for [REDACTED]") := by
  decide +kernel

private theorem echo_completed : echoCall = .ok echoOutcome := by
  cases called : echoCall with
  | error error =>
    have told := echo_told
    rw [called] at told
    cases told
  | ok outcome =>
    unfold echoOutcome
    rw [called]
    rfl

private theorem echo_keyed : Keyed echoAdapters := by
  intro name adapter named secret held
  unfold echoAdapters at named
  split at named
  · cases named
    cases held
    exact ⟨by decide, by decide, by decide⟩
  · cases named

private theorem echo_ranks : ((soleGateway.router.rankWithExplanation .exact
    (echoRequest ()).world.ranking (echoRequest ()).request.model
    (echoRequest ()).request.preferences (echoRequest ()).world.requestId).toOption.map
      fun result => result.1.map (·.candidate.key)) = some [("p", "n")] := by
  decide +kernel

private theorem echo_through :
    CallsThrough Char.isAlphanum echoAdapters soleGateway .exact (echoRequest ()) := by
  intro ranked routing ranks index item place adapter named
  have keys := echo_ranks
  rw [ranks] at keys
  have listed : item.candidate.key ∈ [("p", "n")] := by
    rw [← Option.some.inj keys]
    exact List.mem_map_of_mem (List.mem_of_getElem? place)
  obtain ⟨provider, model⟩ := Prod.mk.inj (List.mem_singleton.mp listed)
  unfold echoAdapters at named
  rw [if_pos provider] at named
  cases named
  rw [model]
  exact .outcome echo_completed

theorem echoed_key_is_hidden : ∃ history ledger,
    Serves soleGateway .exact echoRequest {} history ledger ∧
      (requestLogs ledger).map (·.attempts.map (·.error)) =
        [[some "p request failed: no route for [REDACTED]"]] ∧
      ∀ log ∈ requestLogs ledger, Hides echoAdapters log := by
  have ends : ((serve soleGateway .exact echoRequest [()] ([], {})).map fun moment =>
      (requestLogs moment.2).map (·.attempts.map (·.error))) =
        some [[some "p request failed: no route for [REDACTED]"]] := by
    decide +kernel
  obtain ⟨⟨history, ledger⟩, served, shown⟩ := Option.map_eq_some_iff.mp ends
  have serves : Serves soleGateway .exact echoRequest {} history ledger :=
    serves_serve .start served
  exact ⟨history, ledger, serves, shown,
    no_key_is_logged echo_keyed (fun _ => echo_through) (List.forall_mem_nil _) serves⟩

end EchoedKey

end ModelPilot.LogSecrecy
