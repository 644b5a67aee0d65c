import ModelPilot.AttemptRecords
import ModelPilot.CandidateCalls
import ModelPilot.ModelRouter

/-! One request through the gateway (`GatewayService.complete`): ranking, the
fallback loop over the ranked candidates, and what is logged, persisted and
returned at its end. -/
namespace ModelPilot

/-- The parts of a chat completion request that routing reads. -/
structure ChatCompletionRequest (float : Rounding) where
  model : String := "auto"
  preferences : RoutingPreferences float

/-- A gateway with its optional stores; `metrics` and `probes` say whether it has
one. Error messages are sanitized, and explanations dumped to JSON. -/
structure GatewayService where
  router : ModelRouter
  metrics : Bool := false
  health : Option ProviderHealthManager := none
  probes : Bool := false
  sanitizeErrorMessage : String → String
  modelDump : RoutingExplanation → Json

/-- What happens around one candidate: the clock, the health records and the
leases when it is admitted, the end of its call and how long it took, and what
its store operations give. -/
structure AttemptWorld where
  reading : Datetime
  healthStore : Option HealthReads := none
  probes : HalfOpenProbeCoordinator := {}
  result : CallResult
  elapsedMs : ℚ := 0
  createdAt : Int := 0
  getPricing : Except PyError (Option ModelPricing) := .ok none
  recordAttempt : Option PyError := none
  managerStore : Key → HealthStoreCall

/-- What happens around one request; `attempts` by attempt index. -/
structure RequestWorld (float : Rounding) where
  uuidHex : String
  ranking : RankingReads float
  attempts : Nat → AttemptWorld
  elapsedMs : ℚ := 0
  createdAt : String := ""
  recordRoutingDecision : Option PyError := none

def RequestWorld.requestId {float : Rounding} (world : RequestWorld float) : String :=
  "req_" ++ world.uuidHex

/-- What a request does to its surroundings, in order. -/
inductive GatewayEffect where
  | called (key : Key) (attemptIndex : Nat)
  | attemptRow (attempt : AttemptRecord)
  | healthWrite (health : ProviderHealth)
  | released (lease : ProbeLease)
  | requestLogged (log : RequestLog)
  | decisionRecorded (decision : RoutingDecision)

/-- How `complete` ends. -/
inductive Completion where
  | returned (payload : Payload)
  | noProviderAvailable (routing : Option RoutingExplanation)
  | allProvidersFailed (requestId : String)
  | raised (error : PyError)
  | cancelled

namespace GatewayService
open CandidateCalls

variable {float : Rounding} (service : GatewayService)

/-- `_record_provider_attempt`. -/
def recordProviderAttempt (world : AttemptWorld) (outcome : ProviderOutcome) (requestId : String)
    (attemptIndex : Nat) : List GatewayEffect :=
  if ¬ service.metrics then []
  else
    let pricing := world.getPricing.toOption.join
    match attemptFromOutcome outcome requestId attemptIndex pricing world.createdAt with
    | .error _ => []
    | .ok attempt => if world.recordAttempt.isSome then [] else [.attemptRow attempt]

/-- The row of a result; only an outcome leaves one. -/
def recordResult (world : AttemptWorld) (requestId : String) (attemptIndex : Nat) :
    List GatewayEffect :=
  match world.result with
  | .outcome outcome => service.recordProviderAttempt world outcome requestId attemptIndex
  | _ => []

/-- What `_invoke_candidate` did: its entry in `health_updates`, its effects, and
how it ended. -/
structure Invocation where
  update : Option HealthEligibility := none
  effects : List GatewayEffect := []
  ended : CallResult

/-- The call of an admitted candidate; the lease is released whatever happens. -/
def callCandidate (world : AttemptWorld) (key : Key) (requestId : String) (attemptIndex : Nat)
    (lease : Option ProbeLease) : List GatewayEffect × CallResult :=
  let recorded := service.recordResult world requestId attemptIndex
  let (written, ended) := afterCall service.health world.managerStore world.result
  (.called key attemptIndex :: recorded ++ (written.map .healthWrite).toList ++
    (lease.map .released).toList, ended)

/-- `_invoke_candidate`. -/
def invokeCandidate (requestedModel : String) (world : AttemptWorld) (key : Key)
    (requestId : String) (attemptIndex : Nat) : Invocation :=
  if requestedModel = "auto" ∧ service.probes then
    match admitProbe world.healthStore world.probes world.reading key with
    | .error error => { ended := .raised error }
    | .ok (admission, _) =>
      if admission.evidence.eligible then
        let (effects, ended) :=
          service.callCandidate world key requestId attemptIndex admission.lease
        { update := some admission.evidence, effects, ended }
      else
        { update := some admission.evidence
          effects := (admission.lease.map .released).toList
          ended := .raised .candidateUnavailable }
  else
    let (effects, ended) := service.callCandidate world key requestId attemptIndex none
    { effects, ended }

/-- The log of a call: an outcome has its own latency and message, a raised error
is timed and sanitized here. -/
def attemptLog (item : RankedCandidate) (world : AttemptWorld) (ended : CallResult)
    (success : Bool) : AttemptLog where
  provider := item.candidate.provider
  model := item.candidate.model
  score := item.score
  latencyMs :=
    match ended with
    | .outcome outcome => roundDigits 2 outcome.latencyMs
    | _ => roundDigits 2 world.elapsedMs
  success
  error :=
    match success, ended with
    | false, .outcome outcome => outcome.errorMessage
    | false, .raised (.providerError message) => some (service.sanitizeErrorMessage message)
    | _, _ => none

/-- How the loop over the candidates ends. -/
inductive LoopEnd where
  | exhausted
  | served (item : RankedCandidate) (response : Payload)
  | escaped (error : PyError)
  | cancelled

/-- What the loop does from some candidate on. -/
structure Course where
  attempts : List AttemptLog := []
  updates : List (Key × HealthEligibility) := []
  effects : List GatewayEffect := []
  ended : LoopEnd

/-- An invocation, with the log of its call if it has one, before the rest. -/
def Course.after (later : Course) (key : Key) (invocation : Invocation)
    (log : Option AttemptLog) : Course where
  attempts := log.toList ++ later.attempts
  updates := (invocation.update.map (key, ·)).toList ++ later.updates
  effects := invocation.effects ++ later.effects
  ended := later.ended

/-- The loop over the ranked candidates, from an attempt index on. -/
def course (requestedModel requestId : String) (attempts : Nat → AttemptWorld) :
    Nat → List RankedCandidate → Course
  | _, [] => { ended := .exhausted }
  | index, item :: rest =>
    let world := attempts index
    let key := item.candidate.key
    let invocation := service.invokeCandidate requestedModel world key requestId index
    let log := service.attemptLog item world invocation.ended
    match nextStep invocation.ended with
    | .skipped =>
      (course requestedModel requestId attempts (index + 1) rest).after key invocation none
    | .failed _ =>
      (course requestedModel requestId attempts (index + 1) rest).after key invocation
        (some (log false))
    | .served response =>
      Course.after { ended := .served item response } key invocation (some (log true))
    | .escaped error => Course.after { ended := .escaped error } key invocation none
    | .cancelled => Course.after { ended := .cancelled } key invocation none

/-- `_record`. -/
def requestLog (request : ChatCompletionRequest float) (world : RequestWorld float)
    (attempts : List AttemptLog) (selected : Option RankedCandidate) :
    GatewayEffect :=
  .requestLogged
    { requestId := world.requestId
      requestedModel := request.model
      selectedProvider := selected.map (·.candidate.provider)
      selectedModel := selected.map (·.candidate.model)
      success := selected.isSome
      totalLatencyMs := roundDigits 2 world.elapsedMs
      attempts
      createdAt := world.createdAt }

/-- `_record_routing_decision`. -/
def recordRoutingDecision (world : RequestWorld float) (explanation : RoutingExplanation) :
    List GatewayEffect :=
  if ¬ service.metrics ∨ explanation.selected = none then []
  else
    match RoutingDecision.fromExplanation explanation with
    | .error _ => []
    | .ok decision =>
      if world.recordRoutingDecision.isSome then [] else [.decisionRecorded decision]

/-- What the gateway adds to a response under `modelpilot`. -/
def extension (requestId : String) (item : RankedCandidate) (attempts : List AttemptLog)
    (routing : Option RoutingExplanation) : List (String × Json) :=
  [("request_id", .str requestId), ("provider", .str item.candidate.provider),
    ("score", .float item.score), ("attempts", .int attempts.length),
    ("served_by", .obj [("provider", .str item.candidate.provider),
      ("model", .str item.candidate.model)])] ++
  (routing.map fun routing => ("routing", service.modelDump routing)).toList

/-- `setdefault` and `update` of the `modelpilot` member; only an object has an
`update`. -/
def extend (response : Payload) (members : List (String × Json)) : Except PyError Payload :=
  let update (previous : List (String × Json)) : Payload :=
    response.set "modelpilot" (.obj (members.foldl
      (fun object member => DictEntries.insert member.1 member.2 object) previous))
  match response.get? "modelpilot" with
  | none => .ok (update [])
  | some (.obj previous) => .ok (update previous)
  | some _ => .error .attribute

/-- What a request did and how it ended. -/
structure Completed where
  effects : List GatewayEffect := []
  attempts : List AttemptLog := []
  completion : Completion

/-- The explanation after the loop: verdicts of the admissions, then the served
pair. -/
def finalRouting (routing : Option RoutingExplanation) (updates : List (Key × HealthEligibility))
    (servedBy : Option Key) : Except PyError (Option RoutingExplanation) :=
  match routing with
  | none => .ok none
  | some routing => do
    let updated ← routing.withHealthUpdates (Dict.ofList updates)
    match servedBy with
    | none => .ok (some updated)
    | some (provider, model) => do
      let served ← updated.withServedBy provider model
      .ok (some served)

/-- The end of a request, after the loop. -/
def conclude (request : ChatCompletionRequest float) (world : RequestWorld float)
    (routing : Option RoutingExplanation) (course : Course) : Completed :=
  match course.ended with
  | .escaped error =>
    { effects := course.effects, attempts := course.attempts, completion := .raised error }
  | .cancelled =>
    { effects := course.effects, attempts := course.attempts, completion := .cancelled }
  | .served item response =>
    let logged :=
      course.effects ++ [requestLog request world course.attempts (some item)]
    match finalRouting routing course.updates (some item.candidate.key) with
    | .error error =>
      { effects := logged, attempts := course.attempts, completion := .raised error }
    | .ok routing =>
      { effects := logged ++ routing.elim [] (service.recordRoutingDecision world)
        attempts := course.attempts
        completion :=
          match extend response (service.extension world.requestId item course.attempts routing) with
          | .ok payload => .returned payload
          | .error error => .raised error }
  | .exhausted =>
    match finalRouting routing course.updates none with
    | .error error =>
      { effects := course.effects, attempts := course.attempts, completion := .raised error }
    | .ok routing =>
      if course.attempts.isEmpty then
        { effects := course.effects, completion := .noProviderAvailable routing }
      else
        { effects := course.effects ++
            requestLog request world course.attempts none ::
              routing.elim [] (service.recordRoutingDecision world)
          attempts := course.attempts
          completion := .allProvidersFailed world.requestId }

/-- `complete`. -/
def complete (decimal : Rounding) (request : ChatCompletionRequest float)
    (world : RequestWorld float) : Completed :=
  match service.router.rankWithExplanation decimal world.ranking request.model
      request.preferences world.requestId with
  | .error error => { completion := .raised error }
  | .ok (ranked, routing) =>
    if ranked.isEmpty then { completion := .noProviderAvailable routing }
    else service.conclude request world routing
      (service.course request.model world.requestId world.attempts 0 ranked)

end GatewayService
end ModelPilot
