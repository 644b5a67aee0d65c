import ModelPilot.ProbeAdmission

/-! The end of a provider call: the health update that follows it, and what the
fallback loop does next (`GatewayService._invoke_candidate` and `complete`). -/
namespace ModelPilot

/-- How an awaited `provider.complete` ends. A legacy provider returns the
payload itself. -/
inductive CallResult where
  | outcome (outcome : ProviderOutcome)
  | legacy (response : Payload)
  | raised (error : PyError)
  | cancelled

namespace CandidateCalls

/-- `_update_provider_health`: the record it wrote, if any, or the exception
that neither of its clauses catches. -/
def updateProviderHealth (manager : Option ProviderHealthManager) (store : HealthStoreCall)
    (outcome : ProviderOutcome) : Except PyError (Option ProviderHealth) :=
  match manager with
  | none => .ok none
  | some manager =>
    match manager.update (some Datetime.maxUtc) store outcome with
    | .ok updated => .ok (some updated)
    | .error (.healthPersistence _) => .ok none
    | .error (.value _) => .ok none
    | .error error => .error error

/-- The record written after a call, and how `_invoke_candidate` then ends. -/
def afterCall (manager : Option ProviderHealthManager) (store : Key → HealthStoreCall) :
    CallResult → Option ProviderHealth × CallResult
  | .outcome outcome =>
    match updateProviderHealth manager (store outcome.key) outcome with
    | .ok written => (written, .outcome outcome)
    | .error error => (none, .raised error)
  | result => (none, result)

/-- What the loop over the candidates does with the end of an attempt. -/
inductive NextStep where
  | skipped
  | failed (error : Option String)
  | served (response : Payload)
  | escaped (error : PyError)
  | cancelled

def nextStep : CallResult → NextStep
  | .raised .candidateUnavailable => .skipped
  | .raised (.providerError message) => .failed (some message)
  | .raised error => .escaped error
  | .cancelled => .cancelled
  | .legacy response => .served response
  | .outcome outcome =>
    if ¬ outcome.success then .failed outcome.errorMessage
    else
      match outcome.response with
      | none => .escaped (.runtime "successful provider outcome did not contain a response")
      | some response => .served response

/-- The loop goes on to the next candidate. -/
def NextStep.continues : NextStep → Bool
  | .skipped => true
  | .failed _ => true
  | _ => false

end CandidateCalls
end ModelPilot
