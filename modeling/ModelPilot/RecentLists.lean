import ModelPilot.MetricsSummary

/-! The newest failures and the newest routing decisions that the metrics store lists
(`metrics/sqlite_store.py`). -/
namespace ModelPilot.MetricsStore
open BenchmarkStore (Binds)

/-! ### Failures -/

/-- The field values of a failure, before validation. -/
structure FailureFields where
  requestId : String
  provider : String
  model : String
  finishedAt : Int
  createdAt : Int
  latencyMs : ℚ
  errorType : Option String := none
  deriving DecidableEq

/-- The field constraints of `RecentFailure`. -/
def FailureFields.check (failure : FailureFields) : Except PyError Unit := do
  require (failure.requestId ≠ "") "request_id"
  require (failure.provider ≠ "") "provider"
  require (failure.model ≠ "") "model"
  require (0 ≤ failure.latencyMs) "latency_ms"

structure RecentFailure extends FailureFields where
  valid : toFailureFields.check = .ok ()

def RecentFailure.modelValidate (fields : FailureFields) : Except PyError RecentFailure :=
  match valid : fields.check with
  | .ok () => .ok ⟨fields, valid⟩
  | .error error => .error error

theorem RecentFailure.modelValidate_ok {fields : FailureFields}
    (accepted : fields.check = .ok ()) : modelValidate fields = .ok ⟨fields, accepted⟩ :=
  validated_ok (RecentFailure.mk fields) accepted

/-- `SAFE_ERROR_TYPES`. -/
def safeErrorTypes : List String :=
  ["timeout", "connection_error", "authentication_error", "rate_limit", "provider_error",
    "invalid_response", "unknown_error"]

/-- The error type that a failure shows: a stored text only when it is a safe one. -/
def safeErrorType (storedErrorType : Option String) : String :=
  match storedErrorType with
  | some text => if text ∈ safeErrorTypes then text else "unknown_error"
  | none => "unknown_error"

/-- The validation in `_recent_failure_from_row`. -/
def restoreFailure (row : AttemptRow) : Except PyError RecentFailure := do
  let finishedAt ← readInstant row.finishedAt
  let createdAt ← readInstant row.createdAt
  RecentFailure.modelValidate
    { requestId := row.requestId
      provider := row.provider
      model := row.model
      finishedAt
      createdAt
      latencyMs := row.latencyMs
      errorType := some (safeErrorType row.errorType) }

/-- `_recent_failure_from_row`. -/
def recentFailureFromRow (row : AttemptRow) : Except PyError RecentFailure :=
  match restoreFailure row with
  | .error _ => .error (.other "MetricsStoreDataError")
  | result => result

/-- The rows `list_recent_failures` selects. -/
def failureRows (rows : List AttemptRow) (limit : Int) : List AttemptRow :=
  (sortedBy newestFirst (rows.filter fun row => row.success = 0)).take limit.toNat

/-- `list_recent_failures`. -/
def listRecentFailures (rows : List AttemptRow) (limit : Int) :
    Except PyError (List RecentFailure) :=
  if limit ≤ 0 then .error (.value "limit must be positive")
  else if ¬ Binds limit then .error .overflow
  else (failureRows rows limit).mapM recentFailureFromRow

/-! ### Routing decisions -/

/-- The validation in `_routing_decision_from_row`; the time reads back in UTC. -/
def restoreDecision (row : DecisionRow) : Except PyError RoutingDecision := do
  let createdAt ← readInstant row.createdAt
  RoutingDecision.modelValidate
    { requestId := row.requestId
      routingVersion := row.routingVersion
      selectedProvider := row.selectedProvider
      selectedModel := row.selectedModel
      servedProvider := row.servedProvider
      servedModel := row.servedModel
      createdAt := .utc createdAt
      explanation := row.explanation }

/-- `_routing_decision_from_row`. -/
def routingDecisionFromRow (row : DecisionRow) : Except PyError RoutingDecision :=
  match restoreDecision row with
  | .error _ => .error (.other "MetricsStoreDataError")
  | result => result

/-- `get_routing_decision`. -/
def getRoutingDecision (rows : List DecisionRow) (requestId : String) :
    Except PyError (Option RoutingDecision) :=
  match rows.find? (·.requestId = requestId) with
  | some row => (routingDecisionFromRow row).map some
  | none => .ok none

/-- `ORDER BY created_at DESC, request_id DESC`. -/
def newestDecision (row : DecisionRow) : (String ×ₗ String)ᵒᵈ :=
  OrderDual.toDual (toLex (row.createdAt, row.requestId))

/-- The rows `list_recent_routing_decisions` selects. -/
def recentDecisionRows (rows : List DecisionRow) (limit : Int) : List DecisionRow :=
  (sortedBy newestDecision rows).take limit.toNat

/-- `list_recent_routing_decisions`. -/
def listRecentRoutingDecisions (rows : List DecisionRow) (limit : Int) :
    Except PyError (List RoutingDecision) :=
  if limit ≤ 0 then .error (.value "limit must be positive")
  else if ¬ Binds limit then .error .overflow
  else (recentDecisionRows rows limit).mapM routingDecisionFromRow

end ModelPilot.MetricsStore
