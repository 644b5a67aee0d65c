import ModelPilot.Decimals
import ModelPilot.ProviderOutcomes

/-! What one provider call leaves behind: the attempt row with its estimated
cost (`metrics/attempts.py`, `metrics/costs.py`) and the request log
(`schemas.py`). -/
namespace ModelPilot

/-- The prices of a pair, finite and not negative. -/
structure ModelPricing where
  provider : String
  model : String
  inputCostPerMillionTokens : ℚ
  outputCostPerMillionTokens : ℚ
  named : provider ≠ "" ∧ model ≠ ""
  nonneg : 0 ≤ inputCostPerMillionTokens ∧ 0 ≤ outputCostPerMillionTokens

/-- `estimate_cost`; each `Decimal` operation may trap an overflow. -/
def estimateCost (pricing : Option ModelPricing) (inputTokens outputTokens : Option Nat) :
    Except PyError (Option ℚ) :=
  match pricing, inputTokens, outputTokens with
  | some pricing, some inputTokens, some outputTokens => do
    let input ← Decimal.fix (inputTokens * pricing.inputCostPerMillionTokens)
    let output ← Decimal.fix (outputTokens * pricing.outputCostPerMillionTokens)
    let total ← Decimal.fix (input + output)
    let cost ← Decimal.fix (total / 1000000)
    .ok (some cost)
  | _, _, _ => .ok none

/-- The field values of an attempt row, before validation. -/
structure AttemptFields where
  requestId : String
  attemptIndex : Nat := 0
  provider : String
  model : String
  startedAt : Int
  finishedAt : Int
  latencyMs : ℚ
  success : Bool
  errorType : Option String := none
  inputTokens : Option Nat := none
  outputTokens : Option Nat := none
  totalTokens : Option Nat := none
  estimatedCost : Option ℚ := none
  createdAt : Int
  deriving DecidableEq

/-- Field constraints and `validate_timestamps`. -/
def AttemptFields.check (attempt : AttemptFields) : Except PyError Unit := do
  require (attempt.requestId ≠ "") "request_id"
  require (attempt.provider ≠ "") "provider"
  require (attempt.model ≠ "") "model"
  require (0 ≤ attempt.latencyMs) "latency_ms"
  checkSome (fun cost => require (0 ≤ cost) "estimated_cost") attempt.estimatedCost
  require (attempt.startedAt ≤ attempt.finishedAt)
    "finished_at must not be earlier than started_at"

structure AttemptRecord extends AttemptFields where
  valid : toAttemptFields.check = .ok ()

def AttemptRecord.modelValidate (fields : AttemptFields) : Except PyError AttemptRecord :=
  match valid : fields.check with
  | .ok () => .ok ⟨fields, valid⟩
  | .error error => .error error

/-- `attempt_from_outcome`; `createdAt` is the clock when it is called. -/
def attemptFromOutcome (outcome : ProviderOutcome) (requestId : String) (attemptIndex : Nat)
    (pricing : Option ModelPricing) (createdAt : Int) : Except PyError AttemptRecord := do
  let estimatedCost ← estimateCost pricing outcome.inputTokens outcome.outputTokens
  AttemptRecord.modelValidate
    { requestId
      attemptIndex
      provider := outcome.provider
      model := outcome.model
      startedAt := outcome.startedAt
      finishedAt := outcome.finishedAt
      latencyMs := outcome.latencyMs
      success := outcome.success
      errorType := outcome.errorType.map ProviderErrorType.value
      inputTokens := outcome.inputTokens
      outputTokens := outcome.outputTokens
      totalTokens := outcome.totalTokens
      estimatedCost
      createdAt }

/-- One call in a request log. -/
structure AttemptLog where
  provider : String
  model : String
  score : ℚ
  latencyMs : ℚ
  success : Bool
  error : Option String := none
  deriving DecidableEq

def AttemptLog.key (log : AttemptLog) : Key := (log.provider, log.model)

structure RequestLog where
  requestId : String
  requestedModel : String
  selectedProvider : Option String := none
  selectedModel : Option String := none
  success : Bool
  totalLatencyMs : ℚ
  attempts : List AttemptLog
  createdAt : String
  deriving DecidableEq

end ModelPilot
