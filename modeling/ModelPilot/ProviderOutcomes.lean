import Mathlib.Data.Rat.Defs
import Mathlib.Algebra.Order.Ring.Rat
import ModelPilot.Dict
import ModelPilot.Python

/-! What a provider call returns: JSON payloads and normalized outcomes
(`providers/base.py`). -/
namespace ModelPilot

/-- A decoded JSON value. An object lists its members in document order. -/
inductive Json where
  | null
  | bool (value : Bool)
  | int (value : Int)
  | float (value : ℚ)
  | str (value : String)
  | arr (items : List Json)
  | obj (members : List (String × Json))

/-- `ChatCompletionPayload`, a `dict[str, Any]`. -/
abbrev Payload := Dict String Json

inductive ProviderErrorType where
  | timeout
  | connectionError
  | authenticationError
  | rateLimit
  | providerError
  | invalidResponse
  | unknownError
  deriving DecidableEq, Repr

/-- `ProviderErrorType.value`. -/
def ProviderErrorType.value : ProviderErrorType → String
  | .timeout => "timeout"
  | .connectionError => "connection_error"
  | .authenticationError => "authentication_error"
  | .rateLimit => "rate_limit"
  | .providerError => "provider_error"
  | .invalidResponse => "invalid_response"
  | .unknownError => "unknown_error"

/-- A normalized outcome. The model is frozen and validated, so the field
bounds and `validate_outcome_shape` are part of every value. -/
structure ProviderOutcome where
  provider : String
  model : String
  success : Bool
  response : Option Payload := none
  inputTokens : Option Nat := none
  outputTokens : Option Nat := none
  totalTokens : Option Nat := none
  errorType : Option ProviderErrorType := none
  errorMessage : Option String := none
  statusCode : Option Nat := none
  startedAt : Int
  finishedAt : Int
  latencyMs : ℚ
  named : provider ≠ "" ∧ model ≠ ""
  timed : startedAt ≤ finishedAt
  latency : 0 ≤ latencyMs
  statusRange : ∀ code ∈ statusCode, 100 ≤ code ∧ code ≤ 599
  shape : if success then response.isSome ∧ errorType = none else response = none ∧ errorType.isSome

namespace ProviderOutcome

/-- The pair the outcome is about. -/
def key (outcome : ProviderOutcome) : Key := (outcome.provider, outcome.model)

theorem response_of_success (outcome : ProviderOutcome) (succeeded : outcome.success = true) :
    ∃ response, outcome.response = some response := by
  have shape := outcome.shape
  rw [if_pos succeeded] at shape
  exact Option.isSome_iff_exists.mp shape.1

theorem errorType_of_failure (outcome : ProviderOutcome) (failed : outcome.success = false) :
    ∃ error, outcome.errorType = some error := by
  have shape := outcome.shape
  rw [if_neg (by simp [failed])] at shape
  exact Option.isSome_iff_exists.mp shape.2

end ProviderOutcome
end ModelPilot
