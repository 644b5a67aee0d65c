import ModelPilot.AttemptRecords
import ModelPilot.BenchmarkStore
import ModelPilot.FloatSums
import ModelPilot.RoutingScores

/-! The attempt log in SQLite and the recent metrics read from it
(`metrics/sqlite_store.py`). Timestamps are stored and compared as text. -/
namespace ModelPilot.MetricsStore
open BenchmarkStore (Binds boolean sqlLength statement)

/-! ### Writing -/

/-- A row of `attempts`. REAL columns hold floats exactly, and the text of a
`Decimal` reads back as the same number. -/
structure AttemptRow where
  id : Nat
  requestId : String
  attemptIndex : Int
  provider : String
  model : String
  startedAt : String
  finishedAt : String
  latencyMs : ℚ
  success : Int
  errorType : Option String
  inputTokens : Option Int
  outputTokens : Option Int
  totalTokens : Option Int
  estimatedCost : Option ℚ
  createdAt : String
  deriving DecidableEq

def AttemptRow.key (row : AttemptRow) : Key := (row.provider, row.model)

/-- `_serialize_datetime` of a UTC instant. -/
def serialize (at_ : Int) : Except PyError String := Timestamps.serializeDatetime (.utc at_)

/-- The values `record_attempt` binds, under the row's identifier. -/
def encodeAttempt (id : Nat) (attempt : AttemptRecord) : Except PyError AttemptRow := do
  let startedAt ← serialize attempt.startedAt
  let finishedAt ← serialize attempt.finishedAt
  let createdAt ← serialize attempt.createdAt
  .ok
    { id
      requestId := attempt.requestId
      attemptIndex := attempt.attemptIndex
      provider := attempt.provider
      model := attempt.model
      startedAt
      finishedAt
      latencyMs := attempt.latencyMs
      success := if attempt.success then 1 else 0
      errorType := attempt.errorType
      inputTokens := attempt.inputTokens.map Int.ofNat
      outputTokens := attempt.outputTokens.map Int.ofNat
      totalTokens := attempt.totalTokens.map Int.ofNat
      estimatedCost := attempt.estimatedCost
      createdAt }

/-- The integers of a row bind. -/
def AttemptRow.Binds (row : AttemptRow) : Prop :=
  BenchmarkStore.Binds row.attemptIndex ∧
  ∀ count ∈ [row.inputTokens, row.outputTokens, row.totalTokens],
    ∀ value ∈ count, BenchmarkStore.Binds value

instance (row : AttemptRow) : Decidable row.Binds := inferInstanceAs (Decidable (_ ∧ ∀ _ ∈ _, _))

/-- The CHECK constraints of `attempts`. -/
def AttemptRow.Checks (row : AttemptRow) : Prop :=
  0 ≤ row.attemptIndex ∧ 0 < sqlLength row.provider ∧ 0 < sqlLength row.model ∧
  0 ≤ row.latencyMs ∧
  (row.success = 0 ∨ row.success = 1) ∧ (∀ value ∈ row.inputTokens, 0 ≤ value) ∧
  (∀ value ∈ row.outputTokens, 0 ≤ value) ∧ ∀ value ∈ row.totalTokens, 0 ≤ value

instance (row : AttemptRow) : Decidable row.Checks := inferInstanceAs (Decidable (_ ∧ _))

/-- `INSERT INTO attempts`, with its unique key. -/
def insertAttempt (rows : List AttemptRow) (row : AttemptRow) : Except PyError (List AttemptRow) :=
  if ¬ row.Binds then .error .overflow
  else if ¬ row.Checks ∨ rows.any fun other =>
      other.requestId = row.requestId && other.attemptIndex = row.attemptIndex then
    .error (.other "sqlite3.IntegrityError")
  else .ok (rows ++ [row])

/-- The statements of `record_attempt`: connect, insert, commit. Rows are never
deleted, so `AUTOINCREMENT` counts them. -/
def attemptTransaction (fault : Nat → Option PyError) (rows : List AttemptRow)
    (attempt : AttemptRecord) : Except PyError (List AttemptRow) := do
  statement fault 0
  let row ← encodeAttempt (rows.length + 1) attempt
  statement fault 1
  let inserted ← insertAttempt rows row
  statement fault 2
  .ok inserted

/-- `record_attempt`: what it raises, if anything, and the rows afterwards. -/
def recordAttempt (fault : Nat → Option PyError) (rows : List AttemptRow)
    (attempt : AttemptRecord) : Except PyError Unit × List AttemptRow :=
  match attemptTransaction fault rows attempt with
  | .ok after => (.ok (), after)
  | .error error => (.error error, rows)

/-! ### Reading -/

/-- A count that validation requires not to be negative. -/
def natural (value : Int) : Except PyError Nat :=
  if 0 ≤ value then .ok value.toNat else .error (.value "greater_than_equal")

/-- A timestamp column as an aware datetime, in UTC. -/
def readInstant (text : String) : Except PyError Int := do
  let value ← Timestamps.fromisoformat text
  value.astimezone

/-- The validation in `_attempt_from_row`. -/
def restoreAttempt (row : AttemptRow) : Except PyError AttemptRecord := do
  let attemptIndex ← natural row.attemptIndex
  let startedAt ← readInstant row.startedAt
  let finishedAt ← readInstant row.finishedAt
  let success ← boolean row.success
  let inputTokens ← row.inputTokens.mapM natural
  let outputTokens ← row.outputTokens.mapM natural
  let totalTokens ← row.totalTokens.mapM natural
  let createdAt ← readInstant row.createdAt
  AttemptRecord.modelValidate
    { requestId := row.requestId
      attemptIndex
      provider := row.provider
      model := row.model
      startedAt
      finishedAt
      latencyMs := row.latencyMs
      success
      errorType := row.errorType
      inputTokens
      outputTokens
      totalTokens
      estimatedCost := row.estimatedCost
      createdAt }

/-- `_attempt_from_row`. -/
def attemptFromRow (row : AttemptRow) : Except PyError AttemptRecord :=
  match restoreAttempt row with
  | .error _ => .error (.other "MetricsStoreDataError")
  | result => result

/-- `ORDER BY finished_at DESC, id DESC`. -/
def newestFirst (row : AttemptRow) : (String ×ₗ Nat)ᵒᵈ :=
  OrderDual.toDual (toLex (row.finishedAt, row.id))

/-- The rows `get_recent_attempts` selects. -/
def recentRows (rows : List AttemptRow) (key : Key) (limit : Int) (serializedSince : String) :
    List AttemptRow :=
  (sortedBy newestFirst
    (rows.filter fun row => row.key = key ∧ serializedSince ≤ row.finishedAt)).take limit.toNat

/-- `get_recent_attempts`. -/
def getRecentAttempts (rows : List AttemptRow) (key : Key) (limit : Int) (since : Datetime) :
    Except PyError (List AttemptRecord) :=
  if limit ≤ 0 then .error (.value "limit must be positive")
  else do
    let serializedSince ← Timestamps.serializeDatetime since
    (recentRows rows key limit serializedSince).mapM attemptFromRow

/-! ### Metrics -/

def metricsAttemptLimit : Int := 100

/-- `METRICS_MAX_AGE`, in microseconds. -/
def metricsMaxAge : Int := 7 * 86400000000

/-- `as_of - METRICS_MAX_AGE`. -/
def windowStart (asOf : Int) : Except PyError Int :=
  if Datetime.minUtc ≤ asOf - metricsMaxAge then .ok (asOf - metricsMaxAge) else .error .overflow

/-- `_nearest_rank`, for a percentile above zero. -/
def nearestRank (float : Rounding) (values : List ℚ) (percentile : ℚ) : Option ℚ :=
  if values = [] then none
  else (sortedBy id values)[(⌈float.mul percentile values.length⌉ - 1).toNat]?

/-- The costs of the successful priced attempts. -/
def pricedCosts (attempts : List AttemptRecord) : List ℚ :=
  attempts.filterMap fun attempt => if attempt.success then attempt.estimatedCost else none

/-- `total + cost`, in the default context of `Decimal`. -/
def addCost (total cost : ℚ) : Except PyError ℚ := Decimal.fix (total + cost)

/-- `sum(costs, Decimal(0))`, or `None` for no costs. -/
def totalCost (costs : List ℚ) : Except PyError (Option ℚ) :=
  if costs = [] then .ok none else (costs.foldlM addCost 0).map some

/-- `sum(costs, Decimal(0)) / len(costs)`, or `None` for no costs. -/
def averageCost (costs : List ℚ) : Except PyError (Option ℚ) := do
  let total ← totalCost costs
  total.mapM fun total => Decimal.fix (total / costs.length)

/-- The snapshot of some attempts, before validation. -/
def metricsFields (float : Rounding) (key : Key) (attempts : List AttemptRecord) :
    Except PyError MetricsFields := do
  let successCount := attempts.countP (·.success)
  let latencies := attempts.map (·.latencyMs)
  let costs := pricedCosts attempts
  let finished := attempts.map (·.finishedAt)
  let totalLatency ← fsum float latencies
  let estimatedAverageCost ← averageCost costs
  .ok
    { provider := key.1
      model := key.2
      sampleCount := attempts.length
      successCount
      failureCount := attempts.length - successCount
      successRate := some (float.div successCount attempts.length)
      averageLatencyMs := some (float.div totalLatency attempts.length)
      p50LatencyMs := nearestRank float latencies (1 / 2)
      p95LatencyMs := nearestRank float latencies (19 / 20)
      pricedSampleCount := costs.length
      estimatedAverageCost
      p50EstimatedCost := nearestRank float costs (1 / 2)
      windowStart := finished.min?.getD 0
      windowEnd := finished.max?.getD 0 }

/-- `ProviderMetricsSnapshot(...)`. -/
def validateSnapshot {float : Rounding} (fields : MetricsFields) :
    Except PyError (ProviderMetricsSnapshot float) :=
  match valid : fields.check float with
  | .ok () => .ok ⟨fields, valid⟩
  | .error error => .error error

/-- `_build_metrics`. -/
def buildMetrics (float : Rounding) (rows : List AttemptRow) (asOf : Int) (key : Key) :
    Except PyError (Option (ProviderMetricsSnapshot float)) := do
  let since ← windowStart asOf
  let attempts ← getRecentAttempts rows key metricsAttemptLimit (.utc since)
  if attempts.isEmpty then .ok none
  else do
    let fields ← metricsFields float key attempts
    (validateSnapshot fields).map some

/-- The pairs `list_provider_metrics` asks for. -/
def recentPairs (rows : List AttemptRow) (serializedSince : String) : List Key :=
  sortedBy (fun key => toLex key)
    ((rows.filter fun row => serializedSince ≤ row.finishedAt).map (·.key)).dedup

/-- `list_provider_metrics`, at the reading `asOf`. -/
def listProviderMetrics (float : Rounding) (rows : List AttemptRow) (asOf : Int) :
    Except PyError (List (ProviderMetricsSnapshot float)) := do
  let since ← windowStart asOf
  let serializedSince ← serialize since
  let snapshots ← (recentPairs rows serializedSince).mapM (buildMetrics float rows asOf)
  .ok (snapshots.filterMap id)

end ModelPilot.MetricsStore
