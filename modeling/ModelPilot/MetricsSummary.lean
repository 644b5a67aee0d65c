import ModelPilot.MetricsStore

/-! Routing decisions in SQLite, and the summary of a window of time. Three
statements read it outside a transaction, each from the state that is committed when
it runs (`metrics/sqlite_store.py`). -/
namespace ModelPilot.MetricsStore
open BenchmarkStore (sqlLength statement)

/-! ### Routing decisions -/

/-- A row of `routing_decisions`; its JSON column is kept as the explanation it
holds. -/
structure DecisionRow where
  requestId : String
  routingVersion : String
  selectedProvider : String
  selectedModel : String
  servedProvider : Option String
  servedModel : Option String
  createdAt : String
  explanation : RoutingExplanation

/-- The values `record_routing_decision` binds. -/
def encodeDecision (decision : RoutingDecision) : Except PyError DecisionRow := do
  let createdAt ← Timestamps.serializeDatetime decision.createdAt
  .ok
    { requestId := decision.requestId
      routingVersion := decision.routingVersion
      selectedProvider := decision.selectedProvider
      selectedModel := decision.selectedModel
      servedProvider := decision.servedProvider
      servedModel := decision.servedModel
      createdAt
      explanation := decision.explanation }

/-- The CHECK constraints of `routing_decisions`. -/
def DecisionRow.Checks (row : DecisionRow) : Prop :=
  0 < sqlLength row.requestId ∧ 0 < sqlLength row.routingVersion ∧
  0 < sqlLength row.selectedProvider ∧ 0 < sqlLength row.selectedModel ∧
  row.servedProvider.isNone = row.servedModel.isNone

instance (row : DecisionRow) : Decidable row.Checks := inferInstanceAs (Decidable (_ ∧ _))

/-- `INSERT INTO routing_decisions`, keyed by the request. -/
def insertDecision (rows : List DecisionRow) (row : DecisionRow) :
    Except PyError (List DecisionRow) :=
  if ¬ row.Checks then .error (.other "sqlite3.IntegrityError")
  else if rows.any fun other => other.requestId = row.requestId then
    .error (.other "DuplicateRoutingDecisionError")
  else .ok (rows ++ [row])

/-- The statements of `record_routing_decision`: connect, insert, commit. -/
def decisionTransaction (fault : Nat → Option PyError) (rows : List DecisionRow)
    (decision : RoutingDecision) : Except PyError (List DecisionRow) := do
  statement fault 0
  let row ← encodeDecision decision
  statement fault 1
  let inserted ← insertDecision rows row
  statement fault 2
  .ok inserted

/-- `record_routing_decision`: what it raises, if anything, and the rows afterwards. -/
def recordRoutingDecision (fault : Nat → Option PyError) (rows : List DecisionRow)
    (decision : RoutingDecision) : Except PyError Unit × List DecisionRow :=
  match decisionTransaction fault rows decision with
  | .ok after => (.ok (), after)
  | .error error => (.error error, rows)

/-! ### The summary -/

/-- `left < right` of aware datetimes. -/
def precedes (left right : Datetime) : Bool :=
  match left.toUtc, right.toUtc with
  | some first, some second => first < second
  | _, _ => false

/-- The fields of a summary and of its window, before validation. -/
structure SummaryFields where
  since : Datetime
  until_ : Datetime
  requestCount : Int
  attemptCount : Int
  successCount : Int
  failureCount : Int
  successRate : Option ℚ := none
  averageLatencyMs : Option ℚ := none
  estimatedTotalCost : Option ℚ := none
  providersCount : Int
  modelsCount : Int
  routingDecisionCount : Int
  deriving DecidableEq

namespace SummaryFields

/-- `MetricsWindow`. -/
def checkWindow (summary : SummaryFields) : Except PyError Unit := do
  require summary.since.toUtc.isSome "timezone_aware"
  require summary.until_.toUtc.isSome "timezone_aware"
  require (precedes summary.until_ summary.since = false) "until must not be earlier than since"

/-- `validate_attempt_counts`. -/
def validateAttemptCounts (float : Rounding) (summary : SummaryFields) : Except PyError Unit := do
  require (summary.successCount + summary.failureCount = summary.attemptCount)
    "attempt_count must equal success_count plus failure_count"
  if summary.attemptCount = 0 then
    require (summary.successRate = none ∧ summary.averageLatencyMs = none)
      "empty summaries must use None for measured rates"
  else
    require (∃ rate ∈ summary.successRate,
      |rate - float.div summary.successCount summary.attemptCount| ≤ 1 / 10 ^ 9)
      "success_rate must match the summary counts"

/-- Field constraints, then the model validator. -/
def check (float : Rounding) (summary : SummaryFields) : Except PyError Unit := do
  summary.checkWindow
  require (0 ≤ summary.requestCount) "request_count"
  require (0 ≤ summary.attemptCount) "attempt_count"
  require (0 ≤ summary.successCount) "success_count"
  require (0 ≤ summary.failureCount) "failure_count"
  checkSome SignalFields.checkUnit summary.successRate
  checkSome MetricsFields.checkNonneg summary.averageLatencyMs
  checkSome MetricsFields.checkNonneg summary.estimatedTotalCost
  require (0 ≤ summary.providersCount) "providers_count"
  require (0 ≤ summary.modelsCount) "models_count"
  require (0 ≤ summary.routingDecisionCount) "routing_decision_count"
  summary.validateAttemptCounts float

end SummaryFields

structure MetricsSummary (float : Rounding) extends SummaryFields where
  valid : toSummaryFields.check float = .ok ()

/-- `MetricsSummary(...)`. -/
def validateSummary {float : Rounding} (fields : SummaryFields) :
    Except PyError (MetricsSummary float) :=
  match valid : fields.check float with
  | .ok () => .ok ⟨fields, valid⟩
  | .error error => .error error

/-- A committed state of the tables that a summary reads. -/
structure Database where
  attempts : List AttemptRow := []
  decisions : List DecisionRow := []

/-- The attempts that the first and the third statement select. -/
def attemptsBetween (rows : List AttemptRow) (since until_ : String) : List AttemptRow :=
  rows.filter fun row => since ≤ row.finishedAt ∧ row.finishedAt ≤ until_

/-- The decisions that the second statement counts. -/
def decisionsBetween (rows : List DecisionRow) (since until_ : String) : List DecisionRow :=
  rows.filter fun row => since ≤ row.createdAt ∧ row.createdAt ≤ until_

/-- The summary of what the three statements return. `average` is SQL's AVG of a
group that is not empty. -/
def summaryFields (float : Rounding) (average : List ℚ → ℚ) (since until_ : Datetime)
    (attempts : List AttemptRow) (decisions : List DecisionRow) (total : Option ℚ) :
    SummaryFields :=
  let attemptCount : Int := attempts.length
  let successCount := (attempts.map (·.success)).sum
  { since
    until_
    requestCount := (attempts.map (·.requestId)).dedup.length
    attemptCount
    successCount
    failureCount := attemptCount - successCount
    successRate := if attemptCount = 0 then none else some (float.div successCount attemptCount)
    averageLatencyMs :=
      if attemptCount = 0 then none else some (average (attempts.map (·.latencyMs)))
    estimatedTotalCost := total
    providersCount := (attempts.map (·.provider)).dedup.length
    modelsCount := (attempts.map (·.model)).dedup.length
    routingDecisionCount := decisions.length }

/-- `get_metrics_summary`, whose statements find the states `first`, `second` and
`third` committed. -/
def getMetricsSummary (float : Rounding) (average : List ℚ → ℚ) (since until_ : Datetime)
    (first second third : Database) : Except PyError (MetricsSummary float) := do
  let serializedSince ← Timestamps.serializeDatetime since
  let serializedUntil ← Timestamps.serializeDatetime until_
  if precedes until_ since then .error (.value "until must not be earlier than since")
  else do
    let costs := (attemptsBetween third.attempts serializedSince serializedUntil).filterMap
      (·.estimatedCost)
    let total ← totalCost costs
    validateSummary (summaryFields float average since until_
      (attemptsBetween first.attempts serializedSince serializedUntil)
      (decisionsBetween second.decisions serializedSince serializedUntil) total)

/-! ### Writes -/

/-- A call that commits a row. -/
inductive Write where
  | attempt (attempt : AttemptRecord)
  | decision (decision : RoutingDecision)

/-- The state after a write; `none` when it does not commit. -/
def Database.commit (database : Database) : Write → Option Database
  | .attempt attempt =>
    match recordAttempt (fun _ => none) database.attempts attempt with
    | (.ok (), attempts) => some { database with attempts }
    | (.error _, _) => none
  | .decision decision =>
    match recordRoutingDecision (fun _ => none) database.decisions decision with
    | (.ok (), decisions) => some { database with decisions }
    | (.error _, _) => none

def Database.commitAll (database : Database) (writes : List Write) : Option Database :=
  writes.foldlM Database.commit database

/-- The writes that commit during one call of `get_metrics_summary`, by the
statements they fall between. -/
structure Interleaving where
  start : Database
  beforeAttempts : List Write := []
  beforeDecisions : List Write := []
  beforeCosts : List Write := []
  afterCosts : List Write := []

namespace Interleaving

/-- What the call returns, when each of the writes commits. -/
def summary (float : Rounding) (average : List ℚ → ℚ) (since until_ : Datetime)
    (course : Interleaving) : Option (Except PyError (MetricsSummary float)) := do
  let first ← course.start.commitAll course.beforeAttempts
  let second ← first.commitAll course.beforeDecisions
  let third ← second.commitAll course.beforeCosts
  let _ ← third.commitAll course.afterCosts
  some (getMetricsSummary float average since until_ first second third)

def writes (course : Interleaving) : List Write :=
  course.beforeAttempts ++ course.beforeDecisions ++ (course.beforeCosts ++ course.afterCosts)

/-- A state that the database was in during the call. -/
def Existed (course : Interleaving) (database : Database) : Prop :=
  ∃ committed, committed <+: course.writes ∧ course.start.commitAll committed = some database

end Interleaving
end ModelPilot.MetricsStore
