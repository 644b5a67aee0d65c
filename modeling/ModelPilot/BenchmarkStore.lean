import Mathlib.Data.List.TakeWhile
import ModelPilot.BenchmarkResults
import ModelPilot.LatestWins
import ModelPilot.Timestamps

/-! The benchmark history in SQLite (`benchmarks/sqlite_store.py`): a run is one
row of `benchmark_runs` and one row of `benchmark_case_results` per result,
written in one transaction and re-validated when read. -/
namespace ModelPilot.BenchmarkStore

/-! ### Column texts -/

def categoryText : BenchmarkCategory → String
  | .coding => "coding"
  | .reasoning => "reasoning"
  | .structuredOutput => "structured_output"
  | .math => "math"
  | .instructionFollowing => "instruction_following"

def executionText : ExecutionStatus → String
  | .completed => "completed"
  | .providerFailed => "provider_failed"

def statusText : RunStatus → String
  | .completed => "completed"
  | .completedWithFailures => "completed_with_failures"

def kindText : EvaluatorKind → String
  | .exactMatch => "exact_match"
  | .normalizedExactMatch => "normalized_exact_match"
  | .contains => "contains"
  | .numericTolerance => "numeric_tolerance"
  | .jsonEqual => "json_equal"

def reasonText : EvaluationReason → String
  | .isMatch => "match"
  | .mismatch => "mismatch"
  | .invalidNumber => "invalid_number"
  | .outsideTolerance => "outside_tolerance"
  | .invalidJson => "invalid_json"

/-- The member of an enumeration with a text; another text is no member. -/
def member (members : List α) (text : α → String) (stored : String) : Except PyError α :=
  match members.find? (text · = stored) with
  | some found => .ok found
  | none => .error (.value "not a member")

def categories : List BenchmarkCategory :=
  [.coding, .reasoning, .structuredOutput, .math, .instructionFollowing]

def executions : List ExecutionStatus := [.completed, .providerFailed]

def statuses : List RunStatus := [.completed, .completedWithFailures]

def kinds : List EvaluatorKind :=
  [.exactMatch, .normalizedExactMatch, .contains, .numericTolerance, .jsonEqual]

def reasons : List EvaluationReason :=
  [.isMatch, .mismatch, .invalidNumber, .outsideTolerance, .invalidJson]

def errorTypes : List ProviderErrorType :=
  [.timeout, .connectionError, .authenticationError, .rateLimit, .providerError, .invalidResponse,
    .unknownError]

/-! ### Rows -/

/-- A row of `benchmark_runs`; REAL columns hold floats exactly. -/
structure RunRow where
  runId : String
  suiteId : String
  suiteVersion : String
  suiteFingerprint : String
  provider : String
  model : String
  startedAt : String
  finishedAt : String
  status : String
  totalCases : Int
  completedCases : Int
  executionFailedCases : Int
  terminatedEarly : Int
  maxCases : Int
  caseTimeoutSeconds : ℚ
  temperature : ℚ
  maxTokens : Int
  deriving DecidableEq

/-- A row of `benchmark_case_results`. -/
structure CaseRow where
  runId : String
  caseId : String
  caseIndex : Int
  category : String
  executionStatus : String
  provider : String
  model : String
  latencyMs : ℚ
  inputTokens : Option Int
  outputTokens : Option Int
  totalTokens : Option Int
  errorType : Option String
  evaluationScore : Option ℚ
  evaluationPassed : Option Int
  evaluatorKind : Option String
  evaluatorVersion : Option String
  evaluationReason : Option String
  deriving DecidableEq

/-- The two benchmark tables, rows in the order of their insertion. -/
structure Tables where
  runs : List RunRow := []
  cases : List CaseRow := []
  deriving DecidableEq

/-! ### Writing -/

def encodeRun (run : BenchmarkRun) : RunRow where
  runId := run.runId
  suiteId := run.suiteId
  suiteVersion := run.suiteVersion
  suiteFingerprint := run.suiteFingerprint
  provider := run.provider
  model := run.model
  startedAt := Timestamps.isoformat run.startedAt
  finishedAt := Timestamps.isoformat run.finishedAt
  status := statusText run.status
  totalCases := run.totalCases
  completedCases := run.completedCases
  executionFailedCases := run.executionFailedCases
  terminatedEarly := if run.terminatedEarly then 1 else 0
  maxCases := run.config.maxCases
  caseTimeoutSeconds := run.config.caseTimeoutSeconds
  temperature := run.config.temperature
  maxTokens := run.config.maxTokens

def encodeCase (runId : String) (index : Nat) (result : BenchmarkCaseResult) : CaseRow where
  runId
  caseId := result.caseId
  caseIndex := index
  category := categoryText result.category
  executionStatus := executionText result.executionStatus
  provider := result.provider
  model := result.model
  latencyMs := result.latencyMs
  inputTokens := result.inputTokens
  outputTokens := result.outputTokens
  totalTokens := result.totalTokens
  errorType := result.errorType.map (·.value)
  evaluationScore := result.evaluation.map (·.score)
  evaluationPassed := result.evaluation.map fun evaluation => if evaluation.passed then 1 else 0
  evaluatorKind := result.evaluation.map fun evaluation => kindText evaluation.evaluatorKind
  evaluatorVersion := result.evaluation.map (·.evaluatorVersion)
  evaluationReason := result.evaluation.map fun evaluation => reasonText evaluation.reason

/-- An integer that binds to a SQLite INTEGER. -/
def Binds (value : Int) : Prop := -9223372036854775808 ≤ value ∧ value ≤ 9223372036854775807

instance : Decidable (Binds value) := inferInstanceAs (Decidable (_ ∧ _))

/-- `length` of SQLite: a text ends before its first NUL. -/
def sqlLength (text : String) : Nat := (text.toList.takeWhile (· ≠ '\x00')).length

/-- SQLite measures no character of the text. -/
def LeadsWithNul (text : String) : Prop := text.toList.head? = some '\x00'

instance : Decidable (LeadsWithNul text) := inferInstanceAs (Decidable (_ = _))

theorem sqlLength_pos_iff : 0 < sqlLength text ↔ text ≠ "" ∧ ¬ LeadsWithNul text := by
  unfold sqlLength LeadsWithNul
  rw [Ne, ← String.toList_eq_nil_iff]
  cases text.toList with
  | nil => simp
  | cons first rest => by_cases nul : first = '\x00' <;> simp [nul]

/-- A text without NUL has its own length. -/
theorem sqlLength_eq (clean : '\x00' ∉ text.toList) : sqlLength text = text.length := by
  unfold sqlLength
  rw [List.takeWhile_eq_self_iff.mpr, String.length_toList]
  intro character member
  simpa using ne_of_mem_of_not_mem member clean

/-- The integers of a run row bind. -/
def RunRow.Binds (row : RunRow) : Prop :=
  ∀ value ∈ [row.totalCases, row.completedCases, row.executionFailedCases, row.terminatedEarly,
    row.maxCases, row.maxTokens], BenchmarkStore.Binds value

instance (row : RunRow) : Decidable row.Binds := inferInstanceAs (Decidable (∀ _ ∈ _, _))

/-- The CHECK constraints of `benchmark_runs`. -/
def RunRow.Checks (row : RunRow) : Prop :=
  0 < sqlLength row.runId ∧ 0 < sqlLength row.suiteId ∧ 0 < sqlLength row.suiteVersion ∧
  sqlLength row.suiteFingerprint = 64 ∧ row.status ∈ statuses.map statusText ∧ 0 < row.totalCases ∧
  0 ≤ row.completedCases ∧ 0 ≤ row.executionFailedCases ∧
  (row.terminatedEarly = 0 ∨ row.terminatedEarly = 1) ∧ 0 < row.maxCases ∧
  0 < row.caseTimeoutSeconds ∧ (0 ≤ row.temperature ∧ row.temperature ≤ 2) ∧ 0 < row.maxTokens

instance (row : RunRow) : Decidable row.Checks := inferInstanceAs (Decidable (_ ∧ _))

/-- The integers of a case row bind. -/
def CaseRow.Binds (row : CaseRow) : Prop :=
  BenchmarkStore.Binds row.caseIndex ∧
  ∀ count ∈ [row.inputTokens, row.outputTokens, row.totalTokens, row.evaluationPassed],
    ∀ value ∈ count, BenchmarkStore.Binds value

instance (row : CaseRow) : Decidable row.Binds := inferInstanceAs (Decidable (_ ∧ ∀ _ ∈ _, _))

/-- The columns of an evaluation are all present, or all absent. -/
def CaseRow.evaluationColumns (row : CaseRow) : List Bool :=
  [row.evaluationScore.isSome, row.evaluationPassed.isSome, row.evaluatorKind.isSome,
    row.evaluatorVersion.isSome, row.evaluationReason.isSome]

/-- The CHECK constraints of `benchmark_case_results`. -/
def CaseRow.Checks (row : CaseRow) : Prop :=
  0 < sqlLength row.caseId ∧ 0 ≤ row.caseIndex ∧
  row.executionStatus ∈ executions.map executionText ∧ 0 ≤ row.latencyMs ∧
  (∀ value ∈ row.inputTokens, 0 ≤ value) ∧ (∀ value ∈ row.outputTokens, 0 ≤ value) ∧
  (∀ value ∈ row.totalTokens, 0 ≤ value) ∧
  (∀ value ∈ row.evaluationScore, 0 ≤ value ∧ value ≤ 1) ∧
  (∀ value ∈ row.evaluationPassed, value = 0 ∨ value = 1) ∧
  (row.executionStatus = "completed" ∧ row.errorType = none ∧
      (∀ present ∈ row.evaluationColumns, present = true) ∨
    row.executionStatus = "provider_failed" ∧ row.errorType.isSome ∧
      ∀ present ∈ row.evaluationColumns, present = false)

instance (row : CaseRow) : Decidable row.Checks := inferInstanceAs (Decidable (_ ∧ _))

/-- `INSERT INTO benchmark_runs`. -/
def insertRun (tables : Tables) (row : RunRow) : Except PyError Tables :=
  if ¬ row.Binds then .error .overflow
  else if ¬ row.Checks ∨ row.runId ∈ tables.runs.map (·.runId) then
    .error (.other "sqlite3.IntegrityError")
  else .ok { tables with runs := tables.runs ++ [row] }

/-- `INSERT INTO benchmark_case_results`, with its foreign key and its two
unique keys. -/
def insertCase (tables : Tables) (row : CaseRow) : Except PyError Tables :=
  if ¬ row.Binds then .error .overflow
  else if ¬ row.Checks ∨ row.runId ∉ tables.runs.map (·.runId) ∨
      (row.runId, row.caseIndex) ∈ tables.cases.map (fun other => (other.runId, other.caseIndex)) ∨
      (row.runId, row.caseId) ∈ tables.cases.map (fun other => (other.runId, other.caseId)) then
    .error (.other "sqlite3.IntegrityError")
  else .ok { tables with cases := tables.cases ++ [row] }

/-- A statement of a transaction, which may fail for reasons of its own. -/
def statement (fault : Nat → Option PyError) (position : Nat) : Except PyError Unit :=
  match fault position with
  | some error => .error error
  | none => .ok ()

/-- The case inserts, as statements from `position` on. -/
def insertCases (fault : Nat → Option PyError) (runId : String) :
    Nat → Nat → List BenchmarkCaseResult → Tables → Except PyError Tables
  | _, _, [], tables => .ok tables
  | position, index, result :: rest, tables => do
    statement fault position
    let tables ← insertCase tables (encodeCase runId index result)
    insertCases fault runId (position + 1) (index + 1) rest tables

/-- The statements of `save_run`: connect, begin, look for the identifier,
insert the run, insert its cases, commit. -/
def transaction (fault : Nat → Option PyError) (tables : Tables) (run : BenchmarkRun) :
    Except PyError Tables := do
  statement fault 0
  statement fault 1
  statement fault 2
  if run.runId ∈ tables.runs.map (·.runId) then .error .duplicateBenchmarkRun
  else do
    statement fault 3
    let inserted ← insertRun tables (encodeRun run)
    let filled ← insertCases fault run.runId 4 0 run.caseResults inserted
    statement fault (4 + run.caseResults.length)
    .ok filled

/-- A `BenchmarkRun` object, perhaps made without validation: field values of
the right types, or values whose dump does not validate field by field. -/
inductive UncheckedRun where
  | malformed (error : PyError)
  | typed (values : RunFields Datetime)

/-- `BenchmarkRun.model_validate(run.model_dump())`. -/
def UncheckedRun.validate : UncheckedRun → Except PyError BenchmarkRun
  | .malformed error => .error error
  | .typed values => BenchmarkRun.modelValidate values

/-- `save_run`: what it raises, if anything, and the tables afterwards. A
transaction that does not commit is rolled back. -/
def saveRun (fault : Nat → Option PyError) (tables : Tables) (value : UncheckedRun) :
    Except PyError Unit × Tables :=
  match value.validate >>= transaction fault tables with
  | .ok after => (.ok (), after)
  | .error error => (.error error, tables)

/-! ### Reading -/

/-- `_boolean`. -/
def boolean (value : Int) : Except PyError Bool :=
  if value = 0 then .ok false
  else if value = 1 then .ok true
  else .error (.value "invalid persisted boolean")

/-- A column that validation requires. -/
def required (column : Option α) : Except PyError α :=
  match column with
  | some value => .ok value
  | none => .error (.value "missing value")

/-- The evaluation columns of a case row. -/
def restoreEvaluation (row : CaseRow) : Except PyError (Option CaseEvaluation) :=
  if ∀ present ∈ row.evaluationColumns, present = false then .ok none
  else do
    let passed ← required row.evaluationPassed >>= boolean
    let score ← required row.evaluationScore
    let evaluatorKind ← required row.evaluatorKind >>= member kinds kindText
    let evaluatorVersion ← required row.evaluatorVersion
    let reason ← required row.evaluationReason >>= member reasons reasonText
    let evaluation : CaseEvaluation := { evaluatorKind, evaluatorVersion, score, passed, reason }
    evaluation.check
    .ok (some evaluation)

/-- The error column of a case row. -/
def restoreErrorType (column : Option String) : Except PyError (Option ProviderErrorType) :=
  match column with
  | none => .ok none
  | some text => (member errorTypes ProviderErrorType.value text).map some

/-- `_restore_case`. -/
def restoreCase (row : CaseRow) : Except PyError BenchmarkCaseResult := do
  let evaluation ← restoreEvaluation row
  let category ← member categories categoryText row.category
  let executionStatus ← member executions executionText row.executionStatus
  let errorType ← restoreErrorType row.errorType
  let result : BenchmarkCaseResult :=
    { provider := row.provider
      model := row.model
      caseId := row.caseId
      category
      executionStatus
      latencyMs := row.latencyMs
      inputTokens := row.inputTokens
      outputTokens := row.outputTokens
      totalTokens := row.totalTokens
      errorType
      evaluation }
  result.check
  .ok result

def restoreCases : List CaseRow → Except PyError (List BenchmarkCaseResult)
  | [] => .ok []
  | row :: rest => do
    let result ← restoreCase row
    let results ← restoreCases rest
    .ok (result :: results)

/-- The rows of one run, `ORDER BY case_index ASC`. -/
def caseRows (tables : Tables) (runId : String) : List CaseRow :=
  sortedBy (·.caseIndex) (tables.cases.filter (·.runId = runId))

/-- The body of `_restore_run`, before its errors are translated. -/
def decodeRun (tables : Tables) (row : RunRow) : Except PyError BenchmarkRun := do
  let startedAt ← Timestamps.fromisoformat row.startedAt
  let finishedAt ← Timestamps.fromisoformat row.finishedAt
  let terminatedEarly ← boolean row.terminatedEarly
  let rows := caseRows tables row.runId
  require (rows.map (·.caseIndex) = (List.range rows.length).map Int.ofNat)
    "non-contiguous case indices"
  let caseResults ← restoreCases rows
  let status ← member statuses statusText row.status
  BenchmarkRun.modelValidate
    { provider := row.provider
      model := row.model
      runId := row.runId
      suiteId := row.suiteId
      suiteVersion := row.suiteVersion
      suiteFingerprint := row.suiteFingerprint
      config :=
        { maxCases := row.maxCases
          caseTimeoutSeconds := row.caseTimeoutSeconds
          temperature := row.temperature
          maxTokens := row.maxTokens }
      startedAt
      finishedAt
      status
      totalCases := row.totalCases
      completedCases := row.completedCases
      executionFailedCases := row.executionFailedCases
      terminatedEarly
      caseResults }

/-- `_restore_run`: a value the validators reject is malformed data. -/
def restoreRun (tables : Tables) (row : RunRow) : Except PyError BenchmarkRun :=
  match decodeRun tables row with
  | .error (.value _) => .error (.benchmarkStoreData "malformed benchmark run")
  | result => result

def restoreRuns (tables : Tables) : List RunRow → Except PyError (List BenchmarkRun)
  | [] => .ok []
  | row :: rest => do
    let run ← restoreRun tables row
    let runs ← restoreRuns tables rest
    .ok (run :: runs)

/-- `get_run`. -/
def getRun (tables : Tables) (runId : String) : Except PyError (Option BenchmarkRun) :=
  match tables.runs.find? (·.runId = runId) with
  | some row => (restoreRun tables row).map some
  | none =>
    if tables.cases.any (·.runId = runId) then
      .error (.benchmarkStoreData "orphan benchmark case results")
    else .ok none

/-- The filters of `list_runs`. -/
structure Filters where
  provider : Option String := none
  model : Option String := none
  suiteId : Option String := none
  suiteVersion : Option String := none

/-- A column meets a filter that was given. -/
def meets (filter : Option String) (column : String) : Bool :=
  filter.all (· = column)

def Filters.select (filters : Filters) (provider model suiteId suiteVersion : String) : Bool :=
  meets filters.provider provider && meets filters.model model &&
    meets filters.suiteId suiteId && meets filters.suiteVersion suiteVersion

/-- `list_runs`. -/
def listRuns (tables : Tables) (limit : Int) (filters : Filters) :
    Except PyError (List BenchmarkRun) :=
  if ¬ (1 ≤ limit ∧ limit ≤ 100) then
    .error (.value "limit must be an integer between 1 and 100")
  else if tables.cases.any (fun row => row.runId ∉ tables.runs.map (·.runId)) then
    .error (.benchmarkStoreData "orphan benchmark case results")
  else
    let rows := tables.runs.filter fun row =>
      filters.select row.provider row.model row.suiteId row.suiteVersion
    restoreRuns tables
      ((sortedBy (fun row => toLex (row.startedAt, row.runId)) rows).reverse.take limit.toNat)

/-- The exact scope of a benchmark history. -/
structure Scope where
  provider : String
  model : String
  suiteId : String
  suiteVersion : String
  suiteFingerprint : String
  deriving DecidableEq

/-- `list_matching_runs`. -/
def listMatchingRuns (tables : Tables) (scope : Scope) : Except PyError (List BenchmarkRun) :=
  let rows := tables.runs.filter fun row =>
    (⟨row.provider, row.model, row.suiteId, row.suiteVersion, row.suiteFingerprint⟩ : Scope) = scope
  restoreRuns tables (sortedBy (fun row => toLex (row.finishedAt, row.runId)) rows)

end ModelPilot.BenchmarkStore
