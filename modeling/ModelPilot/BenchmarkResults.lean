import ModelPilot.BenchmarkDefinitions
import ModelPilot.ProviderOutcomes

/-! Benchmark targets, case results and runs, with their validators
(`benchmarks/results.py`). -/
namespace ModelPilot

structure TargetFields where
  provider : String
  model : String
  deriving DecidableEq, Repr

namespace TargetFields

/-- `explicit_identity`. -/
def isExplicit (value : String) : Bool := !lowersToAuto (strip value) && value = strip value

def check (target : TargetFields) : Except PyError Unit := do
  require (isNonBlank target.provider ∧ isExplicit target.provider) "provider"
  require (isNonBlank target.model ∧ isExplicit target.model) "model"

def key (target : TargetFields) : Key := (target.provider, target.model)

end TargetFields

/-- A validated target. -/
structure BenchmarkTarget extends TargetFields where
  valid : toTargetFields.check = .ok ()

/-- `BenchmarkTarget.model_validate`. -/
def BenchmarkTarget.modelValidate (fields : TargetFields) : Except PyError BenchmarkTarget :=
  match valid : fields.check with
  | .ok () => .ok ⟨fields, valid⟩
  | .error error => .error error

theorem BenchmarkTarget.modelValidate_self (target : BenchmarkTarget) :
    modelValidate target.toTargetFields = .ok target :=
  validated_ok (BenchmarkTarget.mk target.toTargetFields) target.valid

theorem BenchmarkTarget.modelValidate_fields {target : BenchmarkTarget}
    (accepted : modelValidate fields = .ok target) : target.toTargetFields = fields := by
  unfold modelValidate at accepted
  split at accepted
  · cases accepted
    rfl
  · cases accepted

structure BenchmarkRunConfig where
  maxCases : Int := 100
  caseTimeoutSeconds : ℚ := 30
  temperature : ℚ := 0
  maxTokens : Int := 1024
  deriving DecidableEq

def BenchmarkRunConfig.check (config : BenchmarkRunConfig) : Except PyError Unit := do
  require (0 < config.maxCases) "max_cases"
  require (0 < config.caseTimeoutSeconds) "case_timeout_seconds"
  require (0 ≤ config.temperature ∧ config.temperature ≤ 2) "temperature"
  require (0 < config.maxTokens) "max_tokens"

inductive ExecutionStatus where
  | completed
  | providerFailed
  deriving DecidableEq, Repr

structure BenchmarkCaseResult extends TargetFields where
  caseId : String
  category : BenchmarkCategory
  executionStatus : ExecutionStatus
  latencyMs : ℚ
  inputTokens : Option Int := none
  outputTokens : Option Int := none
  totalTokens : Option Int := none
  errorType : Option ProviderErrorType := none
  evaluation : Option CaseEvaluation := none
  deriving DecidableEq

namespace BenchmarkCaseResult

def checkCount (count : Int) : Except PyError Unit := require (0 ≤ count) "token count"

/-- `consistent_execution`. -/
def consistentExecution (result : BenchmarkCaseResult) : Except PyError Unit :=
  match result.executionStatus with
  | .completed =>
    require (result.evaluation.isSome ∧ result.errorType = none)
      "completed cases require evaluation and no execution error"
  | .providerFailed =>
    require (result.evaluation = none ∧ result.errorType.isSome)
      "failed cases require an error and no evaluation"

def check (result : BenchmarkCaseResult) : Except PyError Unit := do
  result.toTargetFields.check
  require (isIdentifier result.caseId) "case_id"
  require (0 ≤ result.latencyMs) "latency_ms"
  checkSome checkCount result.inputTokens
  checkSome checkCount result.outputTokens
  checkSome checkCount result.totalTokens
  checkSome CaseEvaluation.check result.evaluation
  result.consistentExecution

end BenchmarkCaseResult

inductive RunStatus where
  | completed
  | completedWithFailures
  deriving DecidableEq, Repr

/-- The field values of a run, its times as given (`Datetime`) or converted to
UTC (`Int`). -/
structure RunFields (τ : Type) extends TargetFields where
  runId : String
  suiteId : String
  suiteVersion : String
  suiteFingerprint : String
  config : BenchmarkRunConfig
  startedAt : τ
  finishedAt : τ
  status : RunStatus
  totalCases : Int
  completedCases : Int
  executionFailedCases : Int
  terminatedEarly : Bool := false
  caseResults : List BenchmarkCaseResult
  deriving DecidableEq

namespace RunFields

/-- The results that completed. -/
def completedResults (run : RunFields τ) : Nat :=
  run.caseResults.countP (·.executionStatus = .completed)

/-- The positions of authentication failures. -/
def authIndices (run : RunFields τ) : List Nat :=
  (run.caseResults.zipIdx.filter fun result =>
    result.1.errorType = some .authenticationError).map Prod.snd

/-- `consistent_run`. -/
def consistentRun (run : RunFields Int) : Except PyError Unit := do
  let results := run.caseResults.length
  let failures := results - run.completedResults
  let partial_ := decide ((results : Int) < run.totalCases)
  require (run.startedAt ≤ run.finishedAt) "finished_at precedes started_at"
  require ((run.completedResults : Int) = run.completedCases ∧
    (failures : Int) = run.executionFailedCases) "case counts disagree"
  require (run.caseResults ≠ [] ∧ (results : Int) ≤ run.totalCases) "invalid result count"
  require (run.caseResults.map (·.caseId)).Nodup "duplicate result case_id"
  require (∀ result ∈ run.caseResults, result.toTargetFields = run.toTargetFields)
    "result target differs from run target"
  require (run.authIndices = [] ∨ run.authIndices = [results - 1])
    "authentication failure must be terminal"
  require (run.terminatedEarly = partial_ ∧ (partial_ = true → run.authIndices ≠ []))
    "only authentication failure may terminate a run early"
  require (run.status = if failures = 0 then .completed else .completedWithFailures)
    "run status disagrees with results"

/-- Field constraints, then the run validator. -/
def check (run : RunFields Int) : Except PyError Unit := do
  run.toTargetFields.check
  require (isIdentifier run.runId) "run_id"
  require (isIdentifier run.suiteId) "suite_id"
  require (isIdentifier run.suiteVersion) "suite_version"
  require (isFingerprint run.suiteFingerprint) "suite_fingerprint"
  run.config.check
  require (0 < run.totalCases) "total_cases"
  require (0 ≤ run.completedCases) "completed_cases"
  require (0 ≤ run.executionFailedCases) "execution_failed_cases"
  checkAll BenchmarkCaseResult.check run.caseResults
  run.consistentRun

/-- The same fields with other times. -/
def withTimes (run : RunFields σ) (startedAt finishedAt : τ) : RunFields τ :=
  { run with startedAt, finishedAt }

/-- What `check` accepts. -/
structure Valid (run : RunFields Int) : Prop where
  target : run.toTargetFields.check = .ok ()
  runId : isIdentifier run.runId = true
  suiteId : isIdentifier run.suiteId = true
  suiteVersion : isIdentifier run.suiteVersion = true
  suiteFingerprint : isFingerprint run.suiteFingerprint = true
  config : run.config.check = .ok ()
  totalCases : 0 < run.totalCases
  results : ∀ result ∈ run.caseResults, result.check = .ok ()
  ordered : run.startedAt ≤ run.finishedAt
  completed : run.completedCases = run.completedResults
  failed : run.executionFailedCases = run.caseResults.length - run.completedResults
  nonempty : run.caseResults ≠ []
  within : (run.caseResults.length : Int) ≤ run.totalCases
  caseIds : (run.caseResults.map (·.caseId)).Nodup
  targets : ∀ result ∈ run.caseResults, result.toTargetFields = run.toTargetFields
  terminal : run.authIndices = [] ∨ run.authIndices = [run.caseResults.length - 1]
  early : run.terminatedEarly = decide ((run.caseResults.length : Int) < run.totalCases)
  authenticated : (run.caseResults.length : Int) < run.totalCases → run.authIndices ≠ []
  status : run.status =
    if run.caseResults.length = run.completedResults then .completed else .completedWithFailures

theorem completedResults_le (run : RunFields τ) :
    run.completedResults ≤ run.caseResults.length :=
  List.countP_le_length

theorem check_ok_iff (run : RunFields Int) : run.check = .ok () ↔ run.Valid := by
  have bound := run.completedResults_le
  have none_failed : (run.caseResults.length - run.completedResults = 0) =
      (run.caseResults.length = run.completedResults) := propext (by omega)
  simp only [check, consistentRun, then_ok_iff, require_ok_iff, checkAll_ok_iff,
    decide_eq_true_eq, none_failed]
  constructor
  · rintro ⟨target, runId, suiteId, suiteVersion, fingerprint, config, total, _, _, results,
      ordered, ⟨completed, failed⟩, ⟨nonempty, within⟩, caseIds, targets, terminal,
      ⟨early, authenticated⟩, status⟩
    exact ⟨target, runId, suiteId, suiteVersion, fingerprint, config, total, results, ordered,
      completed.symm, by omega, nonempty, within, caseIds, targets, terminal, early,
      authenticated, status⟩
  · intro valid
    have completed := valid.completed
    have failed := valid.failed
    exact ⟨valid.target, valid.runId, valid.suiteId, valid.suiteVersion, valid.suiteFingerprint,
      valid.config, valid.totalCases, by omega, by omega, valid.results, valid.ordered,
      ⟨completed.symm, by omega⟩, ⟨valid.nonempty, valid.within⟩, valid.caseIds, valid.targets,
      valid.terminal, ⟨valid.early, valid.authenticated⟩, valid.status⟩

end RunFields

/-- A frozen, validated run. -/
structure BenchmarkRun extends RunFields Int where
  valid : toRunFields.check = .ok ()
  startedRange : Datetime.InRange startedAt
  finishedRange : Datetime.InRange finishedAt

namespace BenchmarkRun

/-- `BenchmarkRun.model_validate`. -/
def modelValidate (fields : RunFields Datetime) : Except PyError BenchmarkRun :=
  match started : fields.startedAt.astimezone with
  | .error error => .error error
  | .ok startedAt =>
    match finished : fields.finishedAt.astimezone with
    | .error error => .error error
    | .ok finishedAt =>
      match valid : (fields.withTimes startedAt finishedAt).check with
      | .error error => .error error
      | .ok () =>
        .ok ⟨fields.withTimes startedAt finishedAt, valid,
          (Datetime.astimezone_ok_iff.mp started).2, (Datetime.astimezone_ok_iff.mp finished).2⟩

/-- `run.model_dump()`. -/
def modelDump (run : BenchmarkRun) : RunFields Datetime :=
  run.toRunFields.withTimes (.utc run.startedAt) (.utc run.finishedAt)

theorem ext_fields {left right : BenchmarkRun} (same : left.toRunFields = right.toRunFields) :
    left = right := by
  cases left
  cases right
  cases same
  rfl

theorem wellFormed (run : BenchmarkRun) : run.toRunFields.Valid :=
  (RunFields.check_ok_iff _).mp run.valid

/-- What validation accepts, and the run it gives. -/
theorem modelValidate_ok_iff {fields : RunFields Datetime} {run : BenchmarkRun} :
    modelValidate fields = .ok run ↔
      fields.startedAt.astimezone = .ok run.startedAt ∧
      fields.finishedAt.astimezone = .ok run.finishedAt ∧
      fields.withTimes run.startedAt run.finishedAt = run.toRunFields := by
  unfold modelValidate
  constructor
  · intro accepted
    split at accepted
    · cases accepted
    split at accepted
    · cases accepted
    split at accepted
    · cases accepted
    rename_i started _ finished _
    cases accepted
    exact ⟨started, finished, rfl⟩
  · rintro ⟨started, finished, same⟩
    have valid := run.valid
    rw [← same] at valid
    split
    · rename_i refused
      rw [started] at refused
      cases refused
    rename_i startedAt reading
    rw [started] at reading
    cases reading
    split
    · rename_i refused
      rw [finished] at refused
      cases refused
    rename_i finishedAt reading
    rw [finished] at reading
    cases reading
    split
    · rename_i refused
      rw [valid] at refused
      cases refused
    exact congrArg Except.ok (ext_fields same)

/-- A validated run survives re-validation. -/
theorem modelValidate_dump (run : BenchmarkRun) : modelValidate run.modelDump = .ok run :=
  modelValidate_ok_iff.mpr ⟨Datetime.astimezone_utc run.startedRange,
    Datetime.astimezone_utc run.finishedRange, rfl⟩

instance : DecidableEq BenchmarkRun := fun left right =>
  decidable_of_iff (left.toRunFields = right.toRunFields)
    ⟨ext_fields, fun same => same ▸ rfl⟩

end BenchmarkRun
end ModelPilot
