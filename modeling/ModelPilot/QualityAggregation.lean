import Mathlib.Data.String.Basic
import ModelPilot.BenchmarkResults
import ModelPilot.LatestWins

/-! Quality evidence from benchmark history: the snapshot models with their
exact self-consistency checks, and the aggregation of latest attempts
(`benchmarks/quality.py`). -/
namespace ModelPilot

structure QualityMetrics where
  qualityScore : Option ℚ
  coverage : ℚ
  executionCompleteness : ℚ
  weightedEvaluationCoverage : ℚ
  confidence : ℚ
  totalCases : Int
  observedCases : Int
  evaluatedCases : Int
  executionFailedCases : Int
  deriving DecidableEq

/-- `_confidence`. -/
def confidenceOf (float : Rounding) (evaluated : Int) (weightedCoverage completeness : ℚ) : ℚ :=
  float.mul (float.mul (max 0 (min 1 (float.div (evaluated - 5) 45))) weightedCoverage) completeness

namespace QualityMetrics

def checkRatio (value : ℚ) : Except PyError Unit := require (Rounding.InUnit value) "ratio"

/-- Field constraints and `consistent_metrics`. -/
def check (float : Rounding) (metrics : QualityMetrics) : Except PyError Unit := do
  checkSome checkRatio metrics.qualityScore
  checkRatio metrics.coverage
  checkRatio metrics.executionCompleteness
  checkRatio metrics.weightedEvaluationCoverage
  checkRatio metrics.confidence
  require (0 < metrics.totalCases) "total_cases"
  require (0 ≤ metrics.observedCases) "observed_cases"
  require (0 ≤ metrics.evaluatedCases) "evaluated_cases"
  require (0 ≤ metrics.executionFailedCases) "execution_failed_cases"
  require (metrics.evaluatedCases ≤ metrics.observedCases ∧
    metrics.observedCases ≤ metrics.totalCases) "inconsistent evidence counts"
  require (metrics.executionFailedCases = metrics.observedCases - metrics.evaluatedCases)
    "failure count disagrees"
  require (metrics.qualityScore = none ↔ metrics.evaluatedCases = 0)
    "quality must be null exactly when no cases were evaluated"
  require (metrics.coverage = float.div metrics.observedCases metrics.totalCases)
    "coverage disagrees with counts"
  require (metrics.executionCompleteness = float.div metrics.evaluatedCases metrics.totalCases)
    "completeness disagrees with counts"
  require (metrics.evaluatedCases = 0 → metrics.weightedEvaluationCoverage = 0)
    "no evaluations means zero evaluated weight"
  require (metrics.evaluatedCases = metrics.totalCases → metrics.weightedEvaluationCoverage = 1)
    "all evaluations means full evaluated weight"
  require (metrics.confidence = confidenceOf float metrics.evaluatedCases
    metrics.weightedEvaluationCoverage metrics.executionCompleteness)
    "confidence disagrees with policy"

end QualityMetrics

structure CategoryQualitySnapshot extends QualityMetrics where
  category : BenchmarkCategory
  deriving DecidableEq

/-- The field values of a snapshot, its time as given or in UTC. -/
structure SnapshotFields (τ : Type) extends QualityMetrics, TargetFields where
  suiteId : String
  suiteVersion : String
  suiteFingerprint : String
  policyVersion : String := "latest_attempt_v1"
  runConfig : Option BenchmarkRunConfig
  sourceRunCount : Int
  sourceRunIds : List String
  latestRunId : Option String
  latestRunCoverage : Option ℚ
  latestRunCompleteness : Option ℚ
  categories : List CategoryQualitySnapshot
  generatedAt : τ
  deriving DecidableEq

namespace SnapshotFields

/-- `tuple(sorted(set(values)))`. -/
def sortedSet (values : List String) : List String := sortedBy id values.dedup

def checkIdentifier (value : String) : Except PyError Unit :=
  require (isIdentifier value) "identifier"

/-- The latest run's diagnostics, present with sources and absent without. -/
def consistentLatest (snapshot : SnapshotFields Int) : Except PyError Unit :=
  if snapshot.sourceRunCount ≠ 0 then do
    require (snapshot.latestRunId.any (· ∈ snapshot.sourceRunIds) ∧ snapshot.runConfig.isSome)
      "latest run and config required"
    match snapshot.latestRunCoverage, snapshot.latestRunCompleteness with
    | some coverage, some completeness => do
      require (completeness ≤ coverage ∧ coverage ≤ snapshot.coverage)
        "inconsistent latest run diagnostics"
      require (completeness ≤ snapshot.executionCompleteness)
        "latest evaluations exceed combined evaluations"
    | _, _ => .error (.value "latest run diagnostics required")
  else
    require (snapshot.latestRunId = none ∧ snapshot.latestRunCoverage = none ∧
      snapshot.latestRunCompleteness = none ∧ snapshot.runConfig = none)
      "empty evidence cannot have latest run metadata"

/-- `consistent_provenance`. -/
def consistentProvenance (snapshot : SnapshotFields Int) : Except PyError Unit := do
  require (snapshot.sourceRunIds = sortedSet snapshot.sourceRunIds)
    "source IDs must be unique and sorted"
  require (snapshot.sourceRunCount = snapshot.sourceRunIds.length) "source count disagrees"
  require (snapshot.sourceRunCount ≠ 0 ↔ snapshot.observedCases ≠ 0)
    "sources disagree with observations"
  snapshot.consistentLatest
  require (snapshot.categories.map (·.category)).Nodup "duplicate categories"
  require ((snapshot.categories.map (·.totalCases)).sum = snapshot.totalCases ∧
    (snapshot.categories.map (·.observedCases)).sum = snapshot.observedCases ∧
    (snapshot.categories.map (·.evaluatedCases)).sum = snapshot.evaluatedCases ∧
    (snapshot.categories.map (·.executionFailedCases)).sum = snapshot.executionFailedCases)
    "category counts disagree with overall"

/-- Field constraints, then the two model validators. -/
def check (float : Rounding) (snapshot : SnapshotFields Int) : Except PyError Unit := do
  snapshot.toTargetFields.check
  checkIdentifier snapshot.suiteId
  checkIdentifier snapshot.suiteVersion
  require (isFingerprint snapshot.suiteFingerprint) "suite_fingerprint"
  require (snapshot.policyVersion = "latest_attempt_v1") "policy_version"
  checkSome BenchmarkRunConfig.check snapshot.runConfig
  require (0 ≤ snapshot.sourceRunCount) "source_run_count"
  checkAll checkIdentifier snapshot.sourceRunIds
  checkSome checkIdentifier snapshot.latestRunId
  checkSome QualityMetrics.checkRatio snapshot.latestRunCoverage
  checkSome QualityMetrics.checkRatio snapshot.latestRunCompleteness
  checkAll (fun category => category.toQualityMetrics.check float) snapshot.categories
  snapshot.toQualityMetrics.check float
  snapshot.consistentProvenance

/-- The same fields with another time. -/
def withTime (snapshot : SnapshotFields σ) (generatedAt : τ) : SnapshotFields τ :=
  { snapshot with generatedAt }

end SnapshotFields

/-- A validated snapshot. -/
structure QualitySnapshot (float : Rounding) extends SnapshotFields Int where
  valid : toSnapshotFields.check float = .ok ()
  generatedRange : Datetime.InRange generatedAt

namespace QualitySnapshot
variable {float : Rounding}

/-- `QualitySnapshot.model_validate`. -/
def modelValidate (float : Rounding) (fields : SnapshotFields Datetime) :
    Except PyError (QualitySnapshot float) :=
  match generated : fields.generatedAt.astimezone with
  | .error error => .error error
  | .ok generatedAt =>
    match valid : (fields.withTime generatedAt).check float with
    | .error error => .error error
    | .ok () => .ok ⟨fields.withTime generatedAt, valid, (Datetime.astimezone_ok_iff.mp generated).2⟩

theorem ext_fields {left right : QualitySnapshot float}
    (same : left.toSnapshotFields = right.toSnapshotFields) : left = right := by
  cases left
  cases right
  cases same
  rfl

theorem modelValidate_ok_iff {fields : SnapshotFields Datetime}
    {snapshot : QualitySnapshot float} :
    modelValidate float fields = .ok snapshot ↔
      fields.generatedAt.astimezone = .ok snapshot.generatedAt ∧
      fields.withTime snapshot.generatedAt = snapshot.toSnapshotFields := by
  unfold modelValidate
  constructor
  · intro accepted
    split at accepted
    · cases accepted
    split at accepted
    · cases accepted
    rename_i generated _
    cases accepted
    exact ⟨generated, rfl⟩
  · rintro ⟨generated, same⟩
    have valid := snapshot.valid
    rw [← same] at valid
    split
    · rename_i refused
      rw [generated] at refused
      cases refused
    rename_i reading
    rw [generated] at reading
    cases reading
    split
    · rename_i refused
      rw [valid] at refused
      cases refused
    exact congrArg Except.ok (ext_fields same)

end QualitySnapshot

/-- What the benchmark code takes from its platform: float rounding, the text
handling of answers, and the SHA-256 digest of a suite's canonical JSON. -/
structure Platform where
  float : Rounding
  texts : AnswerTexts
  fingerprint : BenchmarkSuite texts → String
  digest : ∀ suite, isFingerprint (fingerprint suite) = true

namespace QualityAggregation

/-- The cases with an evaluation in the evidence. -/
def evaluatedCases (cases : List BenchmarkCase) (evidence : Dict String BenchmarkCaseResult) :
    List (BenchmarkCase × CaseEvaluation) :=
  cases.filterMap fun case_ =>
    ((evidence.get? case_.caseId).bind (·.evaluation)).map (case_, ·)

/-- `_metrics`. -/
def metrics (float : Rounding) (cases : List BenchmarkCase)
    (evidence : Dict String BenchmarkCaseResult) : Except PyError QualityMetrics :=
  let evaluated := evaluatedCases cases evidence
  let totalWeight := (cases.map (·.weight)).sum
  let evaluatedWeight := (evaluated.map (·.1.weight)).sum
  let quality :=
    if evaluated = [] then none
    else some (float.div (evaluated.map fun entry => entry.1.weight * entry.2.score).sum
      evaluatedWeight)
  let observed := cases.countP fun case_ => (evidence.get? case_.caseId).isSome
  if cases = [] then .error (.other "ZeroDivisionError")
  else do
    let completeness := float.div evaluated.length cases.length
    let weightedCoverage := float.div evaluatedWeight totalWeight
    let result : QualityMetrics :=
      { qualityScore := quality
        coverage := float.div observed cases.length
        executionCompleteness := completeness
        weightedEvaluationCoverage := weightedCoverage
        confidence := confidenceOf float evaluated.length weightedCoverage completeness
        totalCases := cases.length
        observedCases := observed
        evaluatedCases := evaluated.length
        executionFailedCases := observed - evaluated.length }
    result.check float
    .ok result

/-- The runs seen so far by identifier, and the configuration of the last. -/
structure Gathered where
  unique : Dict String BenchmarkRun := .empty
  config : Option BenchmarkRunConfig := none

/-- A result against the case at its position. -/
def matchCase (entry : BenchmarkCase × BenchmarkCaseResult) : Except PyError Unit := do
  require ((entry.1.caseId, entry.1.category) = (entry.2.caseId, entry.2.category))
    "case identity/category/order mismatch"
  checkSome (fun evaluation =>
    require ((evaluation.evaluatorKind, evaluation.evaluatorVersion) =
      (entry.1.evaluator.kind, entry.1.evaluator.evaluatorVersion))
      "evaluator provenance mismatch") entry.2.evaluation

/-- The compatibility checks of one validated run, in the order of the loop. -/
def compatible (platform : Platform) (suite : BenchmarkSuite platform.texts)
    (target : BenchmarkTarget) (state : Gathered) (run : BenchmarkRun) : Except PyError Unit := do
  require (run.toTargetFields.key = target.key) "run target mismatch"
  require ((run.suiteId, run.suiteVersion, run.suiteFingerprint) =
    (suite.suiteId, suite.version, platform.fingerprint suite))
    "run suite identity/fingerprint mismatch"
  checkSome (fun config => require (run.config = config) "incompatible run configuration")
    state.config
  require (run.totalCases = suite.cases.length) "run total disagrees with definition"
  checkAll matchCase (suite.cases.zip run.caseResults)
  checkSome (fun previous => require (previous = run) "conflicting duplicate run ID")
    (state.unique.get? run.runId)

/-- The loop over the supplied runs. -/
def gather (platform : Platform) (suite : BenchmarkSuite platform.texts)
    (target : BenchmarkTarget) : List (RunFields Datetime) → Gathered → Except PyError Gathered
  | [], state => .ok state
  | original :: rest, state => do
    let run ← BenchmarkRun.modelValidate original
    compatible platform suite target state run
    gather platform suite target rest
      { unique := state.unique.set run.runId run, config := some run.config }

/-- The order of attempts: `(finished_at, run_id)`. -/
def rank (run : BenchmarkRun) : Int ×ₗ String := toLex (run.finishedAt, run.runId)

/-- `evidence` and, with another value, `sources`. -/
def replayed (value : BenchmarkRun → BenchmarkCaseResult → ν) (ordered : List BenchmarkRun) :
    Dict String ν :=
  LatestWins.replay (·.caseResults) (·.caseId) value ordered

/-- The categories in order of first use. -/
def categoriesOf (cases : List BenchmarkCase) : List BenchmarkCategory :=
  (Dict.ofList (cases.map fun case_ => (case_.category, ()))).keys

/-- `_metrics` of each category. -/
def categorySnapshots (float : Rounding) (cases : List BenchmarkCase)
    (evidence : Dict String BenchmarkCaseResult) :
    List BenchmarkCategory → Except PyError (List CategoryQualitySnapshot)
  | [] => .ok []
  | category :: rest => do
    let own ← metrics float (cases.filter (·.category = category)) evidence
    let others ← categorySnapshots float cases evidence rest
    .ok ({ toQualityMetrics := own, category } :: others)

/-- The part of `aggregate_quality` behind the loop. -/
def summarize (platform : Platform) (suite : BenchmarkSuite platform.texts)
    (target : BenchmarkTarget) (state : Gathered) (generatedAt : Datetime) :
    Except PyError (QualitySnapshot platform.float) := do
  let ordered := sortedBy rank state.unique.values
  let evidence := replayed (fun _ result => result) ordered
  let sources := replayed (fun run _ => run.runId) ordered
  let latest := ordered.getLast?
  let sourceIds := SnapshotFields.sortedSet sources.values
  let overall ← metrics platform.float suite.cases evidence
  let categories ← categorySnapshots platform.float suite.cases evidence (categoriesOf suite.cases)
  QualitySnapshot.modelValidate platform.float
    { toQualityMetrics := overall
      toTargetFields := target.toTargetFields
      suiteId := suite.suiteId
      suiteVersion := suite.version
      suiteFingerprint := platform.fingerprint suite
      runConfig := state.config
      sourceRunCount := sourceIds.length
      sourceRunIds := sourceIds
      latestRunId := latest.map (·.runId)
      latestRunCoverage := latest.map fun run =>
        platform.float.div run.caseResults.length suite.cases.length
      latestRunCompleteness := latest.map fun run =>
        platform.float.div run.completedCases suite.cases.length
      categories
      generatedAt }

/-- `aggregate_quality`. -/
def aggregateQuality (platform : Platform) (suite : SuiteFields) (runs : List (RunFields Datetime))
    (target : TargetFields) (generatedAt : Datetime) :
    Except PyError (QualitySnapshot platform.float) := do
  let suite ← BenchmarkSuite.modelValidate platform.texts suite
  let target ← BenchmarkTarget.modelValidate target
  let state ← gather platform suite target runs {}
  summarize platform suite target state generatedAt

end QualityAggregation
end ModelPilot
