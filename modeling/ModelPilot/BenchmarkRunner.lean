import ModelPilot.QualityAggregation

/-! Explicit sequential benchmark execution (`benchmarks/runner.py`): one
provider call per case, in suite order, ended early only by an authentication
failure. -/
namespace ModelPilot

/-- `value.get(name)` of a decoded object; of repeated members the last is
kept. -/
def Json.get? (name : String) : Json → Option Json
  | .obj members => DictEntries.lookup name members.reverse
  | _ => none

namespace BenchmarkRunner

/-- What the runner sends for a case. -/
structure CaseRequest where
  model : String
  messages : List BenchmarkMessage
  temperature : ℚ
  maxTokens : Int

/-- How a call ends: an outcome, the runner's own deadline after some
milliseconds on the clock, or any other exception. -/
inductive CaseReply where
  | outcome (outcome : ProviderOutcome)
  | deadline (elapsedMs : ℚ)
  | raised (error : PyError)

/-- A provider: its name, and its reply to each call by number. -/
structure CaseProvider where
  name : String
  complete : Nat → CaseRequest → CaseReply

/-- A validated configuration. -/
abbrev Config := { config : BenchmarkRunConfig // config.check = .ok () }

/-- `extract_assistant_text`. -/
def extractAssistantText (response : Payload) : Option String :=
  match response.get? "choices" with
  | some (.arr (first :: _)) =>
    match (first.get? "message").bind (·.get? "content") with
    | some (.str text) => some text
    | _ => none
  | _ => none

def caseRequest (target : BenchmarkTarget) (config : BenchmarkRunConfig) (case_ : BenchmarkCase) :
    CaseRequest where
  model := target.model
  messages := case_.messages
  temperature := config.temperature
  maxTokens := config.maxTokens

/-- The evaluation and the error of an outcome: a success without assistant
text is an invalid response. -/
def evaluateOutcome (texts : AnswerTexts) (case_ : BenchmarkCase) (outcome : ProviderOutcome) :
    Except PyError (Option CaseEvaluation × Option ProviderErrorType) :=
  if outcome.success then
    match outcome.response with
    | none => .error .assertion
    | some response =>
      match extractAssistantText response with
      | none => .ok (none, some .invalidResponse)
      | some text => (evaluateCase texts case_.evaluator text).map fun evaluation =>
        (some evaluation, outcome.errorType)
  else .ok (none, outcome.errorType)

/-- A case result, as far as it does not depend on the reply. -/
def caseResult (target : BenchmarkTarget) (case_ : BenchmarkCase)
    (errorType : Option ProviderErrorType) (evaluation : Option CaseEvaluation) (latencyMs : ℚ) :
    BenchmarkCaseResult where
  toTargetFields := target.toTargetFields
  caseId := case_.caseId
  category := case_.category
  executionStatus := if errorType.isSome then .providerFailed else .completed
  latencyMs
  errorType
  evaluation

/-- `_run_case`, after the reply. -/
def settleCase (texts : AnswerTexts) (target : BenchmarkTarget) (case_ : BenchmarkCase)
    (reply : CaseReply) : Except PyError BenchmarkCaseResult :=
  match reply with
  | .raised error => .error error
  | .deadline elapsedMs => do
    let result := caseResult target case_ (some .timeout) none (max 0 elapsedMs)
    result.check
    .ok result
  | .outcome outcome =>
    if outcome.key ≠ target.toTargetFields.key then
      .error (.value "outcome does not match benchmark target")
    else do
      let (evaluation, errorType) ← evaluateOutcome texts case_ outcome
      let result :=
        { caseResult target case_ errorType evaluation outcome.latencyMs with
          inputTokens := outcome.inputTokens.map Int.ofNat
          outputTokens := outcome.outputTokens.map Int.ofNat
          totalTokens := outcome.totalTokens.map Int.ofNat }
      result.check
      .ok result

/-- The loop over the cases, the first of them being call `position`. -/
def runCases (texts : AnswerTexts) (target : BenchmarkTarget) (config : BenchmarkRunConfig)
    (provider : CaseProvider) : Nat → List BenchmarkCase → Except PyError (List BenchmarkCaseResult)
  | _, [] => .ok []
  | position, case_ :: rest => do
    let reply := provider.complete position (caseRequest target config case_)
    let result ← settleCase texts target case_ reply
    if result.errorType = some .authenticationError then .ok [result]
    else do
      let results ← runCases texts target config provider (position + 1) rest
      .ok (result :: results)

/-- `_now`. -/
def now (reading : Datetime) : Except PyError Int :=
  match reading with
  | .naive _ => .error (.value "benchmark clock must be timezone-aware")
  | .aware _ _ => reading.astimezone

/-- The platform of one run: two clock readings and an identifier. -/
structure RunContext where
  startReading : Datetime
  finishReading : Datetime
  runId : String

/-- `BenchmarkRunner.run`. -/
def run (platform : Platform) (suite : BenchmarkSuite platform.texts) (target : BenchmarkTarget)
    (provider : CaseProvider) (config : Option Config) (context : RunContext) :
    Except PyError BenchmarkRun := do
  let config : BenchmarkRunConfig := config.elim {} Subtype.val
  require (provider.name = target.provider) "provider does not match benchmark target"
  require ((suite.cases.length : Int) ≤ config.maxCases) "suite exceeds max_cases"
  let startedAt ← now context.startReading
  let results ← runCases platform.texts target config provider 0 suite.cases
  let failures := results.countP (·.executionStatus = .providerFailed)
  let finishedAt ← now context.finishReading
  BenchmarkRun.modelValidate
    { toTargetFields := target.toTargetFields
      runId := context.runId
      suiteId := suite.suiteId
      suiteVersion := suite.version
      suiteFingerprint := platform.fingerprint suite
      config
      startedAt := .utc startedAt
      finishedAt := .utc finishedAt
      status := if failures = 0 then .completed else .completedWithFailures
      totalCases := suite.cases.length
      completedCases := results.length - failures
      executionFailedCases := failures
      terminatedEarly := decide (results.length < suite.cases.length)
      caseResults := results }

end BenchmarkRunner
end ModelPilot
