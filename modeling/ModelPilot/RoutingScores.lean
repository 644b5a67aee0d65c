import ModelPilot.QualityAggregation
import ModelPilot.RoutingSignals

/-! Scores of routing candidates (`router.py`): static estimates, blended with
measured metrics and benchmark quality as far as the evidence goes. Float and
`Decimal` operations round their exact results. -/
namespace ModelPilot

/-- A float as JSON can give it. Minus infinity is refused like any negative
number wherever a float is read. -/
inductive PyFloat where
  | finite (value : ℚ)
  | inf
  | nan
  deriving DecidableEq

namespace PyFloat

def add (float : Rounding) : PyFloat → PyFloat → PyFloat
  | .nan, _ => .nan
  | _, .nan => .nan
  | .inf, _ => .inf
  | _, .inf => .inf
  | .finite left, .finite right => .finite (float.add left right)

/-- Division by a positive number. -/
def div (float : Rounding) : PyFloat → PyFloat → PyFloat
  | .nan, _ => .nan
  | _, .nan => .nan
  | .inf, .inf => .nan
  | .inf, .finite _ => .inf
  | .finite _, .inf => .finite 0
  | .finite left, .finite right => .finite (float.div left right)

/-- A score times a weight. -/
def scale (float : Rounding) (score : ℚ) : PyFloat → PyFloat
  | .nan => .nan
  | .inf => if score = 0 then .nan else .inf
  | .finite weight => .finite (float.mul score weight)

def Nonneg : PyFloat → Prop
  | .finite value => 0 ≤ value
  | .inf => True
  | .nan => False

instance : DecidablePred Nonneg := fun value =>
  match value with
  | .finite value => inferInstanceAs (Decidable (0 ≤ value))
  | .inf => isTrue trivial
  | .nan => isFalse id

/-- `value <= 0`. -/
def AtMostZero : PyFloat → Prop
  | .finite value => value ≤ 0
  | _ => False

instance : DecidablePred AtMostZero := fun value =>
  match value with
  | .finite value => inferInstanceAs (Decidable (value ≤ 0))
  | .inf => isFalse id
  | .nan => isFalse id

end PyFloat

/-- The four weights, as requested or normalized. -/
structure Weights where
  quality : PyFloat
  cost : PyFloat
  latency : PyFloat
  reliability : PyFloat
  deriving DecidableEq

/-- The weights added up in their order. -/
def Weights.total (float : Rounding) (weights : Weights) : PyFloat :=
  (((weights.quality.add float weights.cost).add float weights.latency).add float
    weights.reliability)

/-- Field constraints and `require_positive_total`. -/
def Weights.check (float : Rounding) (weights : Weights) : Except PyError Unit := do
  require weights.quality.Nonneg "quality"
  require weights.cost.Nonneg "cost"
  require weights.latency.Nonneg "latency"
  require weights.reliability.Nonneg "reliability"
  require (¬ (weights.total float).AtMostZero) "at least one routing preference must be positive"

structure RoutingPreferences (float : Rounding) extends Weights where
  valid : toWeights.check float = .ok ()

/-- `normalized`. -/
def RoutingPreferences.normalized {float : Rounding} (preferences : RoutingPreferences float) :
    Weights :=
  let total := preferences.total float
  { quality := preferences.quality.div float total
    cost := preferences.cost.div float total
    latency := preferences.latency.div float total
    reliability := preferences.reliability.div float total }

/-- The field values of a metrics snapshot. -/
structure MetricsFields where
  provider : String
  model : String
  sampleCount : Int
  successCount : Int
  failureCount : Int
  successRate : Option ℚ := none
  averageLatencyMs : Option ℚ := none
  p50LatencyMs : Option ℚ := none
  p95LatencyMs : Option ℚ := none
  pricedSampleCount : Int := 0
  estimatedAverageCost : Option ℚ := none
  p50EstimatedCost : Option ℚ := none
  windowStart : Int
  windowEnd : Int
  deriving DecidableEq

namespace MetricsFields

def checkNonneg (value : ℚ) : Except PyError Unit := require (0 ≤ value) "greater_than_equal"

/-- The counts of a snapshot with samples against its aggregates. -/
def measuredAggregates (float : Rounding) (snapshot : MetricsFields) : Except PyError Unit := do
  require (snapshot.pricedSampleCount ≤ snapshot.successCount)
    "priced_sample_count must not exceed success_count"
  require (snapshot.pricedSampleCount = 0 →
    snapshot.estimatedAverageCost = none ∧ snapshot.p50EstimatedCost = none)
    "cost aggregates require priced samples"
  require (0 < snapshot.pricedSampleCount →
    snapshot.estimatedAverageCost ≠ none ∧ snapshot.p50EstimatedCost ≠ none)
    "priced samples require cost aggregates"
  checkSome (fun rate => require
    (|rate - float.div snapshot.successCount snapshot.sampleCount| ≤ 1 / 10 ^ 9)
    "success_rate must match the snapshot counts") snapshot.successRate

/-- `validate_counts_and_aggregates`. -/
def validateCountsAndAggregates (float : Rounding) (snapshot : MetricsFields) :
    Except PyError Unit := do
  require (snapshot.windowStart ≤ snapshot.windowEnd)
    "window_end must not be earlier than window_start"
  require (snapshot.successCount + snapshot.failureCount = snapshot.sampleCount)
    "sample_count must equal success_count plus failure_count"
  if snapshot.sampleCount = 0 then
    require (snapshot.pricedSampleCount = 0 ∧ snapshot.successRate = none ∧
      snapshot.averageLatencyMs = none ∧ snapshot.p50LatencyMs = none ∧
      snapshot.p95LatencyMs = none ∧ snapshot.estimatedAverageCost = none ∧
      snapshot.p50EstimatedCost = none) "empty snapshots must use None for rates and aggregates"
  else snapshot.measuredAggregates float

/-- Field constraints, then the model validator. -/
def check (float : Rounding) (snapshot : MetricsFields) : Except PyError Unit := do
  SignalFields.checkText snapshot.provider
  SignalFields.checkText snapshot.model
  require (0 ≤ snapshot.sampleCount) "sample_count"
  require (0 ≤ snapshot.successCount) "success_count"
  require (0 ≤ snapshot.failureCount) "failure_count"
  checkSome SignalFields.checkUnit snapshot.successRate
  checkSome checkNonneg snapshot.averageLatencyMs
  checkSome checkNonneg snapshot.p50LatencyMs
  checkSome checkNonneg snapshot.p95LatencyMs
  require (0 ≤ snapshot.pricedSampleCount) "priced_sample_count"
  checkSome checkNonneg snapshot.estimatedAverageCost
  checkSome checkNonneg snapshot.p50EstimatedCost
  snapshot.validateCountsAndAggregates float

end MetricsFields

structure ProviderMetricsSnapshot (float : Rounding) extends MetricsFields where
  valid : toMetricsFields.check float = .ok ()

def ProviderMetricsSnapshot.key {float : Rounding} (snapshot : ProviderMetricsSnapshot float) :
    Key :=
  (snapshot.provider, snapshot.model)

/-- A configured candidate; `__post_init__` checks its static scores. -/
structure ModelCandidate where
  provider : String
  model : String
  quality : ℚ
  cost : ℚ
  latency : ℚ
  reliability : ℚ
  scores : Rounding.InUnit quality ∧ Rounding.InUnit cost ∧ Rounding.InUnit latency ∧
    Rounding.InUnit reliability

def ModelCandidate.key (candidate : ModelCandidate) : Key := (candidate.provider, candidate.model)

/-- A candidate with its score. Its provider object is the one registered under
the candidate's provider name. -/
structure RankedCandidate where
  candidate : ModelCandidate
  score : ℚ
  signal : RoutingSignal

namespace RoutingScores

def minMeasuredSamples : Int := 5
def fullConfidenceSamples : Int := 50
def latencyTargetMs : ℚ := 1000
def latencyCapMs : ℚ := 30000
def costTargetUsd : ℚ := 1 / 1000
def costEpsilon : ℚ := 1 / 10 ^ 12
def reliabilityPriorStrength : ℚ := 10

variable (float decimal : Rounding)

def confidenceForSamples (sampleCount : Int) : ℚ :=
  if sampleCount < minMeasuredSamples then 0
  else if fullConfidenceSamples ≤ sampleCount then 1
  else float.div (sampleCount - minMeasuredSamples) (fullConfidenceSamples - minMeasuredSamples)

/-- `_clamp`. -/
def clamp (value : ℚ) : ℚ := max 0 (min value 1)

def normalizeLatency (latencyMs : ℚ) : ℚ :=
  clamp (float.div latencyTargetMs (max (min latencyMs latencyCapMs) 1))

def normalizeCost (costUsd : ℚ) : ℚ :=
  clamp (float.round (decimal.div costTargetUsd (max costUsd costEpsilon)))

def blendScore (staticScore measuredScore confidence : ℚ) : ℚ :=
  float.add (float.mul staticScore (float.sub 1 confidence)) (float.mul measuredScore confidence)

/-- `_measured_source`. -/
def measuredSource (confidence : ℚ) : QualitySourceLabel :=
  if confidence = 1 then .measured else .blended

/-- The text of a label. -/
def label : QualitySourceLabel → String
  | .static => "static"
  | .blended => "blended"
  | .measured => "measured"

/-- One component of a score, its source and the confidence in it. -/
structure Component where
  score : ℚ
  source : String
  confidence : ℚ
  deriving DecidableEq

/-- A static score blended with a measured one over some samples, if there are
any. -/
def component (staticScore : ℚ) : Option (Int × ℚ) → Component
  | none => ⟨staticScore, "static_unavailable", 0⟩
  | some (samples, measured) =>
    let confidence := confidenceForSamples float samples
    if confidence = 0 then ⟨staticScore, "static_cold_start", confidence⟩
    else ⟨blendScore float staticScore measured confidence, label (measuredSource confidence),
      confidence⟩

/-- `_latency_signal`. -/
def latencySignal (staticScore : ℚ) (snapshot : Option (ProviderMetricsSnapshot float)) :
    Component :=
  component float staticScore (snapshot.bind fun snapshot =>
    snapshot.p50LatencyMs.map fun latency =>
      (snapshot.sampleCount, normalizeLatency float latency))

/-- `_reliability_signal`: the success rate with a prior at the static score. -/
def reliabilitySignal (staticScore : ℚ) (snapshot : Option (ProviderMetricsSnapshot float)) :
    Component :=
  component float staticScore (snapshot.bind fun snapshot =>
    snapshot.successRate.map fun _ =>
      (snapshot.sampleCount, clamp (float.div
        (float.add snapshot.successCount (float.mul staticScore reliabilityPriorStrength))
        (snapshot.sampleCount + reliabilityPriorStrength))))

/-- `_cost_signal`, over the priced samples. -/
def costSignal (staticScore : ℚ) (snapshot : Option (ProviderMetricsSnapshot float)) :
    Component :=
  component float staticScore (snapshot.bind fun snapshot =>
    snapshot.p50EstimatedCost.map fun cost =>
      (snapshot.pricedSampleCount, normalizeCost float decimal cost))

/-- The quality of a candidate and its source. -/
def qualitySignal (staticScore : ℚ) (snapshot : Option (QualitySnapshot float)) :
    ℚ × QualitySourceLabel :=
  match snapshot with
  | none => (staticScore, .static)
  | some snapshot =>
    match snapshot.qualityScore with
    | none => (staticScore, .static)
    | some measured =>
      if 0 < snapshot.confidence then
        (blendScore float staticScore measured snapshot.confidence,
          measuredSource snapshot.confidence)
      else (staticScore, .static)

/-- `round(value, 6)`. -/
def round6 (value : ℚ) : ℚ := float.round (roundDigits 6 value)

/-- The weighted sum of the four components. -/
def weightedSum (weights : Weights) (quality cost latency reliability : ℚ) : PyFloat :=
  (((weights.quality.scale float quality).add float (weights.cost.scale float cost)).add float
    (weights.latency.scale float latency)).add float (weights.reliability.scale float reliability)

/-- The signal `_score_candidate` builds, before validation. -/
def signalFields (candidate : ModelCandidate)
    (snapshot : Option (ProviderMetricsSnapshot float))
    (qualitySnapshot : Option (QualitySnapshot float)) (finalScore : ℚ) : SignalFields :=
  let (qualityScore, qualitySource) := qualitySignal float candidate.quality qualitySnapshot
  let latency := latencySignal float candidate.latency snapshot
  let reliability := reliabilitySignal float candidate.reliability snapshot
  let cost := costSignal float decimal candidate.cost snapshot
  let sampleCount := snapshot.elim 0 (·.sampleCount)
  { provider := candidate.provider
    model := candidate.model
    qualityScore
    qualitySource
    staticQualityScore := some candidate.quality
    benchmarkQualityScore := qualitySnapshot.bind (·.qualityScore)
    benchmarkConfidence := qualitySnapshot.map (·.confidence)
    benchmarkSuiteId := qualitySnapshot.map (·.suiteId)
    benchmarkSuiteVersion := qualitySnapshot.map (·.suiteVersion)
    benchmarkSuiteFingerprint := qualitySnapshot.map (·.suiteFingerprint)
    benchmarkGeneratedAt := qualitySnapshot.map (·.generatedAt)
    benchmarkSourceRunIds := qualitySnapshot.elim [] (·.sourceRunIds)
    benchmarkLatestRunId := qualitySnapshot.bind (·.latestRunId)
    benchmarkLatestRunCoverage := qualitySnapshot.bind (·.latestRunCoverage)
    benchmarkLatestRunCompleteness := qualitySnapshot.bind (·.latestRunCompleteness)
    latencyScore := round6 float latency.score
    reliabilityScore := round6 float reliability.score
    costScore := round6 float cost.score
    measuredSampleCount := sampleCount
    measuredConfidence := round6 float (confidenceForSamples float sampleCount)
    finalScore
    sources := Dict.ofList
      [(.quality, if qualitySource = .static then "configured" else label qualitySource),
        (.latency, latency.source), (.reliability, reliability.source), (.cost, cost.source)]
    reasonMetadata := Dict.ofList
      [("latency_sample_count", .int sampleCount),
        ("latency_confidence", .float (round6 float latency.confidence)),
        ("reliability_sample_count", .int sampleCount),
        ("reliability_confidence", .float (round6 float reliability.confidence)),
        ("cost_sample_count", .int (snapshot.elim 0 (·.pricedSampleCount))),
        ("cost_confidence", .float (round6 float cost.confidence))] }

/-- `_score_candidate`; a score that is not finite is refused by the signal. -/
def scoreCandidate (candidate : ModelCandidate) (weights : Weights)
    (snapshot : Option (ProviderMetricsSnapshot float))
    (qualitySnapshot : Option (QualitySnapshot float)) : Except PyError RankedCandidate :=
  match weightedSum float weights (qualitySignal float candidate.quality qualitySnapshot).1
      (costSignal float decimal candidate.cost snapshot).score
      (latencySignal float candidate.latency snapshot).score
      (reliabilitySignal float candidate.reliability snapshot).score with
  | .finite sum => do
    let score := round6 float sum
    let signal ← RoutingSignal.modelValidate
      (signalFields float decimal candidate snapshot qualitySnapshot score)
    .ok { candidate, score, signal }
  | _ => .error (.value "finite_number")

end RoutingScores
end ModelPilot
