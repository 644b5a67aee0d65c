import ModelPilot.RankingImprovement

/-! What counts as evidence. Too few samples, or a quality lookup without a usable
result, blend nothing into a score; any other evidence draws a component between
its static and its measured estimate. -/
namespace ModelPilot

open Rounding (InUnit)

namespace RoutingScores

variable {float decimal : Rounding} {staticScore measured confidence : ℚ}

/-- A measured score and the confidence in it. -/
structure Evidence where
  measured : ℚ
  confidence : ℚ

section Evidence

/-- A measured score over some samples. -/
def sampled (float : Rounding) (found : Option (Int × ℚ)) : Option Evidence :=
  found.map fun found => ⟨found.2, confidenceForSamples float found.1⟩

def latencyEvidence (snapshot : Option (ProviderMetricsSnapshot float)) : Option Evidence :=
  snapshot.bind fun snapshot => snapshot.p50LatencyMs.map fun latency =>
    ⟨normalizeLatency float latency, confidenceForSamples float snapshot.sampleCount⟩

def reliabilityEvidence (staticScore : ℚ) (snapshot : Option (ProviderMetricsSnapshot float)) :
    Option Evidence :=
  snapshot.bind fun snapshot => snapshot.successRate.map fun _ =>
    ⟨clamp (float.div (float.add snapshot.successCount (float.mul staticScore
      reliabilityPriorStrength)) (snapshot.sampleCount + reliabilityPriorStrength)),
      confidenceForSamples float snapshot.sampleCount⟩

def costEvidence (decimal : Rounding) (snapshot : Option (ProviderMetricsSnapshot float)) :
    Option Evidence :=
  snapshot.bind fun snapshot => snapshot.p50EstimatedCost.map fun cost =>
    ⟨normalizeCost float decimal cost, confidenceForSamples float snapshot.pricedSampleCount⟩

def qualityEvidence (snapshot : Option (QualitySnapshot float)) : Option Evidence :=
  snapshot.bind fun snapshot => snapshot.qualityScore.map fun measured =>
    ⟨measured, snapshot.confidence⟩

/-- The quality component as the signal shows it. -/
def qualityComponent (float : Rounding) (staticScore : ℚ)
    (snapshot : Option (QualitySnapshot float)) : Component :=
  let (score, source) := qualitySignal float staticScore snapshot
  ⟨score, if source = .static then "configured" else label source,
    (qualityEvidence snapshot).elim 0 (·.confidence)⟩

end Evidence

/-- A component drawn from its static score and the evidence for it. The labels
`unmeasured` are those of a static score. -/
structure Component.Draws (component : Component) (staticScore : ℚ) (evidence : Option Evidence)
    (unmeasured : List String) : Prop where
  confidence : component.confidence = evidence.elim 0 (·.confidence)
  unit : InUnit component.confidence
  idle : component.confidence = 0 → component.score = staticScore
  between : ∀ found ∈ evidence, min staticScore found.measured ≤ component.score ∧
    component.score ≤ max staticScore found.measured
  full : ∀ found ∈ evidence, component.confidence = 1 → component.score = found.measured
  measured : component.source = "measured" ↔ component.confidence = 1
  blended : component.source = "blended" ↔
    0 < component.confidence ∧ component.confidence < 1
  static : component.source ∈ unmeasured ↔ ¬ ∃ found ∈ evidence, 0 < found.confidence

section Draws

theorem confidenceForSamples_eq_zero_iff {samples : Int} :
    confidenceForSamples .exact samples = 0 ↔ samples ≤ 5 := by
  unfold confidenceForSamples minMeasuredSamples fullConfidenceSamples
  split_ifs with few many
  · exact iff_of_true rfl (by omega)
  · exact iff_of_false one_ne_zero (by omega)
  · change ((samples : ℚ) - ((5 : Int) : ℚ)) / (((50 : Int) : ℚ) - ((5 : Int) : ℚ)) = 0 ↔ _
    rw [div_eq_zero_iff, sub_eq_zero, Int.cast_inj]
    norm_num
    omega

/-- A blend lies between the two scores. -/
theorem blendScore_between (share : InUnit confidence) :
    min staticScore measured ≤ blendScore .exact staticScore measured confidence ∧
      blendScore .exact staticScore measured confidence ≤ max staticScore measured := by
  have rest : 0 ≤ 1 - confidence := sub_nonneg.mpr share.2
  have weigh (bound : ℚ) : bound = bound * (1 - confidence) + bound * confidence := by ring
  constructor
  · rw [weigh (min staticScore measured)]
    exact add_le_add (mul_le_mul_of_nonneg_right (min_le_left _ _) rest)
      (mul_le_mul_of_nonneg_right (min_le_right _ _) share.1)
  · rw [weigh (max staticScore measured)]
    exact add_le_add (mul_le_mul_of_nonneg_right (le_max_left _ _) rest)
      (mul_le_mul_of_nonneg_right (le_max_right _ _) share.1)

theorem blendScore_full (staticScore measured : ℚ) :
    blendScore .exact staticScore measured 1 = measured := by
  change staticScore * (1 - 1) + measured * 1 = measured
  ring

theorem blendScore_idle (staticScore measured : ℚ) :
    blendScore .exact staticScore measured 0 = staticScore := by
  change staticScore * (1 - 0) + measured * 0 = staticScore
  ring

theorem label_measured_iff : label (measuredSource confidence) = "measured" ↔ confidence = 1 := by
  unfold measuredSource
  split <;> simp_all [label]

theorem label_blended_iff : label (measuredSource confidence) = "blended" ↔ confidence ≠ 1 := by
  unfold measuredSource
  split <;> simp_all [label]

/-- A component that blends with the confidence of its evidence, and is labelled by
it. -/
theorem draws_of {component : Component} {evidence : Option Evidence} {unmeasured : List String}
    (fresh : "measured" ∉ unmeasured ∧ "blended" ∉ unmeasured)
    (share : ∀ found ∈ evidence, InUnit found.confidence)
    (confidence : component.confidence = evidence.elim 0 (·.confidence))
    (score : component.score = evidence.elim staticScore fun found =>
      blendScore .exact staticScore found.measured found.confidence)
    (idle : component.confidence = 0 → component.source ∈ unmeasured)
    (used : component.confidence ≠ 0 →
      component.source = label (measuredSource component.confidence)) :
    component.Draws staticScore evidence unmeasured := by
  have unit : InUnit component.confidence := by
    rw [confidence]
    cases evidence with
    | none => exact ⟨le_refl 0, zero_le_one⟩
    | some found => exact share found rfl
  have positive : component.confidence ≠ 0 ↔ 0 < component.confidence :=
    unit.1.lt_iff_ne'.symm
  have foreign {text : String} (outside : text ∉ unmeasured) (zero : component.confidence = 0) :
      component.source ≠ text := by
    intro same
    exact outside (same ▸ idle zero)
  refine ⟨confidence, unit, ?_, ?_, ?_, ?_, ?_, ?_⟩
  · intro zero
    rw [score]
    cases evidence with
    | none => rfl
    | some found =>
      rw [confidence, Option.elim_some] at zero
      rw [Option.elim_some, zero, blendScore_idle]
  · rintro found ⟨⟩
    rw [score, Option.elim_some]
    exact blendScore_between (share found rfl)
  · rintro found ⟨⟩ full
    rw [confidence, Option.elim_some] at full
    rw [score, Option.elim_some, full, blendScore_full]
  · by_cases zero : component.confidence = 0
    · exact iff_of_false (foreign fresh.1 zero) (by rw [zero]; exact zero_ne_one)
    · rw [used zero, label_measured_iff]
  · by_cases zero : component.confidence = 0
    · exact iff_of_false (foreign fresh.2 zero) fun within => within.1.ne' zero
    · rw [used zero, label_blended_iff, unit.2.lt_iff_ne]
      exact ⟨fun below => ⟨positive.mp zero, below⟩, And.right⟩
  · have blends : (∃ found ∈ evidence, 0 < found.confidence) ↔ component.confidence ≠ 0 := by
      rw [positive, confidence]
      cases evidence <;> simp
    rw [blends, not_not]
    refine ⟨fun member => by_contra fun zero => ?_, idle⟩
    rw [used zero] at member
    unfold measuredSource at member
    split at member
    · exact fresh.1 member
    · exact fresh.2 member

theorem component_draws (staticScore : ℚ) (found : Option (Int × ℚ)) :
    (component .exact staticScore found).Draws staticScore (sampled .exact found)
      ["static_unavailable", "static_cold_start"] := by
  rcases found with _ | ⟨samples, measured⟩
  · apply draws_of
    · simp
    · simp [sampled]
    · rfl
    · rfl
    · simp [component]
    · exact fun used => absurd rfl used
  · have share := confidenceForSamples_unit .exact samples
    by_cases zero : confidenceForSamples .exact samples = 0
    · have cold : component .exact staticScore (some (samples, measured)) =
          ⟨staticScore, "static_cold_start", confidenceForSamples .exact samples⟩ := if_pos zero
      rw [cold]
      apply draws_of
      · simp
      · rintro _ ⟨⟩
        exact share
      · rfl
      · rw [sampled, Option.map_some, Option.elim_some, zero, blendScore_idle]
      · simp
      · exact fun used => absurd zero used
    · have warm : component .exact staticScore (some (samples, measured)) =
          ⟨blendScore .exact staticScore measured (confidenceForSamples .exact samples),
            label (measuredSource (confidenceForSamples .exact samples)),
            confidenceForSamples .exact samples⟩ := if_neg zero
      rw [warm]
      apply draws_of
      · simp
      · rintro _ ⟨⟩
        exact share
      · rfl
      · rfl
      · exact fun idle => absurd idle zero
      · exact fun _ => rfl

variable {snapshot : Option (ProviderMetricsSnapshot .exact)}

theorem latency_draws (staticScore : ℚ) (snapshot : Option (ProviderMetricsSnapshot .exact)) :
    (latencySignal .exact staticScore snapshot).Draws staticScore (latencyEvidence snapshot)
      ["static_unavailable", "static_cold_start"] := by
  have same : latencyEvidence snapshot = sampled .exact (snapshot.bind fun snapshot =>
      snapshot.p50LatencyMs.map fun latency =>
        (snapshot.sampleCount, normalizeLatency .exact latency)) := by
    cases snapshot <;> simp [latencyEvidence, sampled, Function.comp_def]
  rw [same]
  exact component_draws staticScore _

theorem reliability_draws (staticScore : ℚ)
    (snapshot : Option (ProviderMetricsSnapshot .exact)) :
    (reliabilitySignal .exact staticScore snapshot).Draws staticScore
      (reliabilityEvidence staticScore snapshot) ["static_unavailable", "static_cold_start"] := by
  have same : reliabilityEvidence staticScore snapshot = sampled .exact (snapshot.bind
      fun snapshot => snapshot.successRate.map fun _ => (snapshot.sampleCount,
        clamp (Rounding.exact.div (Rounding.exact.add snapshot.successCount
          (Rounding.exact.mul staticScore reliabilityPriorStrength))
          (snapshot.sampleCount + reliabilityPriorStrength)))) := by
    cases snapshot <;> simp [reliabilityEvidence, sampled, Function.comp_def]
  rw [same]
  exact component_draws staticScore _

theorem cost_draws (decimal : Rounding) (staticScore : ℚ)
    (snapshot : Option (ProviderMetricsSnapshot .exact)) :
    (costSignal .exact decimal staticScore snapshot).Draws staticScore
      (costEvidence decimal snapshot) ["static_unavailable", "static_cold_start"] := by
  have same : costEvidence decimal snapshot = sampled .exact (snapshot.bind fun snapshot =>
      snapshot.p50EstimatedCost.map fun cost =>
        (snapshot.pricedSampleCount, normalizeCost .exact decimal cost)) := by
    cases snapshot <;> simp [costEvidence, sampled, Function.comp_def]
  rw [same]
  exact component_draws staticScore _

theorem qualitySignal_of_evidence (staticScore : ℚ) (snapshot : Option (QualitySnapshot float)) :
    qualitySignal float staticScore snapshot = match qualityEvidence snapshot with
      | none => (staticScore, .static)
      | some found => if 0 < found.confidence then
          (blendScore float staticScore found.measured found.confidence,
            measuredSource found.confidence) else (staticScore, .static) := by
  rcases snapshot with _ | held
  · rfl
  · unfold qualitySignal qualityEvidence
    dsimp only [Option.bind_some]
    cases held.qualityScore <;> rfl

theorem measuredSource_ne_static (confidence : ℚ) : measuredSource confidence ≠ .static := by
  unfold measuredSource
  split <;> simp

theorem quality_draws (staticScore : ℚ) (snapshot : Option (QualitySnapshot .exact)) :
    (qualityComponent .exact staticScore snapshot).Draws staticScore (qualityEvidence snapshot)
      ["configured"] := by
  have share : ∀ found ∈ qualityEvidence snapshot, InUnit found.confidence := by
    intro found member
    obtain ⟨held, rfl, quality⟩ := Option.bind_eq_some_iff.mp member
    obtain ⟨measured, _, rfl⟩ := Option.map_eq_some_iff.mp quality
    exact (qualityFacts held).confidence
  have shown := qualitySignal_of_evidence staticScore snapshot
  unfold qualityComponent
  rw [shown]
  cases evidence : qualityEvidence snapshot with
  | none => exact draws_of (by simp) (by simp) rfl rfl (by simp) fun used => absurd rfl used
  | some found =>
    rw [evidence] at share
    have unit := share found rfl
    dsimp only
    by_cases positive : 0 < found.confidence
    · rw [if_pos positive]
      dsimp only
      rw [if_neg (measuredSource_ne_static _)]
      exact draws_of (by simp) share rfl rfl (fun idle => absurd idle positive.ne') fun _ => rfl
    · have zero : found.confidence = 0 := le_antisymm (not_lt.mp positive) unit.1
      rw [if_neg positive]
      refine draws_of (by simp) share rfl ?_ (by simp) fun used => absurd zero used
      change staticScore = blendScore .exact staticScore found.measured found.confidence
      rw [zero, blendScore_idle]

end Draws

section Scant

/-- No metrics snapshot with more than five samples. -/
def Scant (snapshot : Option (ProviderMetricsSnapshot float)) : Prop :=
  ∀ found ∈ snapshot, found.sampleCount ≤ 5

/-- No metrics snapshot with more than five priced samples. -/
def ScantPrices (snapshot : Option (ProviderMetricsSnapshot float)) : Prop :=
  ∀ found ∈ snapshot, found.pricedSampleCount ≤ 5

/-- No quality snapshot with a score and some confidence in it. -/
def NoQuality (snapshot : Option (QualitySnapshot float)) : Prop :=
  ∀ found ∈ snapshot, found.qualityScore = none ∨ found.confidence = 0

/-- Priced samples are samples. -/
theorem Scant.prices {snapshot : Option (ProviderMetricsSnapshot float)} (scant : Scant snapshot) :
    ScantPrices snapshot := by
  intro found member
  have few := scant found member
  have valid := found.valid
  simp only [MetricsFields.check, MetricsFields.validateCountsAndAggregates,
    MetricsFields.measuredAggregates, then_ok_iff, require_ok_iff] at valid
  obtain ⟨_, _, _, _, failures, _, _, _, _, _, _, _, _, total, aggregates⟩ := valid
  split at aggregates
  · rw [require_ok_iff] at aggregates
    omega
  · rw [then_ok_iff, require_ok_iff] at aggregates
    have := aggregates.1
    omega

variable {snapshot : Option (ProviderMetricsSnapshot .exact)}

/-- Evidence without confidence leaves the static score. -/
theorem Component.Draws.unmoved {component : Component} {evidence : Option Evidence}
    {unmeasured : List String} (draws : component.Draws staticScore evidence unmeasured)
    (weak : ∀ found ∈ evidence, found.confidence = 0) : component.score = staticScore := by
  apply draws.idle
  rw [draws.confidence]
  cases evidence with
  | none => rfl
  | some found => exact weak found rfl

theorem latencySignal_scant (staticScore : ℚ) (scant : Scant snapshot) :
    (latencySignal .exact staticScore snapshot).score = staticScore := by
  apply (latency_draws staticScore snapshot).unmoved
  intro found member
  obtain ⟨held, inside, latency⟩ := Option.bind_eq_some_iff.mp member
  obtain ⟨_, _, rfl⟩ := Option.map_eq_some_iff.mp latency
  exact confidenceForSamples_eq_zero_iff.mpr (scant held inside)

theorem reliabilitySignal_scant (staticScore : ℚ) (scant : Scant snapshot) :
    (reliabilitySignal .exact staticScore snapshot).score = staticScore := by
  apply (reliability_draws staticScore snapshot).unmoved
  intro found member
  obtain ⟨held, inside, rate⟩ := Option.bind_eq_some_iff.mp member
  obtain ⟨_, _, rfl⟩ := Option.map_eq_some_iff.mp rate
  exact confidenceForSamples_eq_zero_iff.mpr (scant held inside)

theorem costSignal_scant (decimal : Rounding) (staticScore : ℚ) (scant : ScantPrices snapshot) :
    (costSignal .exact decimal staticScore snapshot).score = staticScore := by
  apply (cost_draws decimal staticScore snapshot).unmoved
  intro found member
  obtain ⟨held, inside, cost⟩ := Option.bind_eq_some_iff.mp member
  obtain ⟨_, _, rfl⟩ := Option.map_eq_some_iff.mp cost
  exact confidenceForSamples_eq_zero_iff.mpr (scant held inside)

theorem qualitySignal_scant (staticScore : ℚ) {snapshot : Option (QualitySnapshot float)}
    (unusable : NoQuality snapshot) :
    qualitySignal float staticScore snapshot = (staticScore, .static) := by
  rcases snapshot with _ | found
  · rfl
  · unfold qualitySignal
    dsimp only
    rcases unusable found rfl with missing | zero
    · rw [missing]
    · cases found.qualityScore with
      | none => rfl
      | some => exact if_neg zero.not_gt

end Scant
end RoutingScores

namespace ModelRouter
open RoutingScores

variable {float decimal : Rounding} {router : ModelRouter} {reads other : RankingReads float}
  {requestedModel : String} {preferences : RoutingPreferences float} {weights : Weights}
  {candidate : ModelCandidate} {ranked scored : List RankedCandidate}

section Lookups

/-- A quality lookup of a pair with nothing to blend: it is missing, raises, is about
another identity, or has no score or no confidence. -/
def Unusable (float : Rounding) (source : Option QualitySource) (key : Key) : Prop :=
  ∀ held ∈ source, match held.getQualitySnapshot key with
    | .error _ => True
    | .ok none => True
    | .ok (some dumped) =>
      (∃ error, QualitySnapshot.modelValidate float dumped = .error error) ∨
      (dumped.provider, dumped.model) ≠ key ∨
      (dumped.suiteId, dumped.suiteVersion, dumped.suiteFingerprint) ≠ held.suiteIdentity ∨
      dumped.qualityScore = none ∨ dumped.confidence = 0

/-- Both sources are asked about the same suite and answer the same for a pair. -/
def SameLookup (source other : Option QualitySource) (key : Key) : Prop :=
  source.map (fun held => (held.suiteIdentity, held.getQualitySnapshot key)) =
    other.map fun held => (held.suiteIdentity, held.getQualitySnapshot key)

theorem noQuality_of_unusable {source : Option QualitySource} {key : Key}
    (unusable : Unusable float source key) : NoQuality (qualityOf float source key) := by
  intro found member
  obtain ⟨held, present, looked⟩ := Option.bind_eq_some_iff.mp member
  have read := toOption_eq_some_iff.mp (Option.join_eq_some_iff.mp looked)
  have weak := unusable held present
  obtain ⟨answer, answered, kept⟩ := bind_ok_iff.mp read
  rw [answered] at weak
  cases answer with
  | none => cases kept
  | some dumped =>
    obtain ⟨snapshot, validated, kept⟩ := bind_ok_iff.mp kept
    obtain ⟨identity, done⟩ := then_ok_iff.mp kept
    cases done
    obtain ⟨_, fields⟩ := QualitySnapshot.modelValidate_ok_iff.mp validated
    rw [require_ok_iff, ← fields] at identity
    rw [← fields]
    rcases weak with ⟨error, refused⟩ | pair | suite | blank
    · rw [validated] at refused
      cases refused
    · exact absurd identity.1 pair
    · exact absurd identity.2 suite
    · exact blank

theorem qualityOf_congr {source other : Option QualitySource} {key : Key}
    (same : SameLookup source other key) :
    qualityOf float source key = qualityOf float other key := by
  cases source with
  | none =>
    cases other with
    | none => rfl
    | some => cases same
  | some held =>
    cases other with
    | none => cases same
    | some asked =>
      obtain ⟨identity, answer⟩ := Prod.mk.inj (Option.some.inj same)
      unfold qualityOf readQualitySnapshot
      rw [Option.bind_some, Option.bind_some, identity, answer]

end Lookups

section Used

/-- The metrics a score rests on. -/
def usedSnapshot (reads : RankingReads float) (requestedModel : String) (key : Key) :
    Option (ProviderMetricsSnapshot float) :=
  if requestedModel = "auto" then snapshotOf reads.metrics key else none

/-- The benchmark quality a score rests on. -/
def usedQuality (reads : RankingReads float) (requestedModel : String) (key : Key) :
    Option (QualitySnapshot float) :=
  if requestedModel = "auto" then qualityOf float reads.qualitySource key else none

theorem scoreOf_used (decimal : Rounding) (reads : RankingReads float) (requestedModel : String)
    (weights : Weights) (candidate : ModelCandidate) :
    scoreOf decimal reads requestedModel weights candidate =
      scoreCandidate float decimal candidate weights
        (usedSnapshot reads requestedModel candidate.key)
        (usedQuality reads requestedModel candidate.key) := by
  unfold scoreOf usedSnapshot usedQuality
  split <;> rfl

/-- The signal of a scored candidate, from the evidence under its pair. -/
theorem scoreCandidate_fields {snapshot : Option (ProviderMetricsSnapshot float)}
    {quality : Option (QualitySnapshot float)} {item : RankedCandidate}
    (scored : scoreCandidate float decimal candidate weights snapshot quality = .ok item) :
    item.signal.toSignalFields =
      signalFields float decimal candidate snapshot quality item.score := by
  unfold scoreCandidate at scored
  split at scored
  · obtain ⟨signal, validated, done⟩ := bind_ok_iff.mp scored
    cases done
    exact RoutingSignal.toSignalFields_of_validated validated
  · cases scored

end Used

section Exact
variable {reads other : RankingReads .exact} {preferences : RoutingPreferences .exact}

/-- What a signal shows of a measured component, and what that component draws on. -/
structure ShowsComponent (signal : RoutingSignal) (metric : MetricName) (confidenceName : String)
    (shownScore staticScore : ℚ) (evidence : Option Evidence) (component : Component) : Prop where
  draws : component.Draws staticScore evidence ["static_unavailable", "static_cold_start"]
  score : shownScore = round6 .exact component.score
  source : signal.sources.get? metric = some component.source
  confidence : signal.reasonMetadata.get? confidenceName =
    some (.float (round6 .exact component.confidence))

/-- What the signal of a ranked candidate says about its four components. -/
structure Grounded (decimal : Rounding) (item : RankedCandidate)
    (snapshot : Option (ProviderMetricsSnapshot .exact))
    (qualitySnapshot : Option (QualitySnapshot .exact)) : Prop where
  quality : (qualityComponent .exact item.candidate.quality qualitySnapshot).Draws
    item.candidate.quality (qualityEvidence qualitySnapshot) ["configured"]
  qualityScore : item.signal.qualityScore =
    (qualityComponent .exact item.candidate.quality qualitySnapshot).score
  qualitySource : item.signal.sources.get? .quality =
    some (qualityComponent .exact item.candidate.quality qualitySnapshot).source
  latency : ShowsComponent item.signal .latency "latency_confidence" item.signal.latencyScore
    item.candidate.latency (latencyEvidence snapshot)
    (latencySignal .exact item.candidate.latency snapshot)
  reliability : ShowsComponent item.signal .reliability "reliability_confidence"
    item.signal.reliabilityScore item.candidate.reliability
    (reliabilityEvidence item.candidate.reliability snapshot)
    (reliabilitySignal .exact item.candidate.reliability snapshot)
  cost : ShowsComponent item.signal .cost "cost_confidence" item.signal.costScore
    item.candidate.cost (costEvidence decimal snapshot)
    (costSignal .exact decimal item.candidate.cost snapshot)

theorem grounded_of_scored {snapshot : Option (ProviderMetricsSnapshot .exact)}
    {quality : Option (QualitySnapshot .exact)} {item : RankedCandidate}
    (scored : scoreCandidate .exact decimal candidate weights snapshot quality = .ok item) :
    Grounded decimal item snapshot quality := by
  obtain ⟨rfl, _⟩ := scoreCandidate_ok scored
  have fields := scoreCandidate_fields scored
  have sources : item.signal.sources = (signalFields .exact decimal item.candidate snapshot quality
      item.score).sources := by rw [fields]
  have metadata : item.signal.reasonMetadata = (signalFields .exact decimal item.candidate snapshot
      quality item.score).reasonMetadata := by rw [fields]
  refine ⟨quality_draws _ quality, ?_, ?_, ⟨latency_draws _ snapshot, ?_, ?_, ?_⟩,
    ⟨reliability_draws _ snapshot, ?_, ?_, ?_⟩, ⟨cost_draws decimal _ snapshot, ?_, ?_, ?_⟩⟩
  · rw [fields]
    rfl
  · rw [sources]
    rfl
  · rw [fields]
    rfl
  · rw [sources]
    rfl
  · rw [metadata]
    rfl
  · rw [fields]
    rfl
  · rw [sources]
    rfl
  · rw [metadata]
    rfl
  · rw [fields]
    rfl
  · rw [sources]
    rfl
  · rw [metadata]
    rfl

/-- Placing a candidate changes nothing its components show. -/
theorem Grounded.placed {snapshot : Option (ProviderMetricsSnapshot .exact)}
    {quality : Option (QualitySnapshot .exact)} {item : RankedCandidate}
    (grounded : Grounded decimal item snapshot quality) (health : Option HealthEligibility)
    (position : Nat) :
    Grounded decimal { item with signal := item.signal.place health position } snapshot quality :=
  let ⟨quality, qualityScore, qualitySource, latency, reliability, cost⟩ := grounded
  ⟨quality, qualityScore, qualitySource,
    ⟨latency.draws, latency.score, latency.source, latency.confidence⟩,
    ⟨reliability.draws, reliability.score, reliability.source, reliability.confidence⟩,
    ⟨cost.draws, cost.score, cost.source, cost.confidence⟩⟩

theorem score_unit {q c l r : ℚ} (normalized : weights.Normalized q c l r)
    {snapshot : Option (ProviderMetricsSnapshot .exact)}
    {quality : Option (QualitySnapshot .exact)} {item : RankedCandidate}
    (scored : scoreCandidate .exact decimal candidate weights snapshot quality = .ok item) :
    InUnit item.score := by
  obtain ⟨onQuality, onCost, onLatency, onReliability⟩ := candidate.scores
  obtain ⟨sum, added, score⟩ := scoreCandidate_sum scored
  obtain ⟨total, same, inside⟩ := weightedSum_unit normalized
    (qualitySignal_unit onQuality quality) (costSignal_unit decimal onCost snapshot).1
    (latencySignal_unit onLatency snapshot).1 (reliabilitySignal_unit onReliability snapshot).1
  cases added.symm.trans same
  rw [score]
  exact round6_unit .exact inside

end Exact

section SameEvidence

/-- Two metrics lookups of a pair that weigh the same: the same snapshot, too few
samples both times, or the same performance with too few priced samples both times.
No snapshot at all is among the latter, no prices among the last. -/
inductive SameMetrics (given kept : Option (ProviderMetricsSnapshot float)) : Prop where
  | same : given = kept → SameMetrics given kept
  | scant : Scant given → Scant kept → SameMetrics given kept
  | prices (before after : ProviderMetricsSnapshot float) : given = some before →
      kept = some after → before.sampleCount = after.sampleCount →
      before.successCount = after.successCount → before.successRate = after.successRate →
      before.p50LatencyMs = after.p50LatencyMs → ScantPrices given → ScantPrices kept →
      SameMetrics given kept

/-- Reads that differ in insufficient evidence only. -/
structure SameEvidence (reads other : RankingReads float) : Prop where
  now : other.now = reads.now
  health : other.healthStore = reads.healthStore
  metrics : ∀ key, SameMetrics (snapshotOf reads.metrics key) (snapshotOf other.metrics key)
  quality : ∀ key, SameLookup reads.qualitySource other.qualitySource key ∨
    Unusable float reads.qualitySource key ∧ Unusable float other.qualitySource key

/-- A candidate scored again: with the same score, and with the same signal when its
own evidence is the same. -/
structure Rescored (reads other : RankingReads float) (item later : RankedCandidate) : Prop where
  candidate : later.candidate = item.candidate
  score : later.score = item.score
  same : snapshotOf other.metrics item.candidate.key = snapshotOf reads.metrics item.candidate.key →
    qualityOf float other.qualitySource item.candidate.key =
      qualityOf float reads.qualitySource item.candidate.key → later = item

/-- The same health makes the same candidates eligible. -/
theorem eligible_congr (now : other.now = reads.now)
    (health : other.healthStore = reads.healthStore) (router : ModelRouter)
    (requestedModel : String) :
    router.eligible other requestedModel = router.eligible reads requestedModel := by
  refine List.filter_congr fun candidate _ => decide_eq_decide.mpr ?_
  unfold Eligible verdictOf
  rw [now, health]

theorem shownHealth_congr (now : other.now = reads.now)
    (health : other.healthStore = reads.healthStore) (requestedModel : String) (key : Key) :
    shownHealth other requestedModel key = shownHealth reads requestedModel key := by
  simp only [shownHealth, verdictOf, now, health]

/-- Related scored candidates are ranked alike. -/
theorem ordered_related {related : RankedCandidate → RankedCandidate → Prop}
    {rescored : List RankedCandidate} (now : other.now = reads.now)
    (health : other.healthStore = reads.healthStore)
    (keys : ∀ item later, related item later →
      later.candidate = item.candidate ∧ later.score = item.score)
    (placed : ∀ item later, related item later → ∀ health position, related
      { item with signal := item.signal.place health position }
      { later with signal := later.signal.place health position })
    (relates : List.Forall₂ related scored rescored) :
    List.Forall₂ related (ordered reads requestedModel scored)
      (ordered other requestedModel rescored) := by
  have same (item later : RankedCandidate) (held : related item later) :
      rankingKey item = rankingKey later :=
    (rankingKey_congr (keys item later held).1 (keys item later held).2).symm
  have sorted := forall₂_sortedBy same relates
  have shown := shownHealth_congr now health requestedModel
  unfold ordered
  generalize sortedBy rankingKey scored = first at sorted ⊢
  generalize sortedBy rankingKey rescored = second at sorted ⊢
  rw [List.mapIdx_eq_zipIdx_map, List.mapIdx_eq_zipIdx_map]
  generalize 0 = start
  induction sorted generalizing start with
  | nil => exact .nil
  | @cons item later _ _ held _ ih =>
    refine .cons ?_ (ih (start + 1))
    have own : shownHealth other requestedModel later.candidate.key =
        shownHealth reads requestedModel item.candidate.key := by
      rw [(keys item later held).1, shown]
    dsimp only
    rw [own]
    exact placed item later held _ _

theorem Rescored.placed {item later : RankedCandidate} (rescored : Rescored reads other item later)
    (health : Option HealthEligibility) (position : Nat) :
    Rescored reads other { item with signal := item.signal.place health position }
      { later with signal := later.signal.place health position } where
  candidate := rescored.candidate
  score := rescored.score
  same := fun metrics quality => by rw [rescored.same metrics quality]

end SameEvidence

section Exact
variable {reads other : RankingReads .exact} {preferences : RoutingPreferences .exact}

/-- Components that weigh the same give the same score. -/
theorem scoreCandidate_congr {q c l r : ℚ} (normalized : weights.Normalized q c l r)
    {snapshot later : Option (ProviderMetricsSnapshot .exact)}
    {quality again : Option (QualitySnapshot .exact)} {item : RankedCandidate}
    (onQuality : (qualitySignal .exact candidate.quality again).1 =
      (qualitySignal .exact candidate.quality quality).1)
    (onCost : (costSignal .exact decimal candidate.cost later).score =
      (costSignal .exact decimal candidate.cost snapshot).score)
    (onLatency : (latencySignal .exact candidate.latency later).score =
      (latencySignal .exact candidate.latency snapshot).score)
    (onReliability : (reliabilitySignal .exact candidate.reliability later).score =
      (reliabilitySignal .exact candidate.reliability snapshot).score)
    (scored : scoreCandidate .exact decimal candidate weights snapshot quality = .ok item) :
    ∃ rescored, scoreCandidate .exact decimal candidate weights later again = .ok rescored ∧
      rescored.candidate = item.candidate ∧ rescored.score = item.score := by
  obtain ⟨sum, added, score⟩ := scoreCandidate_sum scored
  obtain ⟨rfl, own⟩ := scoreCandidate_ok scored
  have named : item.candidate.provider ≠ "" ∧ item.candidate.model ≠ "" := by
    have first : item.signal.provider = item.candidate.provider := congrArg Prod.fst own.key
    have second : item.signal.model = item.candidate.model := congrArg Prod.snd own.key
    exact ⟨first ▸ item.signal.named.1, second ▸ item.signal.named.2⟩
  obtain ⟨rescored, again_⟩ := scoreCandidate_normalized decimal later again normalized named
  obtain ⟨total, addedAgain, rescore⟩ := scoreCandidate_sum again_
  rw [onQuality, onCost, onLatency, onReliability, added] at addedAgain
  cases addedAgain
  exact ⟨rescored, again_, (scoreCandidate_ok again_).1, rescore.trans score.symm⟩

/-- Metrics that weigh the same give the same components. -/
theorem SameMetrics.components {given kept : Option (ProviderMetricsSnapshot .exact)}
    (same : SameMetrics given kept) (decimal : Rounding) (staticScore : ℚ) :
    (costSignal .exact decimal staticScore kept).score =
      (costSignal .exact decimal staticScore given).score ∧
    (latencySignal .exact staticScore kept).score =
      (latencySignal .exact staticScore given).score ∧
    (reliabilitySignal .exact staticScore kept).score =
      (reliabilitySignal .exact staticScore given).score := by
  cases same with
  | same equal =>
    subst equal
    exact ⟨rfl, rfl, rfl⟩
  | scant few fewer =>
    refine ⟨?_, ?_, ?_⟩
    · rw [costSignal_scant _ _ few.prices, costSignal_scant _ _ fewer.prices]
    · rw [latencySignal_scant _ few, latencySignal_scant _ fewer]
    · rw [reliabilitySignal_scant _ few, reliabilitySignal_scant _ fewer]
  | prices before after isGiven isKept samples successes rate latency few fewer =>
    refine ⟨?_, ?_, ?_⟩
    · rw [costSignal_scant _ _ few, costSignal_scant _ _ fewer]
    · rw [isGiven, isKept]
      simp only [latencySignal, Option.bind_some, samples, latency]
    · rw [isGiven, isKept]
      simp only [reliabilitySignal, Option.bind_some, samples, successes, rate]

/-- Insufficient evidence may be exchanged without changing a score. -/
theorem scoreOf_same {q c l r : ℚ} (normalized : weights.Normalized q c l r)
    (same : SameEvidence reads other) {item : RankedCandidate}
    (scored : scoreOf decimal reads requestedModel weights candidate = .ok item) :
    ∃ later, scoreOf decimal other requestedModel weights candidate = .ok later ∧
      Rescored reads other item later := by
  have own := (scoreOf_ok scored).1
  by_cases auto : requestedModel = "auto"
  · have quality (staticScore : ℚ) :
        (qualitySignal .exact staticScore (qualityOf .exact other.qualitySource candidate.key)).1 =
        (qualitySignal .exact staticScore (qualityOf .exact reads.qualitySource candidate.key)).1 := by
      rcases same.quality candidate.key with lookup | ⟨given, kept⟩
      · rw [qualityOf_congr lookup]
      · rw [qualitySignal_scant _ (noQuality_of_unusable given),
          qualitySignal_scant _ (noQuality_of_unusable kept)]
    have metrics (staticScore : ℚ) :=
      (same.metrics candidate.key).components decimal staticScore
    rw [scoreOf, if_pos auto] at scored
    obtain ⟨later, rescored, kept, score⟩ := scoreCandidate_congr normalized (quality _)
      (metrics _).1 (metrics _).2.1 (metrics _).2.2 scored
    refine ⟨later, by rw [scoreOf, if_pos auto, rescored], kept, score, ?_⟩
    rw [own]
    intro onMetrics onQuality
    rw [onMetrics, onQuality, scored] at rescored
    exact (Except.ok.inj rescored).symm
  · rw [scoreOf, if_neg auto] at scored
    exact ⟨item, by rw [scoreOf, if_neg auto, scored], rfl, rfl, fun _ _ => rfl⟩

/-- Reads that differ in the quality lookup of one pair at most. -/
structure SameButFor (reads other : RankingReads float) (key : Key) : Prop where
  now : other.now = reads.now
  health : other.healthStore = reads.healthStore
  metrics : ∀ name, snapshotOf other.metrics name = snapshotOf reads.metrics name
  quality : ∀ name, name ≠ key → SameLookup reads.qualitySource other.qualitySource name

theorem scoreOf_elsewhere {reads other : RankingReads float} {key : Key}
    (same : SameButFor reads other key) (different : candidate.key ≠ key) :
    scoreOf decimal other requestedModel weights candidate =
      scoreOf decimal reads requestedModel weights candidate := by
  unfold scoreOf
  rw [same.metrics, qualityOf_congr (same.quality _ different)]

/-- Every scored candidate is ranked, with its own signal. -/
theorem placed_of_scored (reads : RankingReads float) (requestedModel : String)
    {item : RankedCandidate} (member : item ∈ scored) :
    ∃ position, ({ item with
      signal := item.signal.place (shownHealth reads requestedModel item.candidate.key)
        position } : RankedCandidate) ∈ ordered reads requestedModel scored := by
  have sorted : item ∈ sortedBy rankingKey scored := mem_sortedBy.mpr member
  obtain ⟨position, bound, rfl⟩ := List.getElem_of_mem sorted
  exact ⟨position, List.mem_mapIdx.mpr ⟨position, bound, rfl⟩⟩

theorem unplaced_place (item : RankedCandidate) (health : Option HealthEligibility)
    (position place : Nat) :
    RankedCandidate.unplaced { item with signal := item.signal.place health position } =
      RankedCandidate.unplaced { item with signal := item.signal.place health place } := rfl

/-- With finite preferences every candidate that was scored is scored on any other
evidence. -/
theorem scoreOf_again {q c l r : ℚ} (normalized : weights.Normalized q c l r)
    (other : RankingReads .exact) {item : RankedCandidate}
    (scored : scoreOf decimal reads requestedModel weights candidate = .ok item) :
    ∃ later, scoreOf decimal other requestedModel weights candidate = .ok later := by
  obtain ⟨rfl, own⟩ := scoreOf_ok scored
  rw [scoreOf_used]
  have first : item.signal.provider = item.candidate.provider := congrArg Prod.fst own.key
  have second : item.signal.model = item.candidate.model := congrArg Prod.snd own.key
  exact scoreCandidate_normalized _ _ _ normalized
    ⟨first ▸ item.signal.named.1, second ▸ item.signal.named.2⟩

/-- So other evidence ranks whatever was ranked. -/
theorem ranks_again {q c l r : ℚ} (normalized : preferences.normalized.Normalized q c l r)
    (ranks : router.Ranks decimal reads requestedModel preferences ranked)
    (now : other.now = reads.now) (health : other.healthStore = reads.healthStore) :
    router.Ranks decimal other requestedModel preferences (ordered other requestedModel
      (router.scoredOf decimal other requestedModel preferences.normalized)) := by
  obtain ⟨aware, each, _⟩ := ranks_iff.mp ranks
  refine ranks_iff.mpr ⟨by rwa [now], ?_, rfl⟩
  intro candidate inside
  rw [eligible_congr now health router requestedModel] at inside
  obtain ⟨item, scored⟩ := each candidate inside
  exact scoreOf_again normalized other scored

/-- The lookup of one candidate leaves the signals of the others alone. -/
theorem ranks_elsewhere {q c l r : ℚ} (normalized : preferences.normalized.Normalized q c l r)
    (ranks : router.Ranks decimal reads requestedModel preferences ranked) {key : Key}
    (same : SameButFor reads other key) :
    ∃ again, router.Ranks decimal other requestedModel preferences again ∧
      ∀ item ∈ ranked, item.candidate.key ≠ key →
        ∃ later ∈ again, later.unplaced = item.unplaced := by
  have members := eligible_congr same.now same.health router requestedModel
  refine ⟨_, ranks_again normalized ranks same.now same.health, ?_⟩
  obtain ⟨_, _, rfl⟩ := ranks_iff.mp ranks
  intro item inside different
  obtain ⟨scored, held, position, rfl⟩ := mem_ordered inside
  obtain ⟨eligible, found⟩ := mem_scoredOf.mp held
  have kept : scored ∈ router.scoredOf decimal other requestedModel preferences.normalized := by
    rw [mem_scoredOf, members, scoreOf_elsewhere same different]
    exact ⟨eligible, found⟩
  obtain ⟨place, placed⟩ := placed_of_scored other requestedModel kept
  rw [shownHealth_congr same.now same.health] at placed
  exact ⟨_, placed, unplaced_place _ _ _ _⟩

/-- Exchanging insufficient evidence leaves every score and the order alone. -/
theorem ranks_same {q c l r : ℚ} (normalized : preferences.normalized.Normalized q c l r)
    (ranks : router.Ranks decimal reads requestedModel preferences ranked)
    (same : SameEvidence reads other) :
    ∃ again, router.Ranks decimal other requestedModel preferences again ∧
      List.Forall₂ (Rescored reads other) ranked again := by
  have members := eligible_congr same.now same.health router requestedModel
  refine ⟨_, ranks_again normalized ranks same.now same.health, ?_⟩
  obtain ⟨_, each, rfl⟩ := ranks_iff.mp ranks
  apply ordered_related same.now same.health
  · exact fun _ _ rescored => ⟨rescored.candidate, rescored.score⟩
  · exact fun _ _ rescored => rescored.placed
  · rw [scoredOf, scoredOf, members]
    rw [← List.map_id (router.eligible reads requestedModel)]
    conv => arg 2; rw [List.map_id]
    refine filterMap_related fun candidate inside => ?_
    obtain ⟨item, scored⟩ := each candidate inside
    obtain ⟨later, rescored, kept⟩ := scoreOf_same normalized same scored
    exact ⟨item, later, toOption_eq_some_iff.mpr scored, toOption_eq_some_iff.mpr rescored, kept⟩

/-- Insufficient evidence moves no component, no score and no rank, and the lookup of
one candidate no signal of another. Other evidence draws a component between its
static and its measured score, as its label says, and scores stay in the unit
interval. -/
theorem insufficient_evidence_is_none (decimal : Rounding) (router : ModelRouter)
    (reads : RankingReads .exact) (requestedModel : String)
    (preferences : RoutingPreferences .exact) (ranked : List RankedCandidate)
    (finite : preferences.toWeights.IsFinite)
    (ranks : router.Ranks decimal reads requestedModel preferences ranked) :
    (∀ (staticScore : ℚ) (snapshot : Option (ProviderMetricsSnapshot .exact)),
      (Scant snapshot → (latencySignal .exact staticScore snapshot).score = staticScore ∧
        (reliabilitySignal .exact staticScore snapshot).score = staticScore) ∧
      (ScantPrices snapshot →
        (costSignal .exact decimal staticScore snapshot).score = staticScore)) ∧
    (∀ (staticScore : ℚ) (source : Option QualitySource) (key : Key),
      Unusable .exact source key →
      qualitySignal .exact staticScore (qualityOf .exact source key) = (staticScore, .static)) ∧
    (∀ item ∈ ranked, InUnit item.score ∧ item.signal.finalScore = item.score ∧
      Grounded decimal item (usedSnapshot reads requestedModel item.candidate.key)
        (usedQuality reads requestedModel item.candidate.key)) ∧
    (∀ other, SameEvidence reads other →
      ∃ again, router.Ranks decimal other requestedModel preferences again ∧
        List.Forall₂ (Rescored reads other) ranked again) ∧
    ∀ other key, SameButFor reads other key →
      ∃ again, router.Ranks decimal other requestedModel preferences again ∧
        ∀ item ∈ ranked, item.candidate.key ≠ key →
          ∃ later ∈ again, later.unplaced = item.unplaced := by
  obtain ⟨_, _, _, _, normalized⟩ := preferences.normalized_of_finite finite
  refine ⟨fun staticScore snapshot => ⟨fun scant => ?_, ?_⟩, ?_, ?_, ?_, ?_⟩
  · exact ⟨latencySignal_scant staticScore scant, reliabilitySignal_scant staticScore scant⟩
  · exact costSignal_scant decimal staticScore
  · exact fun staticScore source key unusable =>
      qualitySignal_scant staticScore (noQuality_of_unusable unusable)
  · intro item inside
    obtain ⟨_, _, isOrdered⟩ := ranks_iff.mp ranks
    rw [isOrdered] at inside
    obtain ⟨scored, held, position, rfl⟩ := mem_ordered inside
    have found := (mem_scoredOf.mp held).2
    have own := (scoreOf_ok found).2
    rw [scoreOf_used] at found
    have inside := score_unit normalized found
    exact ⟨inside, own.score, (grounded_of_scored found).placed _ _⟩
  · exact fun other same => ranks_same normalized ranks same
  · exact fun other key same => ranks_elsewhere normalized ranks same

private theorem fiveSamples_valid : MetricsFields.check .exact
    { provider := "deepseek", model := "chat", sampleCount := 5, successCount := 4,
      failureCount := 1, successRate := some (4 / 5), averageLatencyMs := some 900,
      p50LatencyMs := some 800, p95LatencyMs := some 1900, windowStart := 0, windowEnd := 10 } =
    .ok () := by
  decide +kernel

/-- Five attempts on the second candidate, one of them failed. -/
def fiveSamples : ProviderMetricsSnapshot .exact where
  provider := "deepseek"
  model := "chat"
  sampleCount := 5
  successCount := 4
  failureCount := 1
  successRate := some (4 / 5)
  averageLatencyMs := some 900
  p50LatencyMs := some 800
  p95LatencyMs := some 1900
  windowStart := 0
  windowEnd := 10
  valid := fiveSamples_valid

/-- Five samples, and a quality source that raises. -/
def scantReads : RankingReads .exact where
  now := .utc 1000000
  metrics := some (.ok [fiveSamples])
  qualitySource := some ⟨("suite", "1", "print"), fun _ => .error (.value "unavailable")⟩

theorem scantReads_same : SameEvidence scantReads pairReads where
  now := rfl
  health := rfl
  metrics := by
    intro key
    refine .scant (fun found member => ?_) fun found member => nomatch member
    have listed : (Dict.ofList [(fiveSamples.key, fiveSamples)]).get? key = some found := member
    have inside := Dict.mem_entries_ofList (Dict.get?_eq_some_iff.mp listed)
    rw [List.mem_singleton, Prod.mk.injEq] at inside
    rw [inside.2]
    exact le_refl 5
  quality := fun key => .inr ⟨by rintro held ⟨⟩; trivial, fun held member => nomatch member⟩

/-- The scores of two candidates with too little evidence, and without any. -/
theorem scant_evidence_is_none :
    ∃ ranked again, pairRouter.Ranks .exact scantReads "auto" evenPreferences ranked ∧
      pairRouter.Ranks .exact pairReads "auto" evenPreferences again ∧
      List.Forall₂ (Rescored scantReads pairReads) ranked again ∧
      ∀ item ∈ ranked, InUnit item.score := by
  obtain ⟨ranked, ranks⟩ := ranks_exist .exact pairRouter scantReads "auto" even_finite pair_named
    fun _ => rfl
  obtain ⟨_, _, shown, same, _⟩ := insufficient_evidence_is_none .exact pairRouter scantReads
    "auto" evenPreferences ranked even_finite ranks
  obtain ⟨again, rerank, alike⟩ := same pairReads scantReads_same
  exact ⟨ranked, again, ranks, rerank, alike, fun item inside => (shown item inside).1⟩

end Exact

end ModelRouter
end ModelPilot
