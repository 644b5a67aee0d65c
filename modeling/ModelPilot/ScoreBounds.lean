import ModelPilot.PointwiseRanking

/-! Scores stay in the unit interval: normalized weights are shares of one, every
component of a score lies between its static and its measured estimate, and the
signal of a scored candidate passes its own validation. -/
namespace ModelPilot

open Rounding (InUnit)

/-- A value that is neither infinite nor `NaN`. -/
def PyFloat.IsFinite (value : PyFloat) : Prop := ∃ number, value = .finite number

/-- A quotient is finite only of a finite value. -/
theorem PyFloat.finite_of_div {value total : PyFloat} (quotient : (value.div float total).IsFinite) :
    value.IsFinite := by
  obtain ⟨share, divided⟩ := quotient
  cases value with
  | finite number => exact ⟨number, rfl⟩
  | inf => cases total <;> cases divided
  | nan => cases divided

/-- Preferences without an infinite field. -/
def Weights.IsFinite (weights : Weights) : Prop :=
  weights.quality.IsFinite ∧ weights.cost.IsFinite ∧ weights.latency.IsFinite ∧
    weights.reliability.IsFinite

/-- Weights that are shares of one. -/
structure Weights.Normalized (weights : Weights) (quality cost latency reliability : ℚ) : Prop where
  fields : weights = ⟨.finite quality, .finite cost, .finite latency, .finite reliability⟩
  unit : InUnit quality ∧ InUnit cost ∧ InUnit latency ∧ InUnit reliability
  whole : quality + cost + latency + reliability = 1

namespace RoutingScores

variable {float decimal : Rounding} {staticScore measured confidence value : ℚ}

section Components

theorem clamp_unit (value : ℚ) : InUnit (clamp value) :=
  ⟨le_max_left _ _, max_le (by norm_num) (min_le_right _ _)⟩

theorem round6_unit (float : Rounding) (inside : InUnit value) : InUnit (round6 float value) :=
  float.round_unit ((Rounding.digits 6).round_unit inside)

theorem confidenceForSamples_unit (float : Rounding) (sampleCount : Int) :
    InUnit (confidenceForSamples float sampleCount) := by
  unfold confidenceForSamples minMeasuredSamples fullConfidenceSamples
  split_ifs with few many
  · exact ⟨le_refl 0, zero_le_one⟩
  · exact ⟨zero_le_one, le_refl 1⟩
  · have below : (sampleCount : ℚ) ≤ 50 := by exact_mod_cast (not_le.mp many).le
    have above : (5 : ℚ) ≤ sampleCount := by exact_mod_cast not_lt.mp few
    apply float.div_unit <;> push_cast <;> linarith

/-- A blend lies between the two scores. -/
theorem blendScore_unit (configured : InUnit staticScore) (found : InUnit measured)
    (share : InUnit confidence) : InUnit (blendScore .exact staticScore measured confidence) := by
  have rest : 0 ≤ 1 - confidence := sub_nonneg.mpr share.2
  constructor
  · exact add_nonneg (mul_nonneg configured.1 rest) (mul_nonneg found.1 share.1)
  · calc staticScore * (1 - confidence) + measured * confidence
        ≤ 1 * (1 - confidence) + 1 * confidence :=
          add_le_add (mul_le_mul_of_nonneg_right configured.2 rest)
            (mul_le_mul_of_nonneg_right found.2 share.1)
      _ = 1 := by ring

theorem component_unit (configured : InUnit staticScore) {found : Option (Int × ℚ)}
    (inside : ∀ samples measured, found = some (samples, measured) → InUnit measured) :
    InUnit (component .exact staticScore found).score ∧
      InUnit (component .exact staticScore found).confidence := by
  rcases found with _ | ⟨samples, measured⟩
  · exact ⟨configured, le_refl 0, zero_le_one⟩
  · have share := confidenceForSamples_unit .exact samples
    unfold component
    dsimp only
    split_ifs
    · exact ⟨configured, share⟩
    · exact ⟨blendScore_unit configured (inside _ _ rfl) share, share⟩

theorem latencySignal_unit (configured : InUnit staticScore)
    (snapshot : Option (ProviderMetricsSnapshot .exact)) :
    InUnit (latencySignal .exact staticScore snapshot).score ∧
      InUnit (latencySignal .exact staticScore snapshot).confidence := by
  refine component_unit configured fun samples measured found => ?_
  simp only [Option.bind_eq_some_iff, Option.map_eq_some_iff, Prod.mk.injEq] at found
  obtain ⟨_, _, _, _, _, rfl⟩ := found
  exact clamp_unit _

theorem reliabilitySignal_unit (configured : InUnit staticScore)
    (snapshot : Option (ProviderMetricsSnapshot .exact)) :
    InUnit (reliabilitySignal .exact staticScore snapshot).score ∧
      InUnit (reliabilitySignal .exact staticScore snapshot).confidence := by
  refine component_unit configured fun samples measured found => ?_
  simp only [Option.bind_eq_some_iff, Option.map_eq_some_iff, Prod.mk.injEq] at found
  obtain ⟨_, _, _, _, _, rfl⟩ := found
  exact clamp_unit _

theorem costSignal_unit (decimal : Rounding) (configured : InUnit staticScore)
    (snapshot : Option (ProviderMetricsSnapshot .exact)) :
    InUnit (costSignal .exact decimal staticScore snapshot).score ∧
      InUnit (costSignal .exact decimal staticScore snapshot).confidence := by
  refine component_unit configured fun samples measured found => ?_
  simp only [Option.bind_eq_some_iff, Option.map_eq_some_iff, Prod.mk.injEq] at found
  obtain ⟨_, _, _, _, _, rfl⟩ := found
  exact clamp_unit _

end Components

section Signals
variable {candidate : ModelCandidate} {weights : Weights}
  {snapshot : Option (ProviderMetricsSnapshot .exact)}
  {qualitySnapshot : Option (QualitySnapshot .exact)}

/-- What a signal shows of a quality snapshot is what the snapshot's own
validation promises. -/
structure QualityFacts (fields : SnapshotFields Int) : Prop where
  quality : ∀ score ∈ fields.qualityScore, InUnit score
  confidence : InUnit fields.confidence
  suiteId : fields.suiteId ≠ ""
  suiteVersion : fields.suiteVersion ≠ ""
  fingerprint : isFingerprint fields.suiteFingerprint = true
  sources : ∀ source ∈ fields.sourceRunIds, source ≠ ""
  latest : ∀ latest ∈ fields.latestRunId, latest ≠ ""
  coverage : ∀ coverage ∈ fields.latestRunCoverage, InUnit coverage
  completeness : ∀ completeness ∈ fields.latestRunCompleteness, InUnit completeness

theorem qualityFacts (snapshot : QualitySnapshot float) :
    QualityFacts snapshot.toSnapshotFields := by
  have valid := snapshot.valid
  simp only [SnapshotFields.check, QualityMetrics.check, QualityMetrics.checkRatio,
    SnapshotFields.checkIdentifier, then_ok_iff, require_ok_iff, checkSome_ok_iff,
    checkAll_ok_iff] at valid
  obtain ⟨_, suiteId, suiteVersion, fingerprint, _, _, _, sources, latest, coverage, completeness,
    _, ⟨quality, _, _, _, confidence, _⟩, _⟩ := valid
  exact ⟨quality, confidence, ne_empty_of_identifier suiteId, ne_empty_of_identifier suiteVersion,
    fingerprint, fun source member => ne_empty_of_identifier (sources source member),
    fun held same => ne_empty_of_identifier (latest held same), coverage, completeness⟩

theorem qualitySignal_unit (configured : InUnit staticScore)
    (qualitySnapshot : Option (QualitySnapshot .exact)) :
    InUnit (qualitySignal .exact staticScore qualitySnapshot).1 := by
  unfold qualitySignal
  split
  · exact configured
  · rename_i snapshot
    have facts := qualityFacts snapshot
    split
    · exact configured
    · rename_i measured found
      split
      · exact blendScore_unit configured (facts.quality measured found) facts.confidence
      · exact configured

/-- The weighted sum of scores by shares of one is itself a score. -/
theorem weightedSum_unit {q c l r : ℚ} (normalized : weights.Normalized q c l r)
    (quality : InUnit a) (cost : InUnit b) (latency : InUnit d) (reliability : InUnit e) :
    ∃ sum, weightedSum .exact weights a b d e = .finite sum ∧ InUnit sum := by
  obtain ⟨rfl, ⟨qUnit, cUnit, lUnit, rUnit⟩, whole⟩ := normalized
  refine ⟨a * q + b * c + d * l + e * r, rfl, ?_, ?_⟩
  · have := mul_nonneg quality.1 qUnit.1
    have := mul_nonneg cost.1 cUnit.1
    have := mul_nonneg latency.1 lUnit.1
    have := mul_nonneg reliability.1 rUnit.1
    linarith
  · have := mul_le_of_le_one_left qUnit.1 quality.2
    have := mul_le_of_le_one_left cUnit.1 cost.2
    have := mul_le_of_le_one_left lUnit.1 latency.2
    have := mul_le_of_le_one_left rUnit.1 reliability.2
    linarith

theorem label_nonempty (source : QualitySourceLabel) : label source ≠ "" := by
  cases source <;> simp [label]

theorem component_source (staticScore : ℚ) (found : Option (Int × ℚ)) :
    (component float staticScore found).source ≠ "" := by
  unfold component
  split
  · simp
  · dsimp only
    split
    · simp
    · exact label_nonempty _

private theorem described (quality latency reliability cost : String) :
    (Dict.ofList [(MetricName.quality, quality), (.latency, latency), (.reliability, reliability),
      (.cost, cost)]).entries = [(MetricName.quality, quality), (.latency, latency),
        (.reliability, reliability), (.cost, cost)] :=
  Dict.entries_ofList (by simp)

theorem sampleCount_nonneg (snapshot : Option (ProviderMetricsSnapshot float)) :
    0 ≤ snapshot.elim 0 (·.sampleCount) := by
  cases snapshot with
  | none => exact le_refl 0
  | some snapshot =>
    have valid := snapshot.valid
    simp only [MetricsFields.check, then_ok_iff, require_ok_iff] at valid
    exact valid.2.2.1

private theorem shown_quality (found : Option (QualitySnapshot float)) :
    (∀ held, found.bind (·.qualityScore) = some held → InUnit held) ∧
    (∀ held, found.map (·.confidence) = some held → InUnit held) ∧
    (∀ held, found.map (·.suiteId) = some held → held ≠ "") ∧
    (∀ held, found.map (·.suiteVersion) = some held → held ≠ "") ∧
    (∀ held, found.map (·.suiteFingerprint) = some held → isFingerprint held = true) ∧
    (∀ held ∈ found.elim [] (·.sourceRunIds), held ≠ "") ∧
    (∀ held, found.bind (·.latestRunId) = some held → held ≠ "") ∧
    (∀ held, found.bind (·.latestRunCoverage) = some held → InUnit held) ∧
    ∀ held, found.bind (·.latestRunCompleteness) = some held → InUnit held := by
  cases found with
  | none => simp
  | some snapshot =>
    have facts := qualityFacts snapshot
    simp only [Option.bind_some, Option.map_some, Option.elim_some, Option.some.injEq,
      forall_eq']
    exact ⟨facts.quality, facts.confidence, facts.suiteId, facts.suiteVersion, facts.fingerprint,
      facts.sources, facts.latest, facts.coverage, facts.completeness⟩

/-- Every signal with a final score in the unit interval is accepted. -/
theorem signalFields_check (decimal : Rounding)
    (snapshot : Option (ProviderMetricsSnapshot .exact))
    (qualitySnapshot : Option (QualitySnapshot .exact))
    (named : candidate.provider ≠ "" ∧ candidate.model ≠ "") (inside : InUnit finalScore) :
    (signalFields .exact decimal candidate snapshot qualitySnapshot finalScore).check = .ok () := by
  obtain ⟨quality, cost, latency, reliability⟩ := candidate.scores
  unfold signalFields
  simp only [SignalFields.check, SignalFields.checkText, SignalFields.checkUnit, then_ok_iff,
    require_ok_iff, checkSome_ok_iff, checkAll_ok_iff]
  have facts := shown_quality qualitySnapshot
  refine ⟨named.1, named.2, qualitySignal_unit quality _, ?_, facts.1, facts.2.1, facts.2.2.1,
    facts.2.2.2.1, facts.2.2.2.2.1, facts.2.2.2.2.2.1, facts.2.2.2.2.2.2.1, facts.2.2.2.2.2.2.2.1,
    facts.2.2.2.2.2.2.2.2, round6_unit _ (latencySignal_unit latency snapshot).1,
    round6_unit _ (reliabilitySignal_unit reliability snapshot).1,
    round6_unit _ (costSignal_unit decimal cost snapshot).1, sampleCount_nonneg snapshot,
    round6_unit _ (confidenceForSamples_unit _ _), inside, le_refl 1, ?_, ?_⟩
  · intro held same
    cases same
    exact quality
  · simp only [Dict.values, described, List.map_cons, List.map_nil, List.forall_mem_cons]
    refine ⟨?_, component_source _ _, component_source _ _, component_source _ _, by simp⟩
    split
    · simp
    · exact label_nonempty _
  · simp only [Dict.keys, described, List.map_cons, List.map_nil]
    decide

/-- Shares of one give every named candidate a score. -/
theorem scoreCandidate_normalized (decimal : Rounding)
    (snapshot : Option (ProviderMetricsSnapshot .exact))
    (qualitySnapshot : Option (QualitySnapshot .exact)) {q c l r : ℚ}
    (normalized : weights.Normalized q c l r)
    (named : candidate.provider ≠ "" ∧ candidate.model ≠ "") :
    ∃ item, scoreCandidate .exact decimal candidate weights snapshot qualitySnapshot = .ok item := by
  obtain ⟨quality, cost, latency, reliability⟩ := candidate.scores
  obtain ⟨sum, added, inside⟩ := weightedSum_unit normalized
    (qualitySignal_unit quality qualitySnapshot) (costSignal_unit decimal cost snapshot).1
    (latencySignal_unit latency snapshot).1 (reliabilitySignal_unit reliability snapshot).1
  have accepted := RoutingSignal.modelValidate_of_check
    (signalFields_check decimal snapshot qualitySnapshot named (round6_unit .exact inside))
  unfold scoreCandidate
  rw [added]
  exact ⟨_, bind_ok_iff.mpr ⟨_, accepted, rfl⟩⟩

end Signals

end RoutingScores

namespace RoutingPreferences
variable (preferences : RoutingPreferences .exact)

/-- Finite preferences are normalized to shares of one. -/
theorem normalized_of_finite (finite : preferences.toWeights.IsFinite) :
    ∃ quality cost latency reliability,
      preferences.normalized.Normalized quality cost latency reliability := by
  obtain ⟨⟨q, isQuality⟩, ⟨c, isCost⟩, ⟨l, isLatency⟩, ⟨r, isReliability⟩⟩ := finite
  have total : preferences.toWeights.total .exact = .finite (q + c + l + r) := by
    simp only [Weights.total, isQuality, isCost, isLatency, isReliability]
    rfl
  have valid := preferences.valid
  simp only [Weights.check, then_ok_iff, require_ok_iff, total, isQuality, isCost, isLatency,
    isReliability, PyFloat.Nonneg, PyFloat.AtMostZero, not_le] at valid
  obtain ⟨qNonneg, cNonneg, lNonneg, rNonneg, positive⟩ := valid
  have share {part : ℚ} (nonneg : 0 ≤ part) (within : part ≤ q + c + l + r) :
      InUnit (part / (q + c + l + r)) := Rounding.exact.div_unit nonneg within positive
  refine ⟨q / (q + c + l + r), c / (q + c + l + r), l / (q + c + l + r), r / (q + c + l + r),
    ?_, ⟨share qNonneg ?_, share cNonneg ?_, share lNonneg ?_, share rNonneg ?_⟩, ?_⟩
  · simp only [normalized, total, isQuality, isCost, isLatency, isReliability]
    rfl
  · linarith
  · linarith
  · linarith
  · linarith
  · rw [← add_div, ← add_div, ← add_div, div_self positive.ne']

/-- An infinite preference has no share: divided by its total it is `NaN`. -/
theorem finite_of_normalized {quality cost latency reliability : ℚ}
    (normalized : preferences.normalized.Normalized quality cost latency reliability) :
    preferences.toWeights.IsFinite := by
  have fields := normalized.fields
  simp only [RoutingPreferences.normalized, Weights.mk.injEq] at fields
  obtain ⟨isQuality, isCost, isLatency, isReliability⟩ := fields
  exact ⟨PyFloat.finite_of_div ⟨_, isQuality⟩, PyFloat.finite_of_div ⟨_, isCost⟩,
    PyFloat.finite_of_div ⟨_, isLatency⟩, PyFloat.finite_of_div ⟨_, isReliability⟩⟩

/-- Preferences give shares of one, and a score to every candidate, exactly when
none of them is infinite. -/
theorem preferences_ranked_iff (decimal : Rounding) (preferences : RoutingPreferences .exact) :
    ((∃ quality cost latency reliability,
        preferences.normalized.Normalized quality cost latency reliability) ∧
      ∀ (candidate : ModelCandidate) (snapshot : Option (ProviderMetricsSnapshot .exact))
        (qualitySnapshot : Option (QualitySnapshot .exact)),
        candidate.provider ≠ "" → candidate.model ≠ "" →
        ∃ item, RoutingScores.scoreCandidate .exact decimal candidate preferences.normalized
          snapshot qualitySnapshot = .ok item) ↔
      preferences.toWeights.IsFinite := by
  constructor
  · rintro ⟨⟨_, _, _, _, normalized⟩, _⟩
    exact preferences.finite_of_normalized normalized
  · intro finite
    obtain ⟨quality, cost, latency, reliability, normalized⟩ :=
      preferences.normalized_of_finite finite
    refine ⟨⟨quality, cost, latency, reliability, normalized⟩, ?_⟩
    intro candidate snapshot qualitySnapshot provider model
    exact RoutingScores.scoreCandidate_normalized _ _ _ normalized ⟨provider, model⟩

end RoutingPreferences

section Boundless

private theorem boundless_valid : Weights.check .exact
    ⟨.inf, .finite (1 / 4), .finite (1 / 4), .finite (1 / 4)⟩ = .ok () := by
  decide +kernel

/-- `{"quality": 1e999}`, the other preferences at their default. -/
def boundlessQuality : RoutingPreferences .exact where
  toWeights := ⟨.inf, .finite (1 / 4), .finite (1 / 4), .finite (1 / 4)⟩
  valid := boundless_valid

private theorem fullScores : InUnit 1 ∧ InUnit 1 ∧ InUnit 1 ∧ InUnit 1 := by
  norm_num [InUnit]

def flawlessCandidate : ModelCandidate where
  provider := "openai"
  model := "gpt"
  quality := 1
  cost := 1
  latency := 1
  reliability := 1
  scores := fullScores

/-- The preferences are accepted, but their weights are not shares of one and the
signal of a named candidate is refused. -/
theorem boundlessQuality_refused :
    (¬ ∃ quality cost latency reliability,
      boundlessQuality.normalized.Normalized quality cost latency reliability) ∧
    flawlessCandidate.provider ≠ "" ∧ flawlessCandidate.model ≠ "" ∧
    ¬ ∃ item, RoutingScores.scoreCandidate .exact .exact flawlessCandidate
      boundlessQuality.normalized none none = .ok item := by
  refine ⟨?_, by decide, by decide, ?_⟩
  · rintro ⟨_, _, _, _, normalized⟩
    cases normalized.fields
  · rintro ⟨item, scored⟩
    cases scored

end Boundless

end ModelPilot
