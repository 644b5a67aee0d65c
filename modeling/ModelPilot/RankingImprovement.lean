import Mathlib.Data.List.Forall2
import ModelPilot.OrderStatistics
import ModelPilot.RankingIndependence

/-! A candidate with better evidence is not scored or ranked worse. Every step of
a score keeps order: caps, reciprocals, clamps, blends, weights and rounding. -/
namespace ModelPilot

open Rounding (InUnit)

namespace RoutingScores

variable {float decimal : Rounding} {staticScore better measured found confidence : ℚ}

section Components

theorem clamp_mono : Monotone clamp := fun _ _ before =>
  max_le_max (le_refl 0) (min_le_min before (le_refl 1))

theorem round6_mono (float : Rounding) : Monotone (round6 float) :=
  float.monotone.comp (roundDigits_mono 6)

theorem blendScore_mono (configured : staticScore ≤ better) (measurement : measured ≤ found)
    (share : InUnit confidence) :
    blendScore float staticScore measured confidence ≤ blendScore float better found confidence := by
  have rest := float.monotone (sub_nonneg.mpr share.2)
  rw [float.zero] at rest
  refine float.monotone (add_le_add (float.monotone ?_) (float.monotone ?_))
  · exact mul_le_mul_of_nonneg_right configured rest
  · exact mul_le_mul_of_nonneg_right measurement share.1

/-- A reciprocal falls as its denominator grows. -/
private theorem div_anti (float : Rounding) {target low high : ℚ} (nonneg : 0 ≤ target)
    (positive : 0 < low) (before : low ≤ high) : float.div target high ≤ float.div target low :=
  float.monotone (div_le_div_of_nonneg_left nonneg positive before)

theorem normalizeLatency_anti : Antitone (normalizeLatency float) := by
  intro fast slow before
  refine clamp_mono (div_anti float (by norm_num [latencyTargetMs]) (by positivity) ?_)
  exact max_le_max (min_le_min before (le_refl _)) (le_refl _)

theorem normalizeCost_anti : Antitone (normalizeCost float decimal) := by
  intro cheap dear before
  refine clamp_mono (float.monotone (div_anti decimal (by norm_num [costTargetUsd]) ?_ ?_))
  · exact lt_of_lt_of_le (by norm_num [costEpsilon]) (le_max_right _ _)
  · exact max_le_max before (le_refl _)

/-- Measurements over the same samples, the later at least as good. -/
def Measures (older newer : Int × ℚ) : Prop := older.1 = newer.1 ∧ older.2 ≤ newer.2

theorem component_mono (configured : staticScore ≤ better) {older newer : Option (Int × ℚ)}
    (measures : Option.Rel Measures older newer) :
    (component float staticScore older).score ≤ (component float better newer).score := by
  cases measures with
  | none => exact configured
  | some related =>
    rename_i before after
    obtain ⟨samples, measured⟩ := before
    obtain ⟨same, improved⟩ := related
    dsimp only at same improved
    subst same
    unfold component
    dsimp only
    split
    · exact configured
    · exact blendScore_mono configured improved (confidenceForSamples_unit _ _)

end Components

section Improvement

/-- A metrics snapshot that differs in a lower latency, more successes among the
same samples, or a lower cost over the same priced samples. -/
structure SnapshotImproves (older newer : ProviderMetricsSnapshot float) : Prop where
  samples : older.sampleCount = newer.sampleCount
  priced : older.pricedSampleCount = newer.pricedSampleCount
  successes : older.successCount ≤ newer.successCount
  rate : older.successRate.isSome = newer.successRate.isSome
  latency : Option.Rel (fun before after => after ≤ before) older.p50LatencyMs newer.p50LatencyMs
  cost : Option.Rel (fun before after => after ≤ before) older.p50EstimatedCost
    newer.p50EstimatedCost

/-- A quality snapshot with a higher score at the same confidence. -/
structure QualityImproves (older newer : QualitySnapshot float) : Prop where
  confidence : older.confidence = newer.confidence
  quality : Option.Rel (· ≤ ·) older.qualityScore newer.qualityScore

/-- A candidate with static scores that are at least as high. -/
structure CandidateImproves (older newer : ModelCandidate) : Prop where
  key : newer.key = older.key
  quality : older.quality ≤ newer.quality
  cost : older.cost ≤ newer.cost
  latency : older.latency ≤ newer.latency
  reliability : older.reliability ≤ newer.reliability

variable {older newer : Option (ProviderMetricsSnapshot float)}
  {before after : Option (QualitySnapshot float)} {weights : Weights}

private theorem rel_map {α β γ δ : Type} {related : α → β → Prop} {kept : γ → δ → Prop}
    {f : α → γ} {g : β → δ} {left : Option α} {right : Option β}
    (relates : Option.Rel related left right)
    (keeps : ∀ first second, related first second → kept (f first) (g second)) :
    Option.Rel kept (left.map f) (right.map g) := by
  cases relates with
  | none => exact .none
  | some held => exact .some (keeps _ _ held)

private theorem rel_of_isSome {α β : Type} {left : Option α} {right : Option β}
    (same : left.isSome = right.isSome) : Option.Rel (fun _ _ => True) left right := by
  cases left <;> cases right
  · exact .none
  · cases same
  · cases same
  · exact .some trivial

theorem latencySignal_mono (configured : staticScore ≤ better)
    (improves : Option.Rel SnapshotImproves older newer) :
    (latencySignal float staticScore older).score ≤ (latencySignal float better newer).score := by
  apply component_mono configured
  cases improves with
  | none => exact .none
  | some improved =>
    exact rel_map improved.latency fun _ _ faster =>
      ⟨improved.samples, normalizeLatency_anti faster⟩

theorem reliabilitySignal_mono (configured : staticScore ≤ better)
    (improves : Option.Rel SnapshotImproves older newer) :
    (reliabilitySignal float staticScore older).score ≤
      (reliabilitySignal float better newer).score := by
  apply component_mono configured
  cases improves with
  | none => exact .none
  | some improved =>
    rename_i old new
    refine rel_map (rel_of_isSome improved.rate) fun _ _ _ => ⟨improved.samples, clamp_mono ?_⟩
    have samples : (0 : ℚ) ≤ new.sampleCount := by
      exact_mod_cast sampleCount_nonneg (some new)
    have successes : (old.successCount : ℚ) ≤ new.successCount := by
      exact_mod_cast improved.successes
    have prior : float.mul staticScore reliabilityPriorStrength ≤
        float.mul better reliabilityPriorStrength :=
      float.monotone (mul_le_mul_of_nonneg_right configured (by norm_num [reliabilityPriorStrength]))
    rw [improved.samples]
    apply float.div_mono (float.monotone (add_le_add successes prior))
    linarith [show (0 : ℚ) < reliabilityPriorStrength by norm_num [reliabilityPriorStrength]]

theorem costSignal_mono (decimal : Rounding) (configured : staticScore ≤ better)
    (improves : Option.Rel SnapshotImproves older newer) :
    (costSignal float decimal staticScore older).score ≤
      (costSignal float decimal better newer).score := by
  apply component_mono configured
  cases improves with
  | none => exact .none
  | some improved =>
    exact rel_map improved.cost fun _ _ cheaper =>
      ⟨improved.priced, normalizeCost_anti cheaper⟩

theorem qualitySignal_mono (configured : staticScore ≤ better)
    (improves : Option.Rel QualityImproves before after) :
    (qualitySignal float staticScore before).1 ≤ (qualitySignal float better after).1 := by
  cases improves with
  | none => exact configured
  | some improved =>
    rename_i old new
    have share := (qualityFacts old).confidence
    unfold qualitySignal
    dsimp only
    obtain ⟨same, quality⟩ := improved
    revert quality
    cases old.qualityScore <;> cases new.qualityScore <;> intro quality
    · exact configured
    · cases quality
    · cases quality
    · cases quality with | some higher =>
      dsimp only
      rw [← same]
      split
      · exact blendScore_mono configured higher share
      · exact configured

/-- Shares of one weigh better scores no less. -/
theorem weightedSum_mono (float : Rounding) {q c l r : ℚ} (normalized : weights.Normalized q c l r)
    (quality : a ≤ a') (cost : b ≤ b') (latency : d ≤ d') (reliability : e ≤ e') :
    ∃ sum sum', weightedSum float weights a b d e = .finite sum ∧
      weightedSum float weights a' b' d' e' = .finite sum' ∧ sum ≤ sum' := by
  obtain ⟨rfl, ⟨qUnit, cUnit, lUnit, rUnit⟩, _⟩ := normalized
  have weigh {share score score' : ℚ} (unit : InUnit share) (higher : score ≤ score') :
      float.mul score share ≤ float.mul score' share :=
    float.monotone (mul_le_mul_of_nonneg_right higher unit.1)
  have add {left left' right right' : ℚ} (first : left ≤ left') (second : right ≤ right') :
      float.add left right ≤ float.add left' right' := float.monotone (add_le_add first second)
  exact ⟨_, _, rfl, rfl, add (add (add (weigh qUnit quality) (weigh cUnit cost))
    (weigh lUnit latency)) (weigh rUnit reliability)⟩

theorem scoreCandidate_sum {candidate : ModelCandidate} {item : RankedCandidate}
    {snapshot : Option (ProviderMetricsSnapshot float)}
    {qualitySnapshot : Option (QualitySnapshot float)}
    (scored : scoreCandidate float decimal candidate weights snapshot qualitySnapshot = .ok item) :
    ∃ sum, weightedSum float weights (qualitySignal float candidate.quality qualitySnapshot).1
      (costSignal float decimal candidate.cost snapshot).score
      (latencySignal float candidate.latency snapshot).score
      (reliabilitySignal float candidate.reliability snapshot).score = .finite sum ∧
      item.score = round6 float sum := by
  unfold scoreCandidate at scored
  split at scored
  · obtain ⟨signal, _, done⟩ := bind_ok_iff.mp scored
    cases done
    exact ⟨_, ‹_›, rfl⟩
  · cases scored

/-- Better evidence gives no lower score. -/
theorem scoreCandidate_mono {q c l r : ℚ} (normalized : weights.Normalized q c l r)
    {candidate improved : ModelCandidate} (statics : CandidateImproves candidate improved)
    (metrics : Option.Rel SnapshotImproves older newer)
    (quality : Option.Rel QualityImproves before after) {item other : RankedCandidate}
    (scored : scoreCandidate float decimal candidate weights older before = .ok item)
    (again : scoreCandidate float decimal improved weights newer after = .ok other) :
    item.score ≤ other.score := by
  obtain ⟨sum, added, score⟩ := scoreCandidate_sum scored
  obtain ⟨better, addedAgain, otherScore⟩ := scoreCandidate_sum again
  obtain ⟨low, high, isLow, isHigh, higher⟩ := weightedSum_mono float normalized
    (qualitySignal_mono statics.quality quality)
    (costSignal_mono decimal statics.cost metrics)
    (latencySignal_mono statics.latency metrics) (reliabilitySignal_mono statics.reliability metrics)
  cases added.symm.trans isLow
  cases addedAgain.symm.trans isHigh
  rw [score, otherScore]
  exact round6_mono float higher

end Improvement

end RoutingScores

section Positions

/-- Where one list passes a test only if the related other does, it passes no more
often. -/
theorem countP_le_of_related {α γ : Type*} {related : α → γ → Prop} {items : List α}
    {others : List γ} {test : α → Bool} {passes : γ → Bool}
    (relates : List.Forall₂ related items others)
    (fewer : ∀ item, ∀ other ∈ others, related item other → passes other = true →
      test item = true) : others.countP passes ≤ items.countP test := by
  induction relates with
  | nil => exact le_refl 0
  | @cons item other _ _ first _ ih =>
    have later := ih fun item other member => fewer item other (List.mem_cons_of_mem _ member)
    rw [List.countP_cons, List.countP_cons]
    by_cases passed : passes other = true
    · rw [if_pos passed, if_pos (fewer item other List.mem_cons_self first passed)]
      omega
    · rw [if_neg passed]
      split <;> omega

end Positions

namespace ModelRouter

variable {float decimal : Rounding} {router : ModelRouter} {reads other : RankingReads float}
  {preferences : RoutingPreferences float} {candidate better : ModelCandidate}
  {ranked scored : List RankedCandidate}

/-- The candidate of the same pair gives way to a better one. -/
def replaced (better candidate : ModelCandidate) : ModelCandidate :=
  if candidate.key = better.key then better else candidate

def replacing (router : ModelRouter) (better : ModelCandidate) : ModelRouter :=
  { router with candidates := router.candidates.map (replaced better) }

/-- The evidence of one candidate is replaced by evidence that is at least as good,
and nothing else changes. -/
structure Improves (reads other : RankingReads float) (candidate better : ModelCandidate) :
    Prop where
  now : other.now = reads.now
  health : other.healthStore = reads.healthStore
  statics : RoutingScores.CandidateImproves candidate better
  metrics : Option.Rel RoutingScores.SnapshotImproves (snapshotOf reads.metrics candidate.key)
    (snapshotOf other.metrics candidate.key)
  quality : Option.Rel RoutingScores.QualityImproves
    (qualityOf float reads.qualitySource candidate.key)
    (qualityOf float other.qualitySource candidate.key)
  elsewhere : ∀ key, key ≠ candidate.key →
    snapshotOf other.metrics key = snapshotOf reads.metrics key ∧
      qualityOf float other.qualitySource key = qualityOf float reads.qualitySource key

@[simp] theorem replaced_key (better candidate : ModelCandidate) :
    (replaced better candidate).key = candidate.key := by
  unfold replaced
  split
  · exact Eq.symm ‹_›
  · rfl

theorem replacing_keys (router : ModelRouter) (better : ModelCandidate) :
    (router.replacing better).candidates.map (·.key) = router.candidates.map (·.key) := by
  rw [replacing, List.map_map]
  exact List.map_congr_left fun candidate _ => replaced_key better candidate

/-- Health does not look at the evidence, so the same pairs stay eligible. -/
theorem eligible_replacing (distinct : (router.candidates.map (·.key)).Nodup)
    (improves : Improves reads other candidate better) :
    (router.replacing better).eligible other "auto" =
      (router.eligible reads "auto").map (replaced better) := by
  have again : ((router.replacing better).candidates.map (·.key)).Nodup := by
    rwa [replacing_keys]
  rw [eligible, eligible, available_of_distinct distinct, available_of_distinct again, replacing,
    List.filter_map, List.filter_map]
  congr 1
  refine (List.filter_congr fun item _ => ?_).trans
    (congrArg _ (List.filter_congr fun item _ => ?_))
  · have same := replaced_key better item
    simp only [Function.comp_apply, Eligible, verdictOf, improves.now, improves.health, same]
  · have provider : (replaced better item).provider = item.provider :=
      congrArg Prod.fst (replaced_key better item)
    simp [provider]

/-- How a score follows the one before: unchanged elsewhere, no lower for the
candidate that improved. -/
structure Follows (candidate : ModelCandidate) (item later : RankedCandidate) : Prop where
  key : later.candidate.key = item.candidate.key
  elsewhere : item.candidate.key ≠ candidate.key →
    later.candidate = item.candidate ∧ later.score = item.score
  own : item.candidate.key = candidate.key → item.score ≤ later.score

section Exact
variable {reads other : RankingReads .exact} {preferences : RoutingPreferences .exact}
  {weights : Weights}

/-- A candidate that could be scored can be scored with the evidence replaced. -/
theorem scoreOf_follows {q c l r : ℚ} (normalized : weights.Normalized q c l r)
    (distinct : (router.candidates.map (·.key)).Nodup) (member : candidate ∈ router.candidates)
    (improves : Improves reads other candidate better) {present : ModelCandidate}
    (inside : present ∈ router.candidates) {item : RankedCandidate}
    (scored : scoreOf decimal reads "auto" weights present = .ok item) :
    ∃ later, scoreOf decimal other "auto" weights (replaced better present) = .ok later ∧
      Follows candidate item later := by
  obtain ⟨rfl, own⟩ := scoreOf_ok scored
  by_cases same : item.candidate.key = candidate.key
  · have one : item.candidate = candidate :=
      List.inj_on_of_nodup_map distinct inside member same
    have given : replaced better item.candidate = better :=
      if_pos (same.trans improves.statics.key.symm)
    have named : better.provider ≠ "" ∧ better.model ≠ "" := by
      have key : item.signal.key = better.key := by rw [own.key, same, improves.statics.key]
      have first : item.signal.provider = better.provider := congrArg Prod.fst key
      have second : item.signal.model = better.model := congrArg Prod.snd key
      exact ⟨first ▸ item.signal.named.1, second ▸ item.signal.named.2⟩
    obtain ⟨later, again⟩ := RoutingScores.scoreCandidate_normalized decimal
      (snapshotOf other.metrics better.key) (qualityOf .exact other.qualitySource better.key)
      normalized named
    rw [scoreOf, if_pos rfl] at scored
    rw [given, scoreOf, if_pos rfl]
    refine ⟨later, again, ?_, fun elsewhere => absurd same elsewhere, fun _ => ?_⟩
    · rw [(scoreCandidate_ok again).1, improves.statics.key, same]
    · rw [improves.statics.key] at again
      rw [one] at scored
      exact RoutingScores.scoreCandidate_mono normalized improves.statics improves.metrics
        improves.quality scored again
  · have given : replaced better item.candidate = item.candidate :=
      if_neg fun equal => same (equal.trans improves.statics.key)
    obtain ⟨metrics, quality⟩ := improves.elsewhere _ same
    rw [scoreOf, if_pos rfl] at scored
    rw [given, scoreOf, if_pos rfl, metrics, quality]
    exact ⟨item, scored, rfl, fun _ => ⟨rfl, rfl⟩, fun equal => absurd equal same⟩

theorem filterMap_related {α γ : Type*} {related : α → γ → Prop} {step : δ → Option α}
    {again : δ → Option γ} {change : δ → δ} {items : List δ}
    (each : ∀ item ∈ items, ∃ first second, step item = some first ∧
      again (change item) = some second ∧ related first second) :
    List.Forall₂ related (items.filterMap step) ((items.map change).filterMap again) := by
  induction items with
  | nil => exact .nil
  | cons item rest ih =>
    obtain ⟨⟨first, second, found, foundAgain, relates⟩, later⟩ := List.forall_mem_cons.mp each
    rw [List.map_cons, List.filterMap_cons_some found, List.filterMap_cons_some foundAgain]
    exact .cons relates (ih later)

private theorem related_of_mem {α γ : Type*} {related : α → γ → Prop} {items : List α}
    {others : List γ} (relates : List.Forall₂ related items others) {item : α}
    (member : item ∈ items) : ∃ other ∈ others, related item other := by
  induction relates with
  | nil => cases member
  | @cons head first _ _ held _ ih =>
    rcases List.mem_cons.mp member with rfl | inside
    · exact ⟨first, List.mem_cons_self, held⟩
    · obtain ⟨other, found, same⟩ := ih inside
      exact ⟨other, List.mem_cons_of_mem _ found, same⟩

/-- Every scored candidate of a ranking is scored again, in its place. -/
theorem scoredOf_follows {q c l r : ℚ} (normalized : weights.Normalized q c l r)
    (distinct : (router.candidates.map (·.key)).Nodup) (member : candidate ∈ router.candidates)
    (improves : Improves reads other candidate better)
    (each : ∀ present ∈ router.eligible reads "auto", ∃ item,
      scoreOf decimal reads "auto" weights present = .ok item) :
    (∀ present ∈ (router.replacing better).eligible other "auto", ∃ item,
      scoreOf decimal other "auto" weights present = .ok item) ∧
    List.Forall₂ (Follows candidate) (router.scoredOf decimal reads "auto" weights)
      ((router.replacing better).scoredOf decimal other "auto" weights) := by
  rw [scoredOf, scoredOf, eligible_replacing distinct improves]
  have again {present : ModelCandidate} (inside : present ∈ router.eligible reads "auto")
      {item : RankedCandidate}
      (scored : scoreOf decimal reads "auto" weights present = .ok item) :
      ∃ later, scoreOf decimal other "auto" weights (replaced better present) = .ok later ∧
        Follows candidate item later :=
    scoreOf_follows normalized distinct member improves
      ((mem_eligible_of_distinct distinct).mp inside).1 scored
  constructor
  · intro present inside
    obtain ⟨former, held, rfl⟩ := List.mem_map.mp inside
    obtain ⟨item, scored⟩ := each former held
    obtain ⟨later, rescored, _⟩ := again held scored
    exact ⟨later, rescored⟩
  · refine filterMap_related fun former held => ?_
    obtain ⟨item, scored⟩ := each former held
    obtain ⟨later, rescored, follows⟩ := again held scored
    exact ⟨item, later, toOption_eq_some_iff.mpr scored, toOption_eq_some_iff.mpr rescored, follows⟩

end Exact

section Ranks

/-- A rank counts the scored candidates before it. -/
theorem rank_of_ordered (sorted : (sortedBy rankingKey scored).Pairwise
      (rankingKey · < rankingKey ·)) {requestedModel : String} {item : RankedCandidate}
    (member : item ∈ ordered reads requestedModel scored) :
    item.signal.rank =
      scored.countP (fun before => decide (rankingKey before < rankingKey item)) + 1 := by
  rw [ordered, List.mem_mapIdx] at member
  obtain ⟨position, bound, rfl⟩ := member
  have below := countP_below sorted bound
  rw [(sortedBy_perm rankingKey scored).countP_eq] at below
  rw [RoutingSignal.place_rank]
  exact_mod_cast congrArg (· + 1) below.symm

theorem rankingKey_congr {item later : RankedCandidate} (same : later.candidate = item.candidate)
    (score : later.score = item.score) : rankingKey later = rankingKey item := by
  rw [rankingKey, rankingKey, same, score]

theorem rankingKey_le {item later : RankedCandidate}
    (same : later.candidate.key = item.candidate.key) (higher : item.score ≤ later.score) :
    rankingKey later ≤ rankingKey item := by
  have names : (later.candidate.provider, later.candidate.model) =
      (item.candidate.provider, item.candidate.model) := same
  rw [rankingKey, rankingKey, names]
  rcases lt_or_eq_of_le (neg_le_neg higher) with before | equal
  · exact (Prod.Lex.toLex_lt_toLex.mpr (.inl before)).le
  · rw [equal]

/-- No more candidates come before the one that improved. -/
theorem fewer_before {rescored : List RankedCandidate} {item later : RankedCandidate}
    (follows : List.Forall₂ (Follows candidate) scored rescored)
    (unique : ∀ first ∈ rescored, ∀ second ∈ rescored,
      first.candidate.key = second.candidate.key → first = second)
    (held : later ∈ rescored) (follow : Follows candidate item later)
    (own : item.candidate.key = candidate.key) :
    rescored.countP (fun before => decide (rankingKey before < rankingKey later)) ≤
      scored.countP (fun before => decide (rankingKey before < rankingKey item)) := by
  apply countP_le_of_related follows
  intro former present found related passed
  have passed := of_decide_eq_true passed
  have ahead := rankingKey_le follow.key (follow.own own)
  by_cases same : former.candidate.key = candidate.key
  · -- the candidate that improved does not come before itself
    have keys : present.candidate.key = later.candidate.key := by
      rw [related.key, same, follow.key, own]
    rw [unique present found later held keys] at passed
    exact absurd passed (lt_irrefl _)
  · obtain ⟨candidates, score⟩ := related.elsewhere same
    rw [rankingKey_congr candidates score] at passed
    exact decide_eq_true (lt_of_lt_of_le passed ahead)

/-- Every scored candidate is ranked. -/
theorem mem_ordered_of_scored (reads : RankingReads float) (requestedModel : String)
    {item : RankedCandidate} (member : item ∈ scored) :
    ∃ placed ∈ ordered reads requestedModel scored,
      placed.candidate = item.candidate ∧ placed.score = item.score := by
  have sorted : item ∈ sortedBy rankingKey scored := mem_sortedBy.mpr member
  obtain ⟨position, bound, rfl⟩ := List.getElem_of_mem sorted
  exact ⟨_, List.mem_mapIdx.mpr ⟨position, bound, rfl⟩, rfl, rfl⟩

end Ranks

section Exact
variable {reads other : RankingReads .exact}

/-- Better evidence for one candidate leaves the scores of the others alone, and
neither lowers its own score nor worsens its rank. -/
theorem improvement_never_lowers (decimal : Rounding) (router : ModelRouter)
    (reads other : RankingReads .exact) (preferences : RoutingPreferences .exact)
    (candidate better : ModelCandidate) (ranked : List RankedCandidate)
    (finite : preferences.toWeights.IsFinite)
    (distinct : (router.candidates.map (·.key)).Nodup) (member : candidate ∈ router.candidates)
    (improves : Improves reads other candidate better)
    (ranks : router.Ranks decimal reads "auto" preferences ranked) :
    ∃ again, (router.replacing better).Ranks decimal other "auto" preferences again ∧
      (again.map (·.candidate.key)).Perm (ranked.map (·.candidate.key)) ∧
      ∀ item ∈ ranked, ∃ later ∈ again, later.candidate.key = item.candidate.key ∧
        (item.candidate.key ≠ candidate.key →
          later.candidate = item.candidate ∧ later.score = item.score) ∧
        (item.candidate.key = candidate.key →
          item.score ≤ later.score ∧ later.signal.rank ≤ item.signal.rank) := by
  obtain ⟨aware, each, isOrdered⟩ := ranks_iff.mp ranks
  obtain ⟨q, c, l, r, normalized⟩ := preferences.normalized_of_finite finite
  obtain ⟨eachAgain, follows⟩ := scoredOf_follows normalized distinct member improves each
  have again : (router.replacing better).Ranks decimal other "auto" preferences _ :=
    ranks_iff.mpr ⟨fun _ => improves.now ▸ aware rfl, eachAgain, rfl⟩
  refine ⟨_, again, ?_, ?_⟩
  · have before := (ranks_candidates ranks).map (·.key)
    have after := (ranks_candidates again).map (·.key)
    rw [List.map_map] at before after
    refine after.trans (.trans ?_ before.symm)
    rw [eligible_replacing distinct improves, List.map_map]
    exact .of_eq (List.map_congr_left fun present _ => replaced_key better present)
  · intro item inside
    rw [isOrdered] at inside
    obtain ⟨scored, held, position, placed⟩ := mem_ordered inside
    obtain ⟨rescored, heldAgain, follow⟩ := related_of_mem follows held
    obtain ⟨later, laterInside, same, score⟩ :=
      mem_ordered_of_scored other "auto" heldAgain
    have before : item.candidate = scored.candidate ∧ item.score = scored.score := by
      rw [placed]
      exact ⟨rfl, rfl⟩
    rw [before.1, before.2]
    refine ⟨later, laterInside, ?_, ?_, ?_⟩
    · rw [same, follow.key]
    · rw [same, score]
      exact follow.elsewhere
    · intro own
      rw [score]
      refine ⟨follow.own own, ?_⟩
      rw [rank_of_ordered scoredOf_sorted inside, rank_of_ordered scoredOf_sorted laterInside]
      have counts := fewer_before follows (fun _ first _ second => scoredOf_inj first second)
        heldAgain follow own
      rw [rankingKey_congr before.1 before.2, rankingKey_congr same score]
      exact_mod_cast Nat.add_le_add_right counts 1

private theorem sharperScores : InUnit 1 ∧ InUnit (3 / 4) ∧ InUnit (1 / 3) ∧ InUnit (1 / 2) := by
  norm_num [InUnit]

/-- The second candidate of the pair, with a better quality and latency. -/
def sharperCandidate : ModelCandidate where
  provider := "deepseek"
  model := "chat"
  quality := 1
  cost := 3 / 4
  latency := 1 / 3
  reliability := 1 / 2
  scores := sharperScores

theorem sharper_improves : Improves pairReads pairReads modestCandidate sharperCandidate where
  now := rfl
  health := rfl
  statics := by constructor <;> norm_num [modestCandidate, sharperCandidate, ModelCandidate.key]
  metrics := .none
  quality := .none
  elsewhere := fun _ _ => ⟨rfl, rfl⟩

theorem sharper_never_lowers :
    ∃ ranked again, pairRouter.Ranks .exact pairReads "auto" evenPreferences ranked ∧
      (pairRouter.replacing sharperCandidate).Ranks .exact pairReads "auto" evenPreferences again ∧
      ∀ item ∈ ranked, ∃ later ∈ again, later.candidate.key = item.candidate.key ∧
        (item.candidate.key = modestCandidate.key →
          item.score ≤ later.score ∧ later.signal.rank ≤ item.signal.rank) := by
  obtain ⟨ranked, ranks⟩ := ranks_exist .exact pairRouter pairReads "auto" even_finite pair_named
    fun _ => rfl
  obtain ⟨again, rerank, _, later⟩ := improvement_never_lowers .exact pairRouter pairReads pairReads
    evenPreferences modestCandidate sharperCandidate ranked even_finite pair_distinct
    (List.mem_cons_of_mem _ List.mem_cons_self) sharper_improves ranks
  refine ⟨ranked, again, ranks, rerank, fun item inside => ?_⟩
  obtain ⟨found, member, key, _, own⟩ := later item inside
  exact ⟨found, member, key, own⟩

end Exact

end ModelRouter
end ModelPilot
