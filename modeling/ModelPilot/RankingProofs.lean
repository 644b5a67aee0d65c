import ModelPilot.ModelRouter
import ModelPilot.ExplanationProofs
import ModelPilot.ProbeAdmissionProofs

/-! What a ranking is made of: each configured pair once, split by its health
verdict into ranked and excluded candidates. -/
namespace ModelPilot.ModelRouter

variable {float decimal : Rounding} {router : ModelRouter} {reads : RankingReads float}
  {requestedModel requestId : String} {preferences : RoutingPreferences float}
  {ranked : List RankedCandidate} {evidence : Dict Key HealthEligibility}

section Available

private theorem key_of_mem_entries {items : List ModelCandidate} {entry : Key × ModelCandidate}
    (member : entry ∈ (Dict.ofList (items.map fun item => (item.key, item))).entries) :
    entry.2 ∈ items ∧ entry.2.key = entry.1 := by
  obtain ⟨item, inside, same⟩ := List.mem_map.mp (Dict.mem_entries_ofList member)
  subst same
  exact ⟨inside, rfl⟩

private theorem values_keys (items : List ModelCandidate) :
    (Dict.ofList (items.map fun item => (item.key, item))).values.map (·.key) =
      (Dict.ofList (items.map fun item => (item.key, item))).keys := by
  rw [Dict.values, Dict.keys, List.map_map]
  exact List.map_congr_left fun entry member => (key_of_mem_entries member).2

/-- A pair has at most one candidate. -/
theorem available_nodup : ((router.available requestedModel).map (·.key)).Nodup := by
  rw [available, values_keys]
  exact Dict.keys_nodup _

/-- The available pairs are those of configured candidates of the requested
model. -/
theorem mem_available_keys (router : ModelRouter) (requestedModel : String) (key : Key) :
    key ∈ (router.available requestedModel).map (·.key) ↔
    ∃ candidate ∈ router.candidates, router.providers.get? candidate.provider = some true ∧
      (requestedModel ≠ "auto" → candidate.model = requestedModel) ∧ candidate.key = key := by
  rw [available, values_keys, Dict.mem_keys_ofList, List.map_map]
  by_cases auto : requestedModel = "auto"
  · simp [auto, and_assoc]
  · simp [auto, and_assoc, and_left_comm]

/-- An available candidate is a configured one of the requested model. -/
theorem available_configured {candidate : ModelCandidate}
    (member : candidate ∈ router.available requestedModel) : candidate ∈ router.candidates ∧
      router.providers.get? candidate.provider = some true ∧
      (requestedModel ≠ "auto" → candidate.model = requestedModel) := by
  obtain ⟨entry, inside, rfl⟩ := List.mem_map.mp member
  have found := (key_of_mem_entries inside).1
  by_cases auto : requestedModel = "auto"
  · simp only [auto, ne_eq, not_true_eq_false, if_false, List.mem_filter,
      decide_eq_true_eq] at found
    exact ⟨found.1, found.2, fun explicit => absurd auto explicit⟩
  · simp only [auto, ne_eq, not_false_eq_true, if_true, List.mem_filter,
      decide_eq_true_eq] at found
    exact ⟨found.1.1, found.1.2, fun _ => found.2⟩

end Available

section Scored

/-- A scored candidate and its signal are about the candidate itself. -/
structure Scores (item : RankedCandidate) : Prop where
  key : item.signal.key = item.candidate.key
  score : item.signal.finalScore = item.score

theorem scoreCandidate_ok {candidate : ModelCandidate} {weights : Weights}
    {snapshot : Option (ProviderMetricsSnapshot float)}
    {qualitySnapshot : Option (QualitySnapshot float)} {item : RankedCandidate}
    (scored : RoutingScores.scoreCandidate float decimal candidate weights snapshot
      qualitySnapshot = .ok item) : item.candidate = candidate ∧ Scores item := by
  unfold RoutingScores.scoreCandidate at scored
  split at scored
  · obtain ⟨signal, validated, done⟩ := bind_ok_iff.mp scored
    cases done
    have fields := RoutingSignal.toSignalFields_of_validated validated
    exact ⟨rfl, by rw [fields]; rfl, by rw [fields]; rfl⟩
  · cases scored

theorem place_candidates (evidence : Dict Key HealthEligibility) (scored : List RankedCandidate) :
    (place evidence scored).map (·.candidate.key) =
      (sortedBy rankingKey scored).map (·.candidate.key) := by
  rw [place, List.mapIdx_eq_zipIdx_map, List.map_map]
  have projected : ((·.candidate.key) ∘ fun entry : RankedCandidate × Nat =>
      ({ entry.1 with signal := entry.1.signal.place (evidence.get? entry.1.candidate.key) entry.2 } :
        RankedCandidate)) = (·.candidate.key) ∘ Prod.fst := rfl
  rw [projected, ← List.map_map, List.zipIdx_map_fst]

theorem mem_place {scored : List RankedCandidate} {item : RankedCandidate}
    (member : item ∈ place evidence scored) :
    ∃ other ∈ scored, ∃ position, item = { other with
      signal := other.signal.place (evidence.get? other.candidate.key) position } := by
  rw [place, List.mem_mapIdx] at member
  obtain ⟨position, bound, rfl⟩ := member
  exact ⟨_, mem_sortedBy.mp (List.getElem_mem bound), position, rfl⟩

end Scored

section Ranked

/-- The verdict of a pair when the ranking reads its health. -/
def verdictOf (reads : RankingReads float) (key : Key) : HealthEligibility :=
  healthVerdict reads.healthStore reads.now key

/-- What a ranking holds: scored candidates, one for each available pair whose
verdict, in automatic routing, is eligible; and the verdicts. -/
structure Ranking (router : ModelRouter) (reads : RankingReads float) (requestedModel : String)
    (ranked : List RankedCandidate) (evidence : Dict Key HealthEligibility) : Prop where
  keys : ∀ key, key ∈ ranked.map (·.candidate.key) ↔
    key ∈ (router.available requestedModel).map (·.key) ∧
      (requestedModel = "auto" → (verdictOf reads key).eligible = true)
  nodup : (ranked.map (·.candidate.key)).Nodup
  scores : ∀ item ∈ ranked, Scores item
  evidence : requestedModel = "auto" → ∀ key, evidence.get? key =
    if key ∈ (router.available requestedModel).map (·.key) then some (verdictOf reads key) else none

/-- The evidence collected at an aware time is the verdict of each pair. -/
theorem evaluated_verdicts {candidates : List Key}
    (evaluated : evaluateHealth reads.healthStore candidates reads.now = .ok evidence) (key : Key) :
    evidence.get? key = if key ∈ candidates then some (verdictOf reads key) else none := by
  cases aware : reads.now.toUtc with
  | none =>
    rw [evaluateHealth_naive aware] at evaluated
    cases evaluated
  | some at_ =>
    obtain ⟨other, same, verdicts⟩ := evaluateHealth_aware reads.healthStore candidates aware
    rw [evaluated] at same
    cases same
    exact verdicts key

/-- The placed ranking of candidates scored one by one. -/
private theorem placed_scored {eligible : List ModelCandidate} {scored : List RankedCandidate}
    {step : ModelCandidate → Except PyError RankedCandidate}
    (scores : ∀ candidate item, step candidate = .ok item → item.candidate = candidate ∧ Scores item)
    (distinct : (eligible.map (·.key)).Nodup) (ran : eligible.mapM step = .ok scored) :
    (∀ key, key ∈ (place evidence scored).map (·.candidate.key) ↔ key ∈ eligible.map (·.key)) ∧
      ((place evidence scored).map (·.candidate.key)).Nodup ∧
      ∀ item ∈ place evidence scored, Scores item := by
  have same : scored.map (·.candidate.key) = eligible.map (·.key) :=
    map_of_mapM (fun candidate item stepped => by rw [(scores candidate item stepped).1]) ran
  have sorted := (sortedBy_perm rankingKey scored).map (·.candidate.key)
  rw [same] at sorted
  rw [place_candidates]
  refine ⟨fun key => sorted.mem_iff, sorted.nodup_iff.mpr distinct, fun item member => ?_⟩
  obtain ⟨other, inside, position, rfl⟩ := mem_place member
  obtain ⟨candidate, _, stepped⟩ := mem_of_mapM ran inside
  obtain ⟨_, own⟩ := scores candidate other stepped
  exact ⟨own.key, own.score⟩

theorem rank_ok (ran : router.rank decimal reads requestedModel preferences =
    .ok (ranked, evidence)) : Ranking router reads requestedModel ranked evidence := by
  unfold rank at ran
  by_cases auto : requestedModel = "auto"
  · simp only [if_pos auto] at ran
    obtain ⟨verdicts, evaluated, ran⟩ := bind_ok_iff.mp ran
    obtain ⟨scored, stepped, ran⟩ := bind_ok_iff.mp ran
    cases ran
    have known := evaluated_verdicts evaluated
    have distinct : (((router.available requestedModel).filter fun item =>
        (evidence.get? item.key).any (·.eligible)).map (·.key)).Nodup :=
      available_nodup.sublist (List.filter_sublist.map _)
    obtain ⟨keys, nodup, scores⟩ := placed_scored (fun _ _ => scoreCandidate_ok) distinct stepped
    refine ⟨fun key => ?_, nodup, scores, fun _ => known⟩
    rw [keys]
    simp only [List.mem_map, List.mem_filter]
    constructor
    · rintro ⟨item, ⟨inside, eligible⟩, rfl⟩
      rw [known, if_pos (List.mem_map_of_mem inside)] at eligible
      exact ⟨⟨item, inside, rfl⟩, fun _ => by simpa using eligible⟩
    · rintro ⟨⟨item, inside, rfl⟩, eligible⟩
      refine ⟨item, ⟨inside, ?_⟩, rfl⟩
      rw [known, if_pos (List.mem_map_of_mem inside)]
      simpa using eligible auto
  · simp only [if_neg auto] at ran
    obtain ⟨verdicts, _, ran⟩ := bind_ok_iff.mp ran
    obtain ⟨scored, stepped, ran⟩ := bind_ok_iff.mp ran
    cases ran
    obtain ⟨keys, nodup, scores⟩ :=
      placed_scored (fun _ _ => scoreCandidate_ok) available_nodup stepped
    refine ⟨fun key => ?_, nodup, scores, fun routed => absurd routed auto⟩
    rw [keys]
    exact ⟨fun inside => ⟨inside, fun routed => absurd routed auto⟩, fun held => held.1⟩

/-- The exclusions are the ineligible verdicts. -/
theorem exclusions_keys {excluded : List ExcludedRoutingCandidate}
    (built : exclusions evidence = .ok excluded) (key : Key) :
    key ∈ excluded.map (·.key) ↔
      ∃ health, evidence.get? key = some health ∧ health.eligible = false := by
  have same : excluded.map (·.key) = ((sortedBy (fun entry => toLex entry.1)
      evidence.entries).filter (!·.2.eligible)).map (·.1) := by
    refine map_of_mapM (fun entry item validated => ?_) built
    rw [ExcludedRoutingCandidate.key,
      ExcludedRoutingCandidate.toExcludedFields_of_validated validated]
  rw [same]
  simp only [List.mem_map, List.mem_filter, mem_sortedBy, Bool.not_eq_true', Dict.get?_eq_some_iff]
  constructor
  · rintro ⟨⟨key, health⟩, ⟨member, refused⟩, rfl⟩
    exact ⟨health, member, refused⟩
  · rintro ⟨health, member, refused⟩
    exact ⟨(key, health), ⟨member, refused⟩, rfl⟩

/-- The explanation that comes with an automatic ranking. -/
structure Explained (router : ModelRouter) (reads : RankingReads float)
    (ranked : List RankedCandidate) (requestId : String) (explanation : RoutingExplanation) :
    Prop where
  candidates : explanation.candidates = ranked.map (·.signal)
  excluded : ∀ key, key ∈ explanation.excludedCandidates.map (·.key) ↔
    key ∈ (router.available "auto").map (·.key) ∧ (verdictOf reads key).eligible = false
  unserved : explanation.servedProvider = none ∧ explanation.servedModel = none
  requestId : explanation.requestId = requestId

theorem rankWithExplanation_ok {routing : Option RoutingExplanation}
    (ran : router.rankWithExplanation decimal reads requestedModel preferences requestId =
      .ok (ranked, routing)) :
    (∃ evidence, Ranking router reads requestedModel ranked evidence) ∧
      if requestedModel = "auto" then
        ∃ explanation, routing = some explanation ∧
          Explained router reads ranked requestId explanation
      else routing = none := by
  unfold rankWithExplanation at ran
  obtain ⟨⟨items, evidence⟩, ranking, ran⟩ := bind_ok_iff.mp ran
  have holds := rank_ok ranking
  by_cases auto : requestedModel = "auto"
  · simp only [auto, ne_eq, not_true_eq_false, if_false] at ran
    obtain ⟨excluded, built, ran⟩ := bind_ok_iff.mp ran
    obtain ⟨explanation, validated, ran⟩ := bind_ok_iff.mp ran
    cases ran
    rw [if_pos auto]
    refine ⟨⟨evidence, holds⟩, explanation, rfl, ?_⟩
    unfold RoutingExplanation.modelValidate at validated
    split at validated
    · cases validated
      refine ⟨rfl, fun key => ?_, ⟨rfl, rfl⟩, rfl⟩
      rw [exclusions_keys built, holds.evidence auto, ← auto]
      constructor
      · rintro ⟨health, known, refused⟩
        split at known
        · cases known
          exact ⟨‹_›, refused⟩
        · cases known
      · rintro ⟨inside, refused⟩
        exact ⟨_, if_pos inside, refused⟩
    · cases validated
  · simp only [ne_eq, auto, not_false_eq_true, if_true] at ran
    cases ran
    rw [if_neg auto]
    exact ⟨⟨evidence, holds⟩, rfl⟩

end Ranked

end ModelPilot.ModelRouter
