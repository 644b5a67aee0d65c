import ModelPilot.ScoreBounds

/-! Ranking does not depend on the order of the candidates, nor on the ones that
are not ranked: leaving candidates out or opening their circuits filters the
ranking. -/
namespace ModelPilot

/-- A ranked candidate apart from its place in the ranking. -/
def RankedCandidate.unplaced (item : RankedCandidate) : ModelCandidate × ℚ × SignalFields :=
  (item.candidate, item.score, { item.signal.toSignalFields with rank := 1, selected := false })

namespace ModelRouter

variable {float decimal : Rounding} {router : ModelRouter} {reads : RankingReads float}
  {requestedModel : String} {preferences : RoutingPreferences float} {weights : Weights}
  {ranked scored : List RankedCandidate}

/-- Candidates with distinct pairs are available in their own order. -/
theorem available_of_distinct (distinct : (router.candidates.map (·.key)).Nodup) :
    router.available requestedModel = router.candidates.filter fun candidate =>
      router.providers.get? candidate.provider = some true ∧
        (requestedModel ≠ "auto" → candidate.model = requestedModel) := by
  have pairs (items : List ModelCandidate) (once : (items.map (·.key)).Nodup) :
      (Dict.ofList (items.map fun item => (item.key, item))).values = items := by
    rw [Dict.values, Dict.entries_ofList (by rwa [List.map_map]), List.map_map]
    exact List.map_id items
  unfold available
  by_cases auto : requestedModel = "auto"
  · simp only [auto, ne_eq, not_true_eq_false, if_false, false_implies, and_true]
    exact pairs _ (distinct.sublist (List.filter_sublist.map _))
  · simp only [auto, ne_eq, not_false_eq_true, if_true, true_implies, List.filter_filter]
    rw [pairs _ (distinct.sublist (List.filter_sublist.map _))]
    refine List.filter_congr fun candidate _ => ?_
    simp [and_comm]

theorem mem_eligible_of_distinct (distinct : (router.candidates.map (·.key)).Nodup)
    {candidate : ModelCandidate} :
    candidate ∈ router.eligible reads requestedModel ↔ candidate ∈ router.candidates ∧
      (router.providers.get? candidate.provider = some true ∧
        (requestedModel ≠ "auto" → candidate.model = requestedModel)) ∧
      Eligible reads requestedModel candidate.key := by
  rw [eligible, available_of_distinct distinct]
  simp only [List.mem_filter, decide_eq_true_eq, and_assoc]

/-- The same scored candidates are ordered the same way. -/
theorem ordered_congr (sorted : (sortedBy rankingKey scored).Pairwise
      (rankingKey · < rankingKey ·)) {other : List RankedCandidate}
    (otherSorted : (sortedBy rankingKey other).Pairwise (rankingKey · < rankingKey ·))
    (same : ∀ item, item ∈ scored ↔ item ∈ other) :
    ordered reads requestedModel scored = ordered reads requestedModel other := by
  have equal : sortedBy rankingKey scored = sortedBy rankingKey other :=
    sorted_ext sorted otherSorted fun item => by rw [mem_sortedBy, mem_sortedBy, same]
  rw [ordered, ordered, equal]

/-- A ranking of candidates with distinct pairs depends on which candidates
there are, not on their order. -/
theorem ranks_of_same_candidates (distinct : (router.candidates.map (·.key)).Nodup)
    {other : List ModelCandidate} (otherDistinct : (other.map (·.key)).Nodup)
    (same : ∀ candidate, candidate ∈ router.candidates ↔ candidate ∈ other)
    (ranks : router.Ranks decimal reads requestedModel preferences ranked) :
    { router with candidates := other }.Ranks decimal reads requestedModel preferences ranked := by
  obtain ⟨aware, each, rfl⟩ := ranks_iff.mp ranks
  have members (candidate : ModelCandidate) :
      candidate ∈ router.eligible reads requestedModel ↔
        candidate ∈ { router with candidates := other }.eligible reads requestedModel := by
    rw [mem_eligible_of_distinct distinct, mem_eligible_of_distinct otherDistinct, same]
  refine ranks_iff.mpr ⟨aware, fun candidate inside => each candidate ((members _).mpr inside), ?_⟩
  apply ordered_congr scoredOf_sorted scoredOf_sorted
  intro item
  rw [mem_scoredOf, mem_scoredOf, members]

/-- A scored candidate with the health it will show, apart from its place. -/
def shown (reads : RankingReads float) (requestedModel : String) (item : RankedCandidate) :
    ModelCandidate × ℚ × SignalFields :=
  (item.candidate, item.score,
    { item.signal.toSignalFields with
      health := shownHealth reads requestedModel item.candidate.key
      rank := 1
      selected := false })

theorem unplaced_ordered (reads : RankingReads float) (requestedModel : String)
    (scored : List RankedCandidate) (keep : Key → Bool) :
    ((ordered reads requestedModel scored).filter (keep ·.candidate.key)).map (·.unplaced) =
      ((sortedBy rankingKey scored).filter (keep ·.candidate.key)).map
        (shown reads requestedModel) := by
  rw [ordered, List.mapIdx_eq_zipIdx_map, List.filter_map, List.map_map]
  conv_rhs =>
    rw [← List.zipIdx_map_fst 0 (sortedBy rankingKey scored), List.filter_map, List.map_map]
  rfl

/-- Circuits may have opened: each verdict is the one before, or ineligible. -/
def Narrows (reads : RankingReads float) (healthStore : Option HealthReads) : Prop :=
  ∀ key, verdictOf { reads with healthStore } key = verdictOf reads key ∨
    (verdictOf { reads with healthStore } key).eligible = false

section Narrowed
variable {healthStore : Option HealthReads} {key : Key}

theorem verdict_of_narrows (narrows : Narrows reads healthStore)
    (held : (verdictOf { reads with healthStore } key).eligible = true) :
    verdictOf { reads with healthStore } key = verdictOf reads key := by
  refine (narrows key).resolve_right fun refused => ?_
  rw [held] at refused
  cases refused

theorem eligible_of_narrows (narrows : Narrows reads healthStore)
    (held : Eligible { reads with healthStore } requestedModel key) :
    Eligible reads requestedModel key := fun auto => by
  rw [← verdict_of_narrows narrows (held auto), held auto]

theorem shownHealth_of_narrows (narrows : Narrows reads healthStore)
    (held : Eligible { reads with healthStore } requestedModel key) :
    shownHealth { reads with healthStore } requestedModel key =
      shownHealth reads requestedModel key := by
  unfold shownHealth
  split
  · rw [verdict_of_narrows narrows (held ‹_›)]
  · rfl

end Narrowed

/-- Leaving candidates out and opening circuits filters the ranking. -/
theorem ranks_of_fewer (distinct : (router.candidates.map (·.key)).Nodup)
    {kept : List ModelCandidate} (fewer : kept.Sublist router.candidates)
    {healthStore : Option HealthReads}
    (narrows : Narrows reads healthStore)
    (ranks : router.Ranks decimal reads requestedModel preferences ranked) :
    ∃ sub, { router with candidates := kept }.Ranks decimal { reads with healthStore }
        requestedModel preferences sub ∧
      sub.map (·.unplaced) = (ranked.filter fun item => item.candidate.key ∈ kept.map (·.key) ∧
        Eligible { reads with healthStore } requestedModel item.candidate.key).map (·.unplaced) := by
  obtain ⟨aware, each, rfl⟩ := ranks_iff.mp ranks
  have apart := distinct.sublist (fewer.map _)
  have members (candidate : ModelCandidate) :
      candidate ∈ { router with candidates := kept }.eligible { reads with healthStore }
        requestedModel ↔
      candidate ∈ router.eligible reads requestedModel ∧ candidate.key ∈ kept.map (·.key) ∧
        Eligible { reads with healthStore } requestedModel candidate.key := by
    rw [mem_eligible_of_distinct distinct, mem_eligible_of_distinct apart]
    constructor
    · rintro ⟨inside, configured, held⟩
      exact ⟨⟨fewer.subset inside, configured, eligible_of_narrows narrows held⟩,
        List.mem_map_of_mem inside, held⟩
    · rintro ⟨⟨inside, configured, _⟩, key, held⟩
      obtain ⟨other, otherInside, same⟩ := List.mem_map.mp key
      have one := List.inj_on_of_nodup_map distinct (fewer.subset otherInside) inside same
      exact ⟨one ▸ otherInside, configured, held⟩
  have scored : sortedBy rankingKey ({ router with candidates := kept }.scoredOf decimal
      { reads with healthStore } requestedModel preferences.normalized) =
      (sortedBy rankingKey (router.scoredOf decimal reads requestedModel
        preferences.normalized)).filter fun item => item.candidate.key ∈ kept.map (·.key) ∧
          Eligible { reads with healthStore } requestedModel item.candidate.key := by
    apply sorted_ext scoredOf_sorted (scoredOf_sorted.sublist List.filter_sublist)
    intro item
    rw [mem_sortedBy, mem_scoredOf, members, List.mem_filter, mem_sortedBy, mem_scoredOf,
      decide_eq_true_eq, and_right_comm]
    rfl
  refine ⟨_, ranks_iff.mpr ⟨aware, fun candidate inside =>
    each candidate ((members candidate).mp inside).1, rfl⟩, ?_⟩
  have all := unplaced_ordered { reads with healthStore } requestedModel
    ({ router with candidates := kept }.scoredOf decimal { reads with healthStore }
      requestedModel preferences.normalized) fun _ => true
  rw [List.filter_true, List.filter_true] at all
  rw [all, scored, unplaced_ordered reads requestedModel _ fun key =>
    decide (key ∈ kept.map (·.key) ∧ Eligible { reads with healthStore } requestedModel key)]
  refine List.map_congr_left fun item member => ?_
  have held := (of_decide_eq_true (List.mem_filter.mp member).2).2
  rw [shown, shown, shownHealth_of_narrows narrows held]

/-- With finite preferences in exact arithmetic, named candidates are ranked. -/
theorem ranks_exist (decimal : Rounding) (router : ModelRouter) (reads : RankingReads .exact)
    (requestedModel : String) {preferences : RoutingPreferences .exact}
    (finite : preferences.toWeights.IsFinite)
    (named : ∀ candidate ∈ router.candidates, candidate.provider ≠ "" ∧ candidate.model ≠ "")
    (aware : requestedModel = "auto" → reads.now.toUtc.isSome = true) :
    ∃ ranked, router.Ranks decimal reads requestedModel preferences ranked := by
  obtain ⟨quality, cost, latency, reliability, normalized⟩ :=
    preferences.normalized_of_finite finite
  refine ⟨_, ranks_iff.mpr ⟨aware, fun candidate member => ?_, rfl⟩⟩
  have own := named candidate (available_configured (List.mem_filter.mp member).1).1
  unfold scoreOf
  split
  · exact RoutingScores.scoreCandidate_normalized _ _ _ normalized own
  · exact RoutingScores.scoreCandidate_normalized _ _ _ normalized own

section Pair

private theorem modestScores : Rounding.InUnit (1 / 2) ∧ Rounding.InUnit (3 / 4) ∧
    Rounding.InUnit (1 / 4) ∧ Rounding.InUnit (1 / 2) := by
  norm_num [Rounding.InUnit]

def modestCandidate : ModelCandidate where
  provider := "deepseek"
  model := "chat"
  quality := 1 / 2
  cost := 3 / 4
  latency := 1 / 4
  reliability := 1 / 2
  scores := modestScores

def pairRouter : ModelRouter where
  providers := Dict.ofList [("openai", true), ("deepseek", true)]
  candidates := [flawlessCandidate, modestCandidate]

def pairReads : RankingReads .exact where
  now := .utc 1000000

private theorem even_valid : Weights.check .exact
    ⟨.finite (1 / 4), .finite (1 / 4), .finite (1 / 4), .finite (1 / 4)⟩ = .ok () := by
  decide +kernel

/-- The default preferences. -/
def evenPreferences : RoutingPreferences .exact where
  toWeights := ⟨.finite (1 / 4), .finite (1 / 4), .finite (1 / 4), .finite (1 / 4)⟩
  valid := even_valid

theorem even_finite : evenPreferences.toWeights.IsFinite :=
  ⟨⟨1 / 4, rfl⟩, ⟨1 / 4, rfl⟩, ⟨1 / 4, rfl⟩, ⟨1 / 4, rfl⟩⟩

theorem pair_named : ∀ candidate ∈ pairRouter.candidates,
    candidate.provider ≠ "" ∧ candidate.model ≠ "" := by
  simp [pairRouter, flawlessCandidate, modestCandidate]

theorem pair_distinct : (pairRouter.candidates.map (·.key)).Nodup := by
  simp [pairRouter, flawlessCandidate, modestCandidate, ModelCandidate.key]

end Pair

/-- With finite preferences, the ranking of candidates with distinct pairs does
not depend on their order, and leaving candidates out or opening circuits
filters it. Duplicate pairs are ranked once. -/
theorem ranking_independent_of_alternatives (decimal : Rounding) (router : ModelRouter)
    (reads : RankingReads .exact) (requestedModel : String)
    (preferences : RoutingPreferences .exact) (finite : preferences.toWeights.IsFinite) :
    ((∀ candidate ∈ router.candidates, candidate.provider ≠ "" ∧ candidate.model ≠ "") →
      (requestedModel = "auto" → reads.now.toUtc.isSome = true) →
      ∃ ranked, router.Ranks decimal reads requestedModel preferences ranked) ∧
    ((router.candidates.map (·.key)).Nodup →
      (∀ (other : List ModelCandidate) (ranked : List RankedCandidate),
        router.candidates.Perm other →
        ({ router with candidates := other }.Ranks decimal reads requestedModel preferences ranked ↔
          router.Ranks decimal reads requestedModel preferences ranked)) ∧
      ∀ (kept : List ModelCandidate) (healthStore : Option HealthReads)
        (ranked : List RankedCandidate),
        kept.Sublist router.candidates → Narrows reads healthStore →
        router.Ranks decimal reads requestedModel preferences ranked →
        ∃ sub, { router with candidates := kept }.Ranks decimal { reads with healthStore }
            requestedModel preferences sub ∧
          sub.map (·.unplaced) =
            (ranked.filter fun item => item.candidate.key ∈ kept.map (·.key) ∧
              Eligible { reads with healthStore } requestedModel
                item.candidate.key).map (·.unplaced)) ∧
    ∀ ranked, router.Ranks decimal reads requestedModel preferences ranked →
      (ranked.map (·.candidate.key)).Nodup := by
  refine ⟨ranks_exist decimal router reads requestedModel finite, fun distinct => ⟨?_, ?_⟩, ?_⟩
  · intro other ranked same
    have otherDistinct := (same.map (·.key)).nodup_iff.mp distinct
    constructor
    · exact ranks_of_same_candidates otherDistinct distinct fun _ => same.symm.mem_iff
    · exact ranks_of_same_candidates distinct otherDistinct fun _ => same.mem_iff
  · intro kept healthStore ranked fewer narrows ranks
    exact ranks_of_fewer distinct fewer narrows ranks
  · rintro ranked ⟨evidence, ran⟩
    exact (rank_ok ran).nodup

/-- Two candidates are ranked alike in both orders, and one of them alone as it was
among both. -/
theorem pair_ranking_independent :
    ∃ ranked, pairRouter.Ranks .exact pairReads "auto" evenPreferences ranked ∧
      { pairRouter with candidates := [modestCandidate, flawlessCandidate] }.Ranks .exact pairReads
        "auto" evenPreferences ranked ∧
      (ranked.map (·.candidate.key)).Nodup ∧
      ∃ sub, { pairRouter with candidates := [modestCandidate] }.Ranks .exact pairReads "auto"
          evenPreferences sub ∧
        sub.map (·.unplaced) = (ranked.filter fun item =>
          item.candidate.key ∈ [modestCandidate].map (·.key) ∧
            Eligible pairReads "auto" item.candidate.key).map (·.unplaced) := by
  obtain ⟨given, distinct, once⟩ := ranking_independent_of_alternatives .exact pairRouter pairReads
    "auto" evenPreferences even_finite
  obtain ⟨ranked, ranks⟩ := given pair_named fun _ => rfl
  obtain ⟨reordered, fewer⟩ := distinct pair_distinct
  refine ⟨ranked, ranks, (reordered _ ranked (.swap _ _ _)).mpr ranks, once ranked ranks, ?_⟩
  exact fewer _ _ ranked (List.sublist_cons_self _ _) (fun _ => .inl rfl) ranks

end ModelRouter
end ModelPilot
