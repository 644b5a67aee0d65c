import ModelPilot.RankingIndependence

/-! Who is ranked is settled before anybody is scored: automatic routing ranks the
available candidates with an eligible verdict and excludes the others, whatever
preferences, metrics and quality say; explicit routing reads no store at all. -/
namespace ModelPilot

/-- `evaluate_health` under way over a store whose answers may change: the state
of the store, the evidence so far and the pairs that were read. -/
structure HealthPass (σ : Type) where
  store : σ
  evidence : Dict Key HealthEligibility := .empty
  reads : List Key := []

namespace HealthPass
variable {σ : Type} {getHealth : σ → Key → Except PyError (Option ProviderHealth) × σ}
  {now : Datetime} {pass : HealthPass σ} {candidates : List Key}

/-- One turn of the loop. -/
def turn (getHealth : σ → Key → Except PyError (Option ProviderHealth) × σ) (now : Datetime)
    (pass : HealthPass σ) (key : Key) : HealthPass σ :=
  if (pass.evidence.get? key).isSome then pass
  else
    let (read, store) := getHealth pass.store key
    { store
      evidence := pass.evidence.set key (healthVerdict (some fun _ => read) now key)
      reads := pass.reads ++ [key] }

def run (getHealth : σ → Key → Except PyError (Option ProviderHealth) × σ) (now : Datetime)
    (candidates : List Key) (pass : HealthPass σ) : HealthPass σ :=
  candidates.foldl (turn getHealth now) pass

/-- The pairs read are those with evidence. -/
theorem turn_reads (key : Key) (logged : pass.reads = pass.evidence.keys) :
    (turn getHealth now pass key).reads = (turn getHealth now pass key).evidence.keys := by
  unfold turn
  split
  · exact logged
  · rename_i unread
    dsimp only
    rw [logged, Dict.keys_set_fresh _ (by simpa using unread)]

theorem run_reads (getHealth : σ → Key → Except PyError (Option ProviderHealth) × σ)
    (now : Datetime) (candidates : List Key) (logged : pass.reads = pass.evidence.keys) :
    (run getHealth now candidates pass).reads =
      (run getHealth now candidates pass).evidence.keys := by
  induction candidates generalizing pass with
  | nil => exact logged
  | cons key rest ih => exact ih (turn_reads key logged)

/-- One turn over a store that keeps its answers. -/
private def steady (answers : HealthReads) (now : Datetime) (evidence : Dict Key HealthEligibility)
    (key : Key) : Dict Key HealthEligibility :=
  if (evidence.get? key).isSome then evidence
  else evidence.set key (healthVerdict (some answers) now key)

private theorem absent_before {answers : HealthReads} {evidence : Dict Key HealthEligibility}
    {key probe : Key} (absent : (steady answers now evidence key).get? probe = none) :
    evidence.get? probe = none := by
  unfold steady at absent
  split at absent
  · exact absent
  · rw [Dict.get?_set] at absent
    split at absent
    · cases absent
    · exact absent

/-- A pair with evidence is not asked for again. -/
private theorem steady_congr {answers others : HealthReads}
    (evidence : Dict Key HealthEligibility)
    (same : ∀ key, evidence.get? key = none → answers key = others key) :
    candidates.foldl (steady answers now) evidence =
      candidates.foldl (steady others now) evidence := by
  induction candidates generalizing evidence with
  | nil => rfl
  | cons key rest ih =>
    have first : steady answers now evidence key = steady others now evidence key := by
      unfold steady
      split
      · rfl
      · rename_i unread
        have absent : evidence.get? key = none := by simpa using unread
        simp only [healthVerdict, Option.elim_some, same key absent]
    rw [List.foldl_cons, List.foldl_cons, ← first]
    exact ih _ fun probe absent => same probe (absent_before absent)

/-- A changing store looks like one that keeps its answers. -/
private theorem run_steady (getHealth : σ → Key → Except PyError (Option ProviderHealth) × σ)
    (now : Datetime) (candidates : List Key) (pass : HealthPass σ) : ∃ answers : HealthReads,
    (run getHealth now candidates pass).evidence =
      candidates.foldl (steady answers now) pass.evidence := by
  induction candidates generalizing pass with
  | nil => exact ⟨fun _ => .ok none, rfl⟩
  | cons key rest ih =>
    obtain ⟨answers, later⟩ := ih (turn getHealth now pass key)
    by_cases known : (pass.evidence.get? key).isSome = true
    · refine ⟨answers, ?_⟩
      rw [turn, if_pos known] at later
      rw [List.foldl_cons, steady, if_pos known, ← later, run, run, List.foldl_cons, turn,
        if_pos known]
    · -- the answer that was given stands for all of them
      let given := (getHealth pass.store key).1
      refine ⟨fun probe => if probe = key then given else answers probe, ?_⟩
      have stepped : (turn getHealth now pass key).evidence =
          steady (fun probe => if probe = key then given else answers probe) now
            pass.evidence key := by
        rw [turn, if_neg known, steady, if_neg known]
        simp only [healthVerdict, Option.elim_some, if_true]
        rfl
      rw [run, List.foldl_cons, ← run, later, List.foldl_cons, stepped]
      refine steady_congr _ fun probe absent => ?_
      have other : probe ≠ key := by
        rintro rfl
        rw [steady, if_neg known, Dict.get?_set_self] at absent
        cases absent
      rw [if_neg other]

/-- Each pair is read at most once, and the evidence is that of a store that keeps
its answers. -/
theorem run_once (store : σ) (candidates : List Key) (aware : now.toUtc = some at_) :
    (run getHealth now candidates ⟨store, .empty, []⟩).reads.Nodup ∧
    (∀ key, key ∈ (run getHealth now candidates ⟨store, .empty, []⟩).reads ↔ key ∈ candidates) ∧
    ∃ answers, evaluateHealth (some answers) candidates now =
      .ok (run getHealth now candidates ⟨store, .empty, []⟩).evidence := by
  have logged : (run getHealth now candidates ⟨store, .empty, []⟩).reads = _ :=
    run_reads getHealth now candidates rfl
  obtain ⟨answers, same⟩ := run_steady getHealth now candidates ⟨store, .empty, []⟩
  have evaluated : evaluateHealth (some answers) candidates now =
      .ok (run getHealth now candidates ⟨store, .empty, []⟩).evidence := by
    rw [evaluateHealth, aware, same]
    rfl
  obtain ⟨evidence, again, verdicts⟩ := evaluateHealth_aware (some answers) candidates aware
  rw [evaluated] at again
  cases again
  refine ⟨logged ▸ Dict.keys_nodup _, fun key => ?_, answers, evaluated⟩
  rw [logged, Dict.mem_keys_iff, verdicts]
  split <;> simp [*]

end HealthPass

namespace ModelRouter

variable {float decimal : Rounding} {router : ModelRouter} {reads : RankingReads float}
  {requestedModel requestId : String} {preferences : RoutingPreferences float}
  {ranked : List RankedCandidate} {evidence : Dict Key HealthEligibility}

/-- The pairs an automatic ranking leaves out, in their order, with the verdicts
that leave them out. -/
def refusedVerdicts (router : ModelRouter) (healthStore : Option HealthReads) (now : Datetime) :
    List (Key × HealthEligibility) :=
  ((sortedBy toLex ((router.available "auto").map (·.key))).map fun key =>
    (key, healthVerdict healthStore now key)).filter fun entry => !entry.2.eligible

theorem exclusions_eq {excluded : List ExcludedRoutingCandidate}
    (verdicts : ∀ key, evidence.get? key =
      if key ∈ (router.available "auto").map (·.key) then
        some (healthVerdict reads.healthStore reads.now key) else none)
    (built : exclusions evidence = .ok excluded) :
    excluded.map (fun item => (item.key, item.health)) =
      router.refusedVerdicts reads.healthStore reads.now := by
  have shown : excluded.map (fun item => (item.key, item.health)) =
      ((sortedBy (fun entry => toLex entry.1) evidence.entries).filter (!·.2.eligible)).map id :=
    map_of_mapM (fun entry item validated => by
      rw [ExcludedRoutingCandidate.key,
        ExcludedRoutingCandidate.toExcludedFields_of_validated validated]
      rfl) built
  rw [shown, List.map_id, refusedVerdicts]
  congr 1
  have entryKeys : (evidence.entries.map fun entry => toLex entry.1).Nodup := by
    have keys := evidence.distinct.map toLex.injective
    rwa [List.map_map] at keys
  refine sorted_ext (sortedBy_strict entryKeys) ?_ ?_
  · rw [List.pairwise_map]
    exact sortedBy_strict (available_nodup.map toLex.injective)
  · rintro ⟨key, health⟩
    rw [mem_sortedBy, ← Dict.get?_eq_some_iff, verdicts]
    simp only [List.mem_map, mem_sortedBy, Prod.mk.injEq]
    constructor
    · intro known
      split at known
      · cases known
        exact ⟨key, ‹_›, rfl, rfl⟩
      · cases known
    · rintro ⟨_, inside, rfl, rfl⟩
      exact if_pos inside

/-- The signals of an ordered ranking are placed one after the other. -/
theorem ordered_signals {scored : List RankedCandidate} (own : ∀ item ∈ scored, Scores item) :
    (ordered reads requestedModel scored).map (·.signal) =
      ExplanationFields.placed (fun signal => shownHealth reads requestedModel signal.key) 0
        ((sortedBy rankingKey scored).map (·.signal)) := by
  rw [ExplanationFields.placed_eq_mapIdx, ordered, List.mapIdx_eq_zipIdx_map,
    List.mapIdx_eq_zipIdx_map, List.map_map, List.zipIdx_map, List.map_map]
  apply List.map_congr_left
  rintro ⟨item, position⟩ member
  have key := (own item (mem_sortedBy.mp (List.fst_mem_of_mem_zipIdx member))).key
  simp [key]

/-- The ranked and the excluded candidates are apart. -/
theorem ranked_partitioned {excluded : List ExcludedRoutingCandidate}
    (ran : router.rank decimal reads "auto" preferences = .ok (ranked, evidence))
    (built : exclusions evidence = .ok excluded) :
    ExplanationFields.Partitioned (ranked.map (·.signal)) excluded := by
  have holds := rank_ok ran
  have keys : (ranked.map (·.signal)).map (·.key) = ranked.map (·.candidate.key) := by
    rw [List.map_map]
    exact List.map_congr_left fun item member => (holds.scores item member).key
  have refused := exclusions_eq (holds.evidence rfl) built
  have refusedOf (item : ExcludedRoutingCandidate) (member : item ∈ excluded) :
      item.health.eligible = false := by
    have entry := List.mem_map_of_mem (f := fun item => (item.key, item.health)) member
    rw [refused, refusedVerdicts, List.mem_filter] at entry
    simpa using entry.2
  obtain ⟨_, scored, _, isOrdered⟩ := rank_ok_iff.mp ran
  refine ⟨keys ▸ holds.nodup, ?_, ?_, ?_, refusedOf⟩
  · intro signal member health shows
    obtain ⟨item, inside, rfl⟩ := List.mem_map.mp member
    have eligible := ((holds.keys item.candidate.key).mp (List.mem_map_of_mem inside)).2 rfl
    rw [isOrdered] at inside
    obtain ⟨other, _, position, rfl⟩ := mem_ordered inside
    rw [RoutingSignal.place_health, shownHealth, if_pos rfl] at shows
    cases shows
    exact eligible
  · intro key member other
    rw [keys] at member
    obtain ⟨health, known, ineligible⟩ := (exclusions_keys built key).mp other
    obtain ⟨inside, eligible⟩ := (holds.keys key).mp member
    rw [holds.evidence rfl, if_pos inside] at known
    cases known
    rw [eligible rfl] at ineligible
    cases ineligible
  · have excludedKeys : excluded.map (·.key) =
        (router.refusedVerdicts reads.healthStore reads.now).map (·.1) := by
      rw [← refused, List.map_map]
      rfl
    rw [excludedKeys, refusedVerdicts]
    apply List.Nodup.sublist (List.filter_sublist.map _)
    rw [List.map_map]
    have sorted := (sortedBy_perm (toLex : Key → String ×ₗ String)
      ((router.available "auto").map (·.key))).nodup_iff.mpr available_nodup
    exact (List.map_id _).symm ▸ sorted

/-- What is excluded of named candidates is validated. -/
theorem exclusions_of_named
    (ran : router.rank decimal reads "auto" preferences = .ok (ranked, evidence))
    (named : ∀ candidate ∈ router.candidates, candidate.provider ≠ "" ∧ candidate.model ≠ "") :
    ∃ excluded, exclusions evidence = .ok excluded := by
  refine ⟨_, mapM_ok_iff.mpr ⟨?_, rfl⟩⟩
  rintro ⟨key, health⟩ member
  have known := Dict.get?_eq_some_iff.mpr (mem_sortedBy.mp (List.mem_filter.mp member).1)
  rw [(rank_ok ran).evidence rfl] at known
  split at known
  · rename_i inside
    obtain ⟨candidate, available, rfl⟩ := List.mem_map.mp inside
    have own := named candidate (available_configured available).1
    obtain ⟨item, validated, _⟩ := ExcludedRoutingCandidate.modelValidate_named
      ⟨candidate.provider, candidate.model, health⟩ own.1 own.2
    exact ⟨item, validated⟩
  · cases known

/-- An automatic ranking of named candidates is explained. -/
theorem rankWithExplanation_of_rank
    (ran : router.rank decimal reads "auto" preferences = .ok (ranked, evidence))
    (named : ∀ candidate ∈ router.candidates, candidate.provider ≠ "" ∧ candidate.model ≠ "")
    (request : requestId ≠ "") :
    ∃ explanation, router.rankWithExplanation decimal reads "auto" preferences requestId =
      .ok (ranked, some explanation) := by
  have holds := rank_ok ran
  obtain ⟨collected, scored, stepped, isOrdered⟩ := rank_ok_iff.mp ran
  obtain ⟨excluded, built⟩ := exclusions_of_named ran named
  have signals : ranked.map (·.signal) = ExplanationFields.placed
      (fun signal => shownHealth reads "auto" signal.key) 0
      ((sortedBy rankingKey scored).map (·.signal)) := by
    rw [isOrdered]
    exact ordered_signals fun item member => by
      obtain ⟨_, _, own⟩ := mem_of_mapM stepped member
      exact (scoreOf_ok own).2
  let fields : ExplanationFields :=
    { requestId
      routingVersion := if reads.qualitySource.isSome then "v0.4" else "v0.3"
      strategy := "weighted_measured_v1"
      selectedProvider := ranked.head?.map (·.candidate.provider)
      selectedModel := ranked.head?.map (·.candidate.model)
      selected := ranked.head?.map (·.signal)
      candidates := ranked.map (·.signal)
      createdAt := reads.now
      excludedCandidates := excluded }
  have own : ∀ item, ranked.head? = some item → item.signal.key = item.candidate.key :=
    fun item first => (holds.scores item (List.mem_of_head? first)).key
  have accepted : fields.check = .ok () := by
    have version : fields.routingVersion ≠ "" := by
      change (if reads.qualitySource.isSome then "v0.4" else "v0.3") ≠ ""
      split <;> decide
    apply ExplanationFields.check_placed ⟨request, version, by simp [fields],
      (ranks_iff.mp ⟨evidence, ran⟩).1 rfl⟩ signals (ranked_partitioned ran built)
    · exact List.head?_map.symm
    · simp only [fields, Option.map_map]
      exact Option.map_congr fun item first => (congrArg Prod.fst (own item first)).symm
    · simp only [fields, Option.map_map]
      exact Option.map_congr fun item first => (congrArg Prod.snd (own item first)).symm
    · exact ⟨Iff.rfl, by simp [fields], by simp [fields], by simp [fields]⟩
  refine ⟨⟨fields, accepted⟩, ?_⟩
  unfold rankWithExplanation
  refine bind_ok_iff.mpr ⟨(ranked, evidence), ran, ?_⟩
  simp only [ne_eq, not_true_eq_false, if_false]
  exact bind_ok_iff.mpr ⟨excluded, built, bind_ok_iff.mpr
    ⟨_, RoutingExplanation.modelValidate_checked accepted, rfl⟩⟩

/-- What automatic routing ranks and excludes. -/
theorem automatic_sets {routing : Option RoutingExplanation}
    (ran : router.rankWithExplanation decimal reads "auto" preferences requestId =
      .ok (ranked, routing)) :
    (ranked.map (·.candidate)).Perm ((router.available "auto").filter fun candidate =>
      (healthVerdict reads.healthStore reads.now candidate.key).eligible) ∧
    ∃ explanation, routing = some explanation ∧
      explanation.excludedCandidates.map (fun excluded => (excluded.key, excluded.health)) =
        router.refusedVerdicts reads.healthStore reads.now := by
  unfold rankWithExplanation at ran
  obtain ⟨⟨items, evidence⟩, ranking, ran⟩ := bind_ok_iff.mp ran
  simp only [ne_eq, not_true_eq_false, if_false] at ran
  obtain ⟨excluded, built, ran⟩ := bind_ok_iff.mp ran
  obtain ⟨explanation, validated, ran⟩ := bind_ok_iff.mp ran
  cases ran
  constructor
  · have members := ranks_candidates ⟨evidence, ranking⟩
    simpa only [eligible, Eligible, verdictOf, true_implies, Bool.decide_eq_true] using members
  · refine ⟨explanation, rfl, ?_⟩
    rw [RoutingExplanation.toExplanationFields_of_validated validated]
    exact exclusions_eq ((rank_ok ranking).evidence rfl) built

/-- What explicit routing ranks. -/
theorem explicit_set {routing : Option RoutingExplanation} (explicit : requestedModel ≠ "auto")
    (ran : router.rankWithExplanation decimal reads requestedModel preferences requestId =
      .ok (ranked, routing)) :
    (ranked.map (·.candidate)).Perm (router.available requestedModel) ∧ routing = none := by
  unfold rankWithExplanation at ran
  obtain ⟨⟨items, evidence⟩, ranking, ran⟩ := bind_ok_iff.mp ran
  simp only [if_pos explicit] at ran
  cases ran
  have members := ranks_candidates ⟨evidence, ranking⟩
  rw [eligible_explicit router reads explicit] at members
  exact ⟨members, rfl⟩

/-- Explicit routing reads no store. -/
theorem rank_explicit (explicit : requestedModel ≠ "auto") (other : RankingReads float) :
    router.rankWithExplanation decimal reads requestedModel preferences requestId =
      router.rankWithExplanation decimal other requestedModel preferences requestId := by
  have same : router.rank decimal reads requestedModel preferences =
      router.rank decimal other requestedModel preferences := by
    simp only [rank, if_neg explicit]
  simp only [rankWithExplanation, same, if_pos explicit]

/-- Health settles who is ranked and who is excluded: neither preferences nor
metrics nor quality can change it. Each health is read once, at the one
evaluation time, and explicit routing depends on no store. -/
theorem eligibility_separate_from_scoring (router : ModelRouter)
    (healthStore : Option HealthReads) (now : Datetime) (aware : now.toUtc.isSome = true) :
    (∀ (float decimal : Rounding)
      (metrics : Option (Except PyError (List (ProviderMetricsSnapshot float))))
      (qualitySource : Option QualitySource) (preferences : RoutingPreferences float)
      (requestId : String) (ranked : List RankedCandidate) (routing : Option RoutingExplanation),
      router.rankWithExplanation decimal { now, healthStore, metrics, qualitySource } "auto"
        preferences requestId = .ok (ranked, routing) →
      (ranked.map (·.candidate)).Perm ((router.available "auto").filter fun candidate =>
        (healthVerdict healthStore now candidate.key).eligible) ∧
      ∃ explanation, routing = some explanation ∧
        explanation.excludedCandidates.map (fun excluded => (excluded.key, excluded.health)) =
          router.refusedVerdicts healthStore now) ∧
    ((∀ candidate ∈ router.candidates, candidate.provider ≠ "" ∧ candidate.model ≠ "") →
      ∀ (decimal : Rounding)
        (metrics : Option (Except PyError (List (ProviderMetricsSnapshot .exact))))
        (qualitySource : Option QualitySource) (preferences : RoutingPreferences .exact)
        (requestId : String), preferences.toWeights.IsFinite → requestId ≠ "" →
        ∃ ranked explanation, router.rankWithExplanation decimal
          { now, healthStore, metrics, qualitySource } "auto" preferences requestId =
            .ok (ranked, some explanation)) ∧
    (∀ (σ : Type) (getHealth : σ → Key → Except PyError (Option ProviderHealth) × σ) (store : σ),
      let pass := HealthPass.run getHealth now ((router.available "auto").map (·.key))
        ⟨store, .empty, []⟩
      pass.reads.Nodup ∧
        (∀ key, key ∈ pass.reads ↔ key ∈ (router.available "auto").map (·.key)) ∧
        ∃ answers, evaluateHealth (some answers) ((router.available "auto").map (·.key)) now =
          .ok pass.evidence) ∧
    ∀ (float decimal : Rounding) (reads other : RankingReads float) (requestedModel : String)
      (preferences : RoutingPreferences float) (requestId : String), requestedModel ≠ "auto" →
      router.rankWithExplanation decimal reads requestedModel preferences requestId =
        router.rankWithExplanation decimal other requestedModel preferences requestId ∧
      ∀ ranked routing, router.rankWithExplanation decimal reads requestedModel preferences
        requestId = .ok (ranked, routing) →
        (ranked.map (·.candidate)).Perm (router.available requestedModel) ∧ routing = none := by
  refine ⟨?_, ?_, ?_, ?_⟩
  · intro float decimal metrics qualitySource preferences requestId ranked routing ran
    exact automatic_sets ran
  · intro named decimal metrics qualitySource preferences requestId finite request
    obtain ⟨ranked, evidence, ran⟩ := ranks_exist decimal router
      { now, healthStore, metrics, qualitySource } "auto" finite named fun _ => aware
    obtain ⟨explanation, explained⟩ := rankWithExplanation_of_rank ran named request
    exact ⟨ranked, explanation, explained⟩
  · intro σ getHealth store
    obtain ⟨at_, reading⟩ := Option.isSome_iff_exists.mp aware
    exact HealthPass.run_once store _ reading
  · intro float decimal reads other requestedModel preferences requestId explicit
    exact ⟨rank_explicit explicit other, fun ranked routing ran => explicit_set explicit ran⟩

private theorem brokenRecord_valid : HealthFields.check
    { provider := flawlessCandidate.provider, model := flawlessCandidate.model, state := .opened
      consecutiveFailures := 3, openedAt := some 900000, cooldownUntil := some 2000000
      lastFailureAt := some 900000, updatedAt := 900000 } = .ok () := by
  decide +kernel

/-- The open circuit of the better candidate. -/
def brokenRecord : ProviderHealth where
  provider := flawlessCandidate.provider
  model := flawlessCandidate.model
  state := .opened
  consecutiveFailures := 3
  openedAt := some 900000
  cooldownUntil := some 2000000
  lastFailureAt := some 900000
  updatedAt := 900000
  valid := brokenRecord_valid

def brokenReads (key : Key) : Except PyError (Option ProviderHealth) :=
  if key = brokenRecord.key then .ok (some brokenRecord) else .ok none

def brokenVerdict : HealthEligibility where
  eligible := false
  state := some .opened
  cooldownUntil := some 2000000
  consecutiveFailures := some 3
  reason := .circuitOpen

/-- While its cooldown runs, the other candidate is ranked alone. -/
theorem pair_eligibility_separate :
    ∃ ranked explanation, pairRouter.rankWithExplanation .exact
        { pairReads with healthStore := some brokenReads } "auto" evenPreferences "request" =
          .ok (ranked, some explanation) ∧
      ranked.map (·.candidate.key) = [modestCandidate.key] ∧
      explanation.excludedCandidates.map (fun excluded => (excluded.key, excluded.health)) =
        [(brokenRecord.key, brokenVerdict)] := by
  have remaining : (((pairRouter.available "auto").filter fun candidate =>
      (healthVerdict (some brokenReads) (.utc 1000000) candidate.key).eligible).map (·.key)) =
        [modestCandidate.key] := by decide +kernel
  have refused : pairRouter.refusedVerdicts (some brokenReads) (.utc 1000000) =
      [(brokenRecord.key, brokenVerdict)] := by decide +kernel
  obtain ⟨sets, given, _, _⟩ :=
    eligibility_separate_from_scoring pairRouter (some brokenReads) (.utc 1000000) rfl
  obtain ⟨ranked, explanation, ran⟩ := given pair_named .exact none none evenPreferences "request"
    even_finite (by decide)
  obtain ⟨members, _, same, excluded⟩ := sets _ _ _ _ _ _ _ _ ran
  cases same
  have keys := members.map (·.key)
  rw [remaining, List.map_map] at keys
  exact ⟨ranked, explanation, ran, List.perm_singleton.mp keys, excluded.trans refused⟩

end ModelRouter
end ModelPilot
