import ModelPilot.RankingProofs

/-! Ranking candidate by candidate: what a score rests on is read under the
candidate's own pair, and the ranked list is a function of the scored
candidates alone. -/
namespace ModelPilot.ModelRouter

variable {float decimal : Rounding} {router : ModelRouter} {reads : RankingReads float}
  {requestedModel : String} {preferences : RoutingPreferences float} {weights : Weights}
  {ranked scored : List RankedCandidate} {evidence : Dict Key HealthEligibility}

section Lookups

/-- The last snapshot a metrics store lists for a pair; a store that raises has
none. -/
def snapshotOf (metrics : Option (Except PyError (List (ProviderMetricsSnapshot float))))
    (key : Key) : Option (ProviderMetricsSnapshot float) :=
  match metrics with
  | some (.ok snapshots) =>
    (Dict.ofList (snapshots.map fun snapshot => (snapshot.key, snapshot))).get? key
  | _ => none

/-- The benchmark quality of a pair; a lookup that raises has none. -/
def qualityOf (float : Rounding) (source : Option QualitySource) (key : Key) :
    Option (QualitySnapshot float) :=
  source.bind fun source => (readQualitySnapshot float source key).toOption.join

theorem get?_readSnapshots
    (metrics : Option (Except PyError (List (ProviderMetricsSnapshot float))))
    {candidates : List ModelCandidate} {key : Key} (eligible : key ∈ candidates.map (·.key)) :
    (readSnapshots metrics candidates).get? key = snapshotOf metrics key := by
  rcases metrics with _ | _ | snapshots
  · rfl
  · rfl
  · simp only [readSnapshots, snapshotOf, Dict.get?_ofList, ← List.map_reverse,
      ← List.filter_reverse]
    have filtered := DictEntries.lookup_filter
      (fun entry => decide (entry.1 ∈ candidates.map (·.key))) key
      (snapshots.reverse.map fun snapshot => (snapshot.key, snapshot))
      (fun _ => decide_eq_true eligible)
    rw [← filtered, List.filter_map]
    rfl

/-- A loop that looks every candidate up and keeps what it finds. -/
private theorem get?_foldl_found {α : Type} {key : Key} (found : Option α)
    {step : Dict Key α → ModelCandidate → Dict Key α}
    (own : ∀ dict candidate, candidate.key = key →
      (step dict candidate).get? key = found.orElse fun _ => dict.get? key)
    (others : ∀ dict candidate, candidate.key ≠ key →
      (step dict candidate).get? key = dict.get? key)
    (candidates : List ModelCandidate) (dict : Dict Key α) :
    (candidates.foldl step dict).get? key =
      if key ∈ candidates.map (·.key) then found.orElse fun _ => dict.get? key
      else dict.get? key := by
  induction candidates generalizing dict with
  | nil => rfl
  | cons candidate rest ih =>
    rw [List.foldl_cons, ih, List.map_cons]
    by_cases same : candidate.key = key
    · have inside : key ∈ candidate.key :: rest.map (·.key) := by simp [same]
      rw [own dict candidate same, if_pos inside]
      cases found <;> simp
    · rw [others dict candidate same]
      simp only [List.mem_cons, Ne.symm same, false_or]

theorem get?_readQualitySnapshots (source : Option QualitySource)
    {candidates : List ModelCandidate} {key : Key} (eligible : key ∈ candidates.map (·.key)) :
    (readQualitySnapshots source candidates).get? key =
      qualityOf float source key := by
  cases source with
  | none => rfl
  | some source =>
    unfold readQualitySnapshots
    dsimp only
    rw [get?_foldl_found (qualityOf float (some source) key), if_pos eligible]
    · cases qualityOf float (some source) key <;> rfl
    · rintro dict candidate rfl
      have own : qualityOf float (some source) candidate.key =
        (readQualitySnapshot float source candidate.key).toOption.join := rfl
      split
      · rename_i read
        simp [own, read, Except.toOption]
      · rename_i missing
        cases read : readQualitySnapshot float source candidate.key with
        | error error => simp [own, read, Except.toOption]
        | ok found =>
          cases found with
          | none => simp [own, read, Except.toOption]
          | some snapshot => exact absurd read (missing snapshot)
    · intro dict candidate different
      split
      · exact Dict.get?_set_ne _ _ different
      · rfl

end Lookups

/-- The score of a candidate: explicit routing has no measurements, automatic
routing those of the candidate's own pair. -/
def scoreOf (decimal : Rounding) (reads : RankingReads float) (requestedModel : String)
    (weights : Weights) (candidate : ModelCandidate) : Except PyError RankedCandidate :=
  if requestedModel = "auto" then
    RoutingScores.scoreCandidate float decimal candidate weights
      (snapshotOf reads.metrics candidate.key) (qualityOf float reads.qualitySource candidate.key)
  else RoutingScores.scoreCandidate float decimal candidate weights none none

/-- Automatic routing asks for an eligible verdict. -/
def Eligible (reads : RankingReads float) (requestedModel : String) (key : Key) : Prop :=
  requestedModel = "auto" → (verdictOf reads key).eligible = true

instance (reads : RankingReads float) (requestedModel : String) (key : Key) :
    Decidable (Eligible reads requestedModel key) :=
  inferInstanceAs (Decidable (_ → _))

/-- The available candidates that may be ranked. -/
def eligible (router : ModelRouter) (reads : RankingReads float) (requestedModel : String) :
    List ModelCandidate :=
  (router.available requestedModel).filter fun candidate =>
    Eligible reads requestedModel candidate.key

theorem eligible_explicit (router : ModelRouter) (reads : RankingReads float)
    (explicit : requestedModel ≠ "auto") :
    router.eligible reads requestedModel = router.available requestedModel :=
  List.filter_eq_self.mpr fun _ _ => decide_eq_true fun auto => absurd auto explicit

/-- The health a ranked candidate shows: its verdict, in automatic routing. -/
def shownHealth (reads : RankingReads float) (requestedModel : String) (key : Key) :
    Option HealthEligibility :=
  if requestedModel = "auto" then some (verdictOf reads key) else none

/-- Scored candidates in order, each with the health it shows. -/
def ordered (reads : RankingReads float) (requestedModel : String)
    (scored : List RankedCandidate) : List RankedCandidate :=
  (sortedBy rankingKey scored).mapIdx fun position item => { item with
    signal := item.signal.place (shownHealth reads requestedModel item.candidate.key) position }

section Ranking

private theorem place_eq_ordered (shown : ∀ item ∈ scored,
    evidence.get? item.candidate.key = shownHealth reads requestedModel item.candidate.key) :
    place evidence scored = ordered reads requestedModel scored := by
  rw [place, ordered, List.mapIdx_eq_zipIdx_map, List.mapIdx_eq_zipIdx_map]
  apply List.map_congr_left
  rintro ⟨item, position⟩ member
  dsimp only
  rw [shown item (mem_sortedBy.mp (List.fst_mem_of_mem_zipIdx member))]

/-- The evidence of a ranking holds the verdict of each available pair. -/
theorem evidence_of_collected
    (collected : (if requestedModel = "auto" then evaluateHealth reads.healthStore
      ((router.available requestedModel).map (·.key)) reads.now else .ok .empty) = .ok evidence)
    {key : Key} (inside : key ∈ (router.available requestedModel).map (·.key)) :
    evidence.get? key = shownHealth reads requestedModel key := by
  unfold shownHealth
  by_cases auto : requestedModel = "auto"
  · rw [if_pos auto] at collected ⊢
    rw [evaluated_verdicts collected, if_pos inside]
  · rw [if_neg auto] at collected ⊢
    cases collected
    rfl

private theorem eligible_of_collected (router : ModelRouter) (reads : RankingReads float)
    (collected : (if requestedModel = "auto" then evaluateHealth reads.healthStore
      ((router.available requestedModel).map (·.key)) reads.now else .ok .empty) = .ok evidence) :
    (if requestedModel = "auto" then (router.available requestedModel).filter fun item =>
      (evidence.get? item.key).any (·.eligible) else router.available requestedModel) =
      router.eligible reads requestedModel := by
  by_cases auto : requestedModel = "auto"
  · rw [if_pos auto]
    refine List.filter_congr fun item member => ?_
    rw [evidence_of_collected collected (List.mem_map_of_mem member), shownHealth, if_pos auto]
    simp [Eligible, auto]
  · rw [if_neg auto, eligible_explicit router reads auto]

/-- Looking measurements up among those of all eligible candidates changes
nothing for one of them. -/
private theorem score_looked_up (decimal : Rounding) (reads : RankingReads float)
    (requestedModel : String) (weights : Weights) {candidates : List ModelCandidate}
    {candidate : ModelCandidate} (member : candidate ∈ candidates) :
    RoutingScores.scoreCandidate float decimal candidate weights
      ((if requestedModel = "auto" then readSnapshots reads.metrics candidates
        else .empty).get? candidate.key)
      ((if requestedModel = "auto" then readQualitySnapshots reads.qualitySource candidates
        else .empty).get? candidate.key) =
      scoreOf decimal reads requestedModel weights candidate := by
  unfold scoreOf
  by_cases auto : requestedModel = "auto"
  · simp only [if_pos auto, get?_readSnapshots _ (List.mem_map_of_mem member),
      get?_readQualitySnapshots _ (List.mem_map_of_mem member)]
  · simp only [if_neg auto, Dict.get?_empty]

theorem scoreOf_ok {candidate : ModelCandidate} {item : RankedCandidate}
    (stepped : scoreOf decimal reads requestedModel weights candidate = .ok item) :
    item.candidate = candidate ∧ Scores item := by
  unfold scoreOf at stepped
  split at stepped <;> exact scoreCandidate_ok stepped

private theorem available_of_scored
    (stepped : (router.eligible reads requestedModel).mapM
      (scoreOf decimal reads requestedModel weights) = .ok scored)
    {item : RankedCandidate} (member : item ∈ scored) :
    item.candidate.key ∈ (router.available requestedModel).map (·.key) := by
  obtain ⟨candidate, inside, ran⟩ := mem_of_mapM stepped member
  rw [(scoreOf_ok ran).1]
  exact List.mem_map_of_mem (List.mem_filter.mp inside).1

/-- `_rank` as collecting health and scoring what is eligible. -/
private theorem rank_steps : router.rank decimal reads requestedModel preferences = (do
    let evidence ←
      (if requestedModel = "auto" then evaluateHealth reads.healthStore
        ((router.available requestedModel).map (·.key)) reads.now else .ok .empty)
    let scored ← (router.eligible reads requestedModel).mapM
      (scoreOf decimal reads requestedModel preferences.normalized)
    .ok (place evidence scored, evidence)) := by
  have looked := mapM_congr fun candidate
      (member : candidate ∈ router.eligible reads requestedModel) =>
    score_looked_up decimal reads requestedModel preferences.normalized member
  by_cases auto : requestedModel = "auto"
  · simp only [if_pos auto] at looked
    cases collected : evaluateHealth reads.healthStore
      ((router.available requestedModel).map (·.key)) reads.now with
    | error error =>
      simp only [rank, if_pos auto, collected]
      rfl
    | ok evidence =>
      have same := eligible_of_collected router reads ((if_pos auto).trans collected)
      simp only [if_pos auto] at same
      simp only [rank, if_pos auto, collected, bind, Except.bind, same, looked]
  · simp only [if_neg auto] at looked
    have same := eligible_of_collected router reads (if_neg auto)
    simp only [if_neg auto] at same
    simp only [rank, if_neg auto, bind, Except.bind, same, looked]

/-- A ranking succeeds when health can be collected and each eligible candidate
can be scored; it orders the scored candidates. -/
theorem rank_ok_iff :
    router.rank decimal reads requestedModel preferences = .ok (ranked, evidence) ↔
    (if requestedModel = "auto" then evaluateHealth reads.healthStore
      ((router.available requestedModel).map (·.key)) reads.now else .ok .empty) = .ok evidence ∧
    ∃ scored, (router.eligible reads requestedModel).mapM
        (scoreOf decimal reads requestedModel preferences.normalized) = .ok scored ∧
      ranked = ordered reads requestedModel scored := by
  rw [rank_steps]
  constructor
  · intro ran
    obtain ⟨verdicts, collected, ran⟩ := bind_ok_iff.mp ran
    obtain ⟨scored, stepped, ran⟩ := bind_ok_iff.mp ran
    cases ran
    refine ⟨collected, scored, stepped, place_eq_ordered fun item member => ?_⟩
    exact evidence_of_collected collected (available_of_scored stepped member)
  · rintro ⟨collected, scored, stepped, rfl⟩
    refine bind_ok_iff.mpr ⟨evidence, collected, bind_ok_iff.mpr ⟨scored, stepped, ?_⟩⟩
    rw [place_eq_ordered fun item member =>
      evidence_of_collected collected (available_of_scored stepped member)]

/-- `rank` returns this list. -/
def Ranks (decimal : Rounding) (router : ModelRouter) (reads : RankingReads float)
    (requestedModel : String) (preferences : RoutingPreferences float)
    (ranked : List RankedCandidate) : Prop :=
  ∃ evidence, router.rank decimal reads requestedModel preferences = .ok (ranked, evidence)

/-- The eligible candidates that can be scored, with their scores. -/
def scoredOf (decimal : Rounding) (router : ModelRouter) (reads : RankingReads float)
    (requestedModel : String) (weights : Weights) : List RankedCandidate :=
  (router.eligible reads requestedModel).filterMap fun candidate =>
    (scoreOf decimal reads requestedModel weights candidate).toOption

private theorem collected_iff (candidates : List Key) :
    (∃ evidence, (if requestedModel = "auto" then
      evaluateHealth reads.healthStore candidates reads.now else .ok .empty) = .ok evidence) ↔
      (requestedModel = "auto" → reads.now.toUtc.isSome = true) := by
  by_cases auto : requestedModel = "auto"
  · simp only [auto, true_implies]
    cases aware : reads.now.toUtc with
    | none => simp [evaluateHealth_naive aware]
    | some at_ =>
      obtain ⟨evidence, evaluated, _⟩ := evaluateHealth_aware reads.healthStore candidates aware
      simp [evaluated]
  · simp [auto]

/-- A ranking is determined by the scores of the eligible candidates. -/
theorem ranks_iff : router.Ranks decimal reads requestedModel preferences ranked ↔
    (requestedModel = "auto" → reads.now.toUtc.isSome = true) ∧
    (∀ candidate ∈ router.eligible reads requestedModel, ∃ item,
      scoreOf decimal reads requestedModel preferences.normalized candidate = .ok item) ∧
    ranked = ordered reads requestedModel
      (router.scoredOf decimal reads requestedModel preferences.normalized) := by
  unfold Ranks
  simp only [rank_ok_iff, mapM_ok_iff]
  constructor
  · rintro ⟨evidence, collected, _, ⟨each, rfl⟩, rfl⟩
    exact ⟨(collected_iff _).mp ⟨evidence, collected⟩, each, rfl⟩
  · rintro ⟨aware, each, rfl⟩
    obtain ⟨evidence, collected⟩ := (collected_iff _).mpr aware
    exact ⟨evidence, collected, _, ⟨each, rfl⟩, rfl⟩

theorem mem_scoredOf {item : RankedCandidate} :
    item ∈ router.scoredOf decimal reads requestedModel weights ↔
      item.candidate ∈ router.eligible reads requestedModel ∧
        scoreOf decimal reads requestedModel weights item.candidate = .ok item := by
  rw [scoredOf, List.mem_filterMap]
  constructor
  · rintro ⟨candidate, inside, stepped⟩
    have stepped := toOption_eq_some_iff.mp stepped
    obtain ⟨rfl, _⟩ := scoreOf_ok stepped
    exact ⟨inside, stepped⟩
  · rintro ⟨inside, stepped⟩
    exact ⟨item.candidate, inside, toOption_eq_some_iff.mpr stepped⟩

theorem eligible_nodup : ((router.eligible reads requestedModel).map (·.key)).Nodup :=
  available_nodup.sublist (List.filter_sublist.map _)

/-- Scored candidates of one pair are one candidate. -/
theorem scoredOf_inj {item other : RankedCandidate}
    (member : item ∈ router.scoredOf decimal reads requestedModel weights)
    (inside : other ∈ router.scoredOf decimal reads requestedModel weights)
    (same : item.candidate.key = other.candidate.key) : item = other := by
  obtain ⟨eligible, scored⟩ := mem_scoredOf.mp member
  obtain ⟨otherEligible, otherScored⟩ := mem_scoredOf.mp inside
  have one := List.inj_on_of_nodup_map eligible_nodup eligible otherEligible same
  rw [one, otherScored] at scored
  exact (Except.ok.inj scored).symm

theorem ordered_candidates (reads : RankingReads float) (requestedModel : String)
    (scored : List RankedCandidate) :
    (ordered reads requestedModel scored).map (·.candidate) =
      (sortedBy rankingKey scored).map (·.candidate) := by
  rw [ordered, List.mapIdx_eq_zipIdx_map, List.map_map]
  conv_rhs => rw [← List.zipIdx_map_fst 0 (sortedBy rankingKey scored), List.map_map]
  rfl

theorem mem_ordered {item : RankedCandidate} (member : item ∈ ordered reads requestedModel scored) :
    ∃ other ∈ scored, ∃ position, item = { other with
      signal := other.signal.place
        (shownHealth reads requestedModel other.candidate.key) position } := by
  rw [ordered, List.mem_mapIdx] at member
  obtain ⟨position, bound, rfl⟩ := member
  exact ⟨_, mem_sortedBy.mp (List.getElem_mem bound), position, rfl⟩

/-- The ranked candidates are the eligible ones. -/
theorem ranks_candidates (ranks : router.Ranks decimal reads requestedModel preferences ranked) :
    (ranked.map (·.candidate)).Perm (router.eligible reads requestedModel) := by
  obtain ⟨_, each, rfl⟩ := ranks_iff.mp ranks
  have candidates : (router.scoredOf decimal reads requestedModel preferences.normalized).map
      (·.candidate) = (router.eligible reads requestedModel).map id :=
    map_of_mapM (fun _ _ stepped => (scoreOf_ok stepped).1) (mapM_ok_iff.mpr ⟨each, rfl⟩)
  rw [List.map_id] at candidates
  rw [ordered_candidates, ← candidates]
  exact (sortedBy_perm rankingKey _).map _

theorem rankingKey_key {item other : RankedCandidate} (same : rankingKey item = rankingKey other) :
    item.candidate.key = other.candidate.key := by
  simp only [rankingKey, EmbeddingLike.apply_eq_iff_eq, Prod.mk.injEq] at same
  exact Prod.ext same.2.1 same.2.2

/-- No two scored candidates tie. -/
theorem scoredOf_sorted :
    (sortedBy rankingKey (router.scoredOf decimal reads requestedModel weights)).Pairwise
      (rankingKey · < rankingKey ·) := by
  have once : (router.scoredOf decimal reads requestedModel weights).Nodup := by
    refine (eligible_nodup.of_map _).filterMap fun candidate other item found again => ?_
    obtain ⟨rfl, _⟩ := scoreOf_ok (toOption_eq_some_iff.mp found)
    exact (scoreOf_ok (toOption_eq_some_iff.mp again)).1
  refine sortedBy_strict (once.map_on fun item member other inside same => ?_)
  exact scoredOf_inj member inside (rankingKey_key same)

end Ranking

end ModelPilot.ModelRouter
