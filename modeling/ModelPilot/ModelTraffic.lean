import ModelPilot.LedgerRuns
import ModelPilot.RankingIndependence

/-! What one model's traffic does to the ranking of the others: nothing. The metrics of a pair,
its score and its place among other pairs rest on the attempts recorded under them, and
requests that call other models can be served in any number and in any order between. -/
namespace ModelPilot.ModelTraffic
open GatewayService GatewayRequest MetricsStore SharedLogs LedgerRuns

section Rows
variable {rows others : List AttemptRow} {asOf : Int} {key : Key}

/-- Two rows that hold one attempt, whatever their identifiers. -/
def SameAttempt (row other : AttemptRow) : Prop :=
  ∃ attempt, Stored row attempt ∧ Stored other attempt

/-- Two tables that hold the same attempts of a pair, in the same order. -/
def SameTraffic (rows others : List AttemptRow) (key : Key) : Prop :=
  List.Forall₂ SameAttempt (rows.filter (·.key = key)) (others.filter (·.key = key))

theorem finishedAt_same (row other : AttemptRow) (same : SameAttempt row other) :
    row.finishedAt = other.finishedAt := by
  obtain ⟨attempt, stored, also⟩ := same
  rw [finishedAt_stored stored, finishedAt_stored also]

/-- The window of a pair holds the same attempts in both tables. -/
theorem windowRows_same (sound : Sound rows) (also : Sound others)
    (traffic : SameTraffic rows others key) :
    List.Forall₂ SameAttempt (windowRows rows asOf key) (windowRows others asOf key) := by
  let late (row : AttemptRow) : Bool :=
    Timestamps.isoformat (asOf - metricsMaxAge) ≤ row.finishedAt
  have window (table : List AttemptRow) : windowRows table asOf key =
      (sortedBy newestFirst ((table.filter (·.key = key)).filter late)).take 100 := by
    rw [windowRows, recentRows, List.filter_filter]
    congr 2
    apply List.filter_congr
    intro row _
    simp only [late, Bool.decide_and, Bool.and_comm]
  have lateSame : List.Forall₂ SameAttempt ((rows.filter (·.key = key)).filter late)
      ((others.filter (·.key = key)).filter late) := by
    refine List.rel_filter (fun row other same => ?_) traffic
    simp only [late, finishedAt_same row other same]
  rw [window, window]
  apply List.forall₂_take
  exact sorted_reads finishedAt_same ((sound.ids.filter _).filter _) ((also.ids.filter _).filter _)
    lateSame

theorem mapM_same (alike : List.Forall₂ SameAttempt rows others) :
    rows.mapM attemptFromRow = others.mapM attemptFromRow := by
  induction alike with
  | nil => rfl
  | cons first _ ih =>
    obtain ⟨attempt, stored, also⟩ := first
    rw [List.mapM_cons, List.mapM_cons, attemptFromRow_stored stored, attemptFromRow_stored also, ih]

/-- The metrics of a pair rest on its own traffic. -/
theorem buildMetrics_same (sound : Sound rows) (also : Sound others)
    (inside : Datetime.InRange (asOf - metricsMaxAge)) (traffic : SameTraffic rows others key) :
    buildMetrics .exact rows asOf key = buildMetrics .exact others asOf key := by
  rw [buildMetrics_window inside, buildMetrics_window inside,
    mapM_same (windowRows_same sound also traffic)]

/-- The snapshot that a ranking looks up is the one built for the pair, when the metrics of
all pairs can be listed. -/
theorem snapshotOf_listed (sound : Sound rows) (inside : Datetime.InRange (asOf - metricsMaxAge))
    (ranged : ∀ key, SumsInRange (windowRows rows asOf key)) (key : Key) :
    ModelRouter.snapshotOf (some (listProviderMetrics .exact rows asOf)) key =
      (buildMetrics .exact rows asOf key).toOption.join := by
  obtain ⟨snapshots, listed, sorted, keys, built⟩ := listProviderMetrics_ok sound inside ranged
  have once : ((snapshots.map fun snapshot => (snapshot.key, snapshot)).map Prod.fst).Nodup := by
    rw [List.map_map]
    exact sorted.imp fun before same => before.ne (congrArg toLex same)
  have found (snapshot : ProviderMetricsSnapshot .exact) :
      (Dict.ofList (snapshots.map fun snapshot => (snapshot.key, snapshot))).get? key =
        some snapshot ↔ snapshot ∈ snapshots ∧ snapshot.key = key := by
    rw [Dict.get?_eq_some_iff, Dict.entries_ofList once, List.mem_map]
    constructor
    · rintro ⟨held, member, same⟩
      cases same
      exact ⟨member, rfl⟩
    · rintro ⟨member, rfl⟩
      exact ⟨snapshot, member, rfl⟩
  rw [listed]
  change (Dict.ofList (snapshots.map fun snapshot => (snapshot.key, snapshot))).get? key = _
  by_cases inList : key ∈ snapshots.map (·.key)
  · obtain ⟨held, member, named⟩ := List.mem_map.mp inList
    have own := built held member
    rw [named] at own
    rw [own]
    exact (found held).mpr ⟨member, named⟩
  · have none_ := (windowRows_eq_nil sound inside key).mpr
      fun present => inList ((keys key).mpr present)
    have absent : buildMetrics .exact rows asOf key = .ok none := by
      rcases buildMetrics_cases sound inside key with ⟨_, absent⟩ | ⟨some_, _⟩ | ⟨some_, _⟩
      · exact absent
      · exact absurd none_ some_
      · exact absurd none_ some_
    rw [absent]
    apply Option.eq_none_iff_forall_ne_some.mpr
    intro snapshot held
    obtain ⟨member, rfl⟩ := (found snapshot).mp held
    exact inList (List.mem_map_of_mem member)

/-- No pair has a snapshot when the metrics of one of them raise. -/
theorem snapshotOf_unlisted (sound : Sound rows)
    (inside : Datetime.InRange (asOf - metricsMaxAge))
    (beyond : ¬ ∀ key, SumsInRange (windowRows rows asOf key)) (key : Key) :
    ModelRouter.snapshotOf (some (listProviderMetrics .exact rows asOf)) key = none := by
  obtain ⟨error, raised⟩ := listProviderMetrics_error sound inside beyond
  rw [raised]
  rfl

end Rows

section Ranking
open ModelRouter
variable {decimal : Rounding} {router : ModelRouter} {reads others : RankingReads .exact}
  {requestedModel : String} {preferences : RoutingPreferences .exact}
  {ranked alsoRanked : List RankedCandidate} {keep : Key → Bool}

/-- What two rankings read of the kept pairs is the same. -/
structure Agree (reads others : RankingReads .exact) (keep : Key → Bool) : Prop where
  health : ∀ key, keep key = true → verdictOf others key = verdictOf reads key
  metrics : ∀ key, keep key = true →
    snapshotOf others.metrics key = snapshotOf reads.metrics key
  quality : ∀ key, keep key = true →
    qualityOf .exact others.qualitySource key = qualityOf .exact reads.qualitySource key

theorem scoredOf_agree (agree : Agree reads others keep) {item : RankedCandidate}
    (kept : keep item.candidate.key = true) :
    item ∈ router.scoredOf decimal reads requestedModel preferences.normalized ↔
      item ∈ router.scoredOf decimal others requestedModel preferences.normalized := by
  have score : scoreOf decimal others requestedModel preferences.normalized item.candidate =
      scoreOf decimal reads requestedModel preferences.normalized item.candidate := by
    unfold scoreOf
    rw [agree.metrics _ kept, agree.quality _ kept]
  have admitted : Eligible others requestedModel item.candidate.key ↔
      Eligible reads requestedModel item.candidate.key := by
    unfold Eligible
    rw [agree.health _ kept]
  simp only [mem_scoredOf, eligible, List.mem_filter, decide_eq_true_eq, score, admitted]

/-- Rankings that read the same of the kept pairs rank them alike: the same ones, in the same
order, with the same scores and signals. -/
theorem ranks_agree (agree : Agree reads others keep)
    (ranks : router.Ranks decimal reads requestedModel preferences ranked)
    (also : router.Ranks decimal others requestedModel preferences alsoRanked) :
    (ranked.filter (keep ·.candidate.key)).map (·.unplaced) =
      (alsoRanked.filter (keep ·.candidate.key)).map (·.unplaced) := by
  obtain ⟨_, _, rfl⟩ := ranks_iff.mp ranks
  obtain ⟨_, _, rfl⟩ := ranks_iff.mp also
  have sorted : (sortedBy rankingKey (router.scoredOf decimal reads requestedModel
        preferences.normalized)).filter (keep ·.candidate.key) =
      (sortedBy rankingKey (router.scoredOf decimal others requestedModel
        preferences.normalized)).filter (keep ·.candidate.key) := by
    apply sorted_ext (scoredOf_sorted.sublist List.filter_sublist)
      (scoredOf_sorted.sublist List.filter_sublist)
    intro item
    rw [List.mem_filter, List.mem_filter, mem_sortedBy, mem_sortedBy]
    exact and_congr_left fun kept => scoredOf_agree agree kept
  rw [unplaced_ordered, unplaced_ordered, sorted]
  apply List.map_congr_left
  intro item member
  have kept := (List.mem_filter.mp member).2
  unfold shown shownHealth
  rw [agree.health _ kept]

end Ranking

section Serving
variable {float decimal : Rounding} {ι : Type} [DecidableEq ι] {service : GatewayService}
  {requests : ι → GatewayRequest float} {initial ledger : Ledger}
  {history : List (LedgerEntry ι)} {key : Key}

/-- The attempts of a pair that the ledger took. -/
def taken (history : List (LedgerEntry ι)) (key : Key) : List AttemptRecord :=
  ((history.filter tookAttempt).filterMap fun entry => attemptOf entry.call).filter
    fun attempt => (attempt.provider, attempt.model) = key

theorem filled_run (filled : Filled initial.attempts)
    (serves : Serves service decimal requests initial history ledger) :
    Filled ledger.attempts := by
  induction serves with
  | start => exact filled
  | @call history ledger after call raised request fault _ _ performed _ ih =>
    cases call with
    | attempt attempt =>
      cases performed
      exact .recorded fault attempt ih
    | decision decision =>
      cases performed
      exact ih
    | log item =>
      cases performed
      exact ih

/-- The rows of a pair are those it had, and one for each of its attempts that was taken. -/
theorem rows_of_pair (serves : Serves service decimal requests initial history ledger)
    (key : Key) :
    ∃ added, ledger.attempts.filter (·.key = key) =
        initial.attempts.filter (·.key = key) ++ added ∧
      List.Forall₂ Stored added (taken history key) := by
  obtain ⟨added, whole, made⟩ := (grows serves).1.rows
  have stored : List.Forall₂ Stored added
      ((history.filter tookAttempt).filterMap fun entry => attemptOf entry.call) := by
    refine forall₂_contents (fun entry row adds => ?_) made
    obtain ⟨attempt, called, held⟩ := adds
    exact ⟨attempt, by rw [called]; rfl, held⟩
  refine ⟨added.filter (·.key = key), by rw [whole, List.filter_append], ?_⟩
  refine List.rel_filter (fun row attempt held => ?_) stored
  have pair : row.key = (attempt.provider, attempt.model) := by
    rw [held.row]
    rfl
  simp only [pair]

theorem sameAttempt_of_stored {rows others : List AttemptRow} {attempts : List AttemptRecord}
    (stored : List.Forall₂ Stored rows attempts) (also : List.Forall₂ Stored others attempts) :
    List.Forall₂ SameAttempt rows others := by
  induction stored generalizing others with
  | nil =>
    cases also
    exact .nil
  | cons first _ ih =>
    cases also with
    | cons second rest => exact .cons ⟨_, first, second⟩ (ih rest)

end Serving

section Answered
open ModelRouter

/-- What a ranking ten days after the epoch reads of a ledger. -/
def readings (ledger : Ledger) : RankingReads .exact where
  now := .utc 864000000000
  metrics := some (listProviderMetrics .exact ledger.attempts 864000000000)

theorem readings_ranked (ledger : Ledger) :
    ∃ ranked, pairRouter.Ranks .exact (readings ledger) "auto" evenPreferences ranked :=
  ranks_exist .exact pairRouter (readings ledger) "auto" even_finite pair_named fun _ => rfl

end Answered
end ModelPilot.ModelTraffic
