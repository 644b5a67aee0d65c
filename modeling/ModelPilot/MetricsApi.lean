import ModelPilot.GroupedLists
import ModelPilot.RecentLists
import ModelPilot.StoredTimes
import ModelPilot.SummaryReads

/-! The metrics over HTTP (`metrics/api.py`): the summary of a window, the metrics of each
pair, the newest decisions and the newest failures. Read at one moment, they are views of the
same attempts. -/
namespace ModelPilot.MetricsApi
open MetricsStore Timestamps GroupedLists

/-! ### Endpoints -/

/-- An `HTTPException`, a query parameter that was refused before the endpoint ran, or an
exception that nothing catches. -/
inductive Refusal where
  | http (statusCode : Nat) (detail : String)
  | invalidQuery
  | raised (error : PyError)
  deriving DecidableEq, Repr

def unavailable : Refusal := .http 503 "metrics data unavailable"

/-- The metrics store of the gateway, when it has one: what opening its database gives. -/
abbrev Store := Option (Except PyError Database)

/-- `_metrics_store`. -/
def metricsStore (store : Store) : Except Refusal (Except PyError Database) :=
  match store with
  | none => .error unavailable
  | some database => .ok database

/-- `_query`: whatever the callback raises, the data is unavailable. -/
def query (callback : Except PyError α) : Except Refusal α :=
  callback.mapError fun _ => unavailable

/-- `timedelta(hours=hours)`, in microseconds. -/
def hoursMicros (hours : Int) : Int := hours * 3600000000

/-- `until - timedelta(hours=hours)`. -/
def summaryStart (until_ hours : Int) : Except PyError Int :=
  if Datetime.minUtc ≤ until_ - hoursMicros hours then .ok (until_ - hoursMicros hours)
  else .error .overflow

/-- `GET /v1/metrics/summary`, at the reading `now`. The window is computed outside
`_query`. -/
def metricsSummary (float : Rounding) (average : List ℚ → ℚ) (store : Store) (now hours : Int) :
    Except Refusal (MetricsSummary float) :=
  if ¬ (1 ≤ hours ∧ hours ≤ 168) then .error .invalidQuery
  else do
    let opened ← metricsStore store
    let since ← (summaryStart now hours).mapError .raised
    query do
      let database ← opened
      getMetricsSummary float average (.utc since) (.utc now) database database database

/-- A snapshot passes the filters that were given. -/
def selects {float : Rounding} (provider model : Option String)
    (snapshot : ProviderMetricsSnapshot float) : Bool :=
  provider.all (snapshot.provider = ·) && model.all (snapshot.model = ·)

/-- `GET /v1/metrics/providers`, at the reading `now`. -/
def providerMetrics (float : Rounding) (store : Store) (now : Int)
    (provider model : Option String) : Except Refusal (List (ProviderMetricsSnapshot float)) := do
  let opened ← metricsStore store
  let snapshots ← query do
    let database ← opened
    listProviderMetrics float database.attempts now
  .ok (snapshots.filter (selects provider model))

/-- `GET /v1/metrics/routing-decisions`. -/
def routingDecisions (store : Store) (limit : Int) : Except Refusal (List RoutingDecision) :=
  if ¬ (1 ≤ limit ∧ limit ≤ 100) then .error .invalidQuery
  else do
    let opened ← metricsStore store
    query do
      let database ← opened
      listRecentRoutingDecisions database.decisions limit

/-- `GET /v1/metrics/failures`. -/
def recentFailures (store : Store) (limit : Int) : Except Refusal (List RecentFailure) :=
  if ¬ (1 ≤ limit ∧ limit ≤ 100) then .error .invalidQuery
  else do
    let opened ← metricsStore store
    query do
      let database ← opened
      listRecentFailures database.attempts limit

/-! ### The attempts of the longest window -/

section Window
variable {rows : List AttemptRow} {now : Int} {key : Key}

/-- The rows that finished in the last seven days. -/
def recent (rows : List AttemptRow) (now : Int) : List AttemptRow :=
  rows.filter fun row => now - metricsMaxAge ≤ instantOf row.finishedAt

/-- The recent rows of a pair. -/
def traffic (rows : List AttemptRow) (now : Int) (key : Key) : List AttemptRow :=
  (recent rows now).filter (·.key = key)

theorem late_iff (sound : Sound rows) (old : Datetime.InRange (now - metricsMaxAge))
    {row : AttemptRow} (member : row ∈ rows) :
    isoformat (now - metricsMaxAge) ≤ row.finishedAt ↔
      now - metricsMaxAge ≤ instantOf row.finishedAt :=
  sound.timed.lower ⟨old, rfl⟩ member

theorem candidateRows_perm (sound : Sound rows) (old : Datetime.InRange (now - metricsMaxAge)) :
    (candidateRows rows now key).Perm (traffic rows now key) := by
  have same : rows.filter (fun row => row.key = key ∧
      isoformat (now - metricsMaxAge) ≤ row.finishedAt) = traffic rows now key := by
    rw [traffic, recent, List.filter_filter]
    apply List.filter_congr
    intro row member
    simp only [late_iff sound old member, Bool.decide_and]
  rw [candidateRows, same]
  exact sortedBy_perm newestFirst _

theorem windowRows_length (sound : Sound rows) (old : Datetime.InRange (now - metricsMaxAge)) :
    (windowRows rows now key).length = min 100 (traffic rows now key).length := by
  change ((candidateRows rows now key).take 100).length = _
  rw [List.length_take, (candidateRows_perm sound old).length_eq]

/-- Up to a hundred rows, the window of a pair is all of its traffic. -/
theorem windowRows_whole (sound : Sound rows) (old : Datetime.InRange (now - metricsMaxAge))
    (few : (traffic rows now key).length ≤ 100) :
    (windowRows rows now key).Perm (traffic rows now key) := by
  have bounded : (candidateRows rows now key).length ≤ 100 := by
    rw [(candidateRows_perm sound old).length_eq]
    exact few
  have whole : windowRows rows now key = candidateRows rows now key :=
    List.take_of_length_le bounded
  rw [whole]
  exact candidateRows_perm sound old

/-- Whether a row is in the window of its pair. -/
theorem inWindow_iff (sound : Sound rows) (old : Datetime.InRange (now - metricsMaxAge)) :
    (∃ row ∈ rows, InWindow now key row) ↔ key ∈ (recent rows now).map (·.key) := by
  simp only [List.mem_map, recent, List.mem_filter, decide_eq_true_eq]
  constructor
  · rintro ⟨row, member, inside⟩
    obtain ⟨own, late⟩ := (selected_iff sound old member).mpr inside
    exact ⟨row, ⟨member, (late_iff sound old member).mp late⟩, own⟩
  · rintro ⟨row, ⟨member, late⟩, own⟩
    exact ⟨row, member, (selected_iff sound old member).mp ⟨own, (late_iff sound old member).mpr late⟩⟩

end Window

/-! ### The metrics of the pairs -/

section Pairs
variable {rows window : List AttemptRow} {attempts : List AttemptRecord} {now : Int}
  {snapshots : List (ProviderMetricsSnapshot .exact)}

theorem success_stored {row : AttemptRow} {attempt : AttemptRecord} (stored : Stored row attempt) :
    row.success = if attempt.success then 1 else 0 := by
  rw [stored.row]
  rfl

theorem success_sum (stored : List.Forall₂ Stored window attempts) :
    (attempts.countP (·.success) : Int) = (window.map (·.success)).sum := by
  induction stored with
  | nil => rfl
  | @cons row attempt _ _ first _ ih =>
    rw [List.countP_cons, List.map_cons, List.sum_cons, ← ih, success_stored first]
    cases attempt.success
    · simp
    · simp only [if_true]
      push_cast
      exact add_comm _ _

/-- A snapshot counts the newest hundred attempts of its pair. -/
theorem snapshot_counts (sound : Sound rows) (old : Datetime.InRange (now - metricsMaxAge))
    {snapshot : ProviderMetricsSnapshot .exact}
    (built : buildMetrics .exact rows now snapshot.key = .ok (some snapshot)) :
    snapshot.sampleCount = (min 100 (traffic rows now snapshot.key).length : Nat) ∧
      snapshot.sampleCount = snapshot.successCount + snapshot.failureCount ∧
      ((traffic rows now snapshot.key).length ≤ 100 → snapshot.successCount =
        ((traffic rows now snapshot.key).map (·.success)).sum) := by
  rcases buildMetrics_cases sound old snapshot.key with ⟨_, absent⟩ |
    ⟨_, _, other, attempts, present, stored, summary⟩ | ⟨_, _, error, raised⟩
  · rw [absent] at built
    cases built
  · have same : other = snapshot := Option.some.inj (Except.ok.inj (present.symm.trans built))
    subst same
    refine ⟨?_, ?_, fun few => ?_⟩
    · rw [summary.samples, ← stored.length_eq, windowRows_length sound old]
    · rw [summary.samples, summary.successes, summary.failures]
      exact_mod_cast countP_success attempts
    · rw [summary.successes, success_sum stored]
      exact ((windowRows_whole sound old few).map _).sum_eq
  · rw [raised] at built
    cases built

/-- The pairs of some snapshots are those with recent rows, each once. -/
structure Lists (rows : List AttemptRow) (now : Int)
    (snapshots : List (ProviderMetricsSnapshot .exact)) : Prop where
  once : (snapshots.map (·.key)).Nodup
  keys : ∀ key, key ∈ snapshots.map (·.key) ↔ key ∈ (recent rows now).map (·.key)
  built : ∀ snapshot ∈ snapshots,
    buildMetrics .exact rows now snapshot.key = .ok (some snapshot)

variable (lists : Lists rows now snapshots)
include lists

theorem Lists.covers : ∀ row ∈ recent rows now, row.key ∈ snapshots.map (·.key) :=
  fun _ member => (lists.keys _).mpr (List.mem_map_of_mem member)

theorem Lists.samples (sound : Sound rows) (old : Datetime.InRange (now - metricsMaxAge)) :
    (snapshots.map (·.sampleCount)).sum = (((snapshots.map (·.key)).map fun key =>
      min 100 (traffic rows now key).length).sum : Nat) := by
  have built := lists.built
  clear lists
  induction snapshots with
  | nil => rfl
  | cons snapshot rest ih =>
    obtain ⟨here, others⟩ := List.forall_mem_cons.mp built
    simp only [List.map_cons, List.sum_cons, Nat.cast_add]
    rw [ih others, (snapshot_counts sound old here).1]

theorem Lists.total : ((snapshots.map (·.key)).map fun key =>
    (traffic rows now key).length).sum = (recent rows now).length :=
  length_groups lists.once lists.covers

theorem Lists.successes (sound : Sound rows) (old : Datetime.InRange (now - metricsMaxAge))
    (few : ∀ key, (traffic rows now key).length ≤ 100) :
    (snapshots.map (·.successCount)).sum = ((recent rows now).map (·.success)).sum := by
  have groups : ((snapshots.map (·.key)).map fun key =>
      ((traffic rows now key).map (·.success)).sum).sum = ((recent rows now).map (·.success)).sum :=
    sum_groups (·.success) lists.once lists.covers
  rw [← groups, List.map_map]
  congr 1
  apply List.map_congr_left
  intro snapshot member
  exact (snapshot_counts sound old (lists.built snapshot member)).2.2 (few _)

theorem Lists.split (sound : Sound rows) (old : Datetime.InRange (now - metricsMaxAge)) :
    (snapshots.map (·.sampleCount)).sum =
      (snapshots.map (·.successCount)).sum + (snapshots.map (·.failureCount)).sum := by
  rw [← List.sum_map_add]
  congr 1
  apply List.map_congr_left
  intro snapshot member
  exact (snapshot_counts sound old (lists.built snapshot member)).2.1

/-- A column of the pairs has the same values in the snapshots and in the recent rows. -/
theorem Lists.column (column : Key → String) :
    ((recent rows now).map fun row => column row.key).dedup.length =
      (snapshots.map fun snapshot => column snapshot.key).dedup.length := by
  apply dedup_length_congr
  intro value
  have shown : value ∈ (snapshots.map (·.key)).map column ↔
      value ∈ ((recent rows now).map (·.key)).map column := by
    simp only [@List.mem_map _ _ _ column, lists.keys]
  rw [List.map_map, List.map_map] at shown
  exact shown.symm

end Pairs

/-! ### The summary -/

section Summary
variable {database : Database} {rows others : List AttemptRow} {now hours : Int}
  {average : List ℚ → ℚ} {summary : MetricsSummary .exact}

theorem query_ok_iff {callback : Except PyError α} {value : α} :
    query callback = .ok value ↔ callback = .ok value := by
  cases callback <;> simp [query, Except.mapError]

/-- What a summary shows: the rows between the start of its window and now. -/
theorem summary_shows
    (answered : metricsSummary .exact average (some (.ok database)) now hours = .ok summary) :
    (1 ≤ hours ∧ hours ≤ 168) ∧ Datetime.InRange (now - hoursMicros hours) ∧
      Datetime.InRange now ∧
      summary.toSummaryFields = summaryFields .exact average (.utc (now - hoursMicros hours))
        (.utc now) (attemptsBetween database.attempts (isoformat (now - hoursMicros hours))
          (isoformat now))
        (decisionsBetween database.decisions (isoformat (now - hoursMicros hours))
          (isoformat now)) summary.estimatedTotalCost := by
  unfold metricsSummary at answered
  split at answered
  · cases answered
  rename_i within
  obtain ⟨opened, held, answered⟩ := bind_ok_iff.mp answered
  cases held
  obtain ⟨since, started, answered⟩ := bind_ok_iff.mp answered
  have start : since = now - hoursMicros hours := by
    unfold summaryStart at started
    split at started
    · cases started
      rfl
    · cases started
  subst start
  obtain ⟨_, held, read⟩ := bind_ok_iff.mp (query_ok_iff.mp answered)
  cases held
  obtain ⟨low, high, lower, upper, _, _, fields⟩ := getMetricsSummary_ok_iff.mp read
  obtain ⟨since, same, insideLow, rfl⟩ := Timestamps.serializeDatetime_ok_iff.mp lower
  obtain ⟨until_, also, insideHigh, rfl⟩ := Timestamps.serializeDatetime_ok_iff.mp upper
  rw [Datetime.toUtc_utc] at same also
  cases same
  cases also
  exact ⟨not_not.mp within, insideLow, insideHigh, fields⟩

/-- The last week, when nothing finished later than now. -/
theorem attemptsBetween_week (sound : Sound rows) (inside : Datetime.InRange now)
    (old : Datetime.InRange (now - metricsMaxAge))
    (past : ∀ row ∈ rows, instantOf row.finishedAt ≤ now) :
    attemptsBetween rows (isoformat (now - metricsMaxAge)) (isoformat now) = recent rows now := by
  have lower : Holds (isoformat (now - metricsMaxAge)) (now - metricsMaxAge) := ⟨old, rfl⟩
  have upper : Holds (isoformat now) now := ⟨inside, rfl⟩
  refine (sound.timed.between lower upper).trans (List.filter_congr fun row member => ?_)
  simp only [past row member, and_true]

/-- A shorter window selects fewer rows, in the same order. -/
theorem between_sublist {ρ : Type} {column : ρ → String} {items : List ρ} {low start high : String}
    (later : low ≤ start) :
    (items.filter fun row => start ≤ column row ∧ column row ≤ high).Sublist
      (items.filter fun row => low ≤ column row ∧ column row ≤ high) := by
  apply List.monotone_filter_right
  intro row selected
  obtain ⟨above, below⟩ := of_decide_eq_true selected
  exact decide_eq_true ⟨later.trans above, below⟩

/-- A summary counts no more than one of a longer window. -/
structure Within (narrow wide : SummaryFields) : Prop where
  requests : narrow.requestCount ≤ wide.requestCount
  attempts : narrow.attemptCount ≤ wide.attemptCount
  successes : narrow.successCount ≤ wide.successCount
  failures : narrow.failureCount ≤ wide.failureCount
  providers : narrow.providersCount ≤ wide.providersCount
  models : narrow.modelsCount ≤ wide.modelsCount
  decisions : narrow.routingDecisionCount ≤ wide.routingDecisionCount

theorem failures_eq_sum (rows : List AttemptRow) :
    (rows.length : Int) - (rows.map (·.success)).sum = (rows.map fun row => 1 - row.success).sum := by
  induction rows with
  | nil => rfl
  | cons row rest ih =>
    simp only [List.length_cons, List.map_cons, List.sum_cons, ← ih]
    push_cast
    ring

theorem within_of_sublist {since until_ start : Datetime} {decisions fewer : List DecisionRow}
    {total part : Option ℚ} (flags : ∀ row ∈ others, row.success = 0 ∨ row.success = 1)
    (attempts : rows.Sublist others) (decided : fewer.Sublist decisions) :
    Within (summaryFields .exact average start until_ rows fewer part)
      (summaryFields .exact average since until_ others decisions total) where
  requests := by
    simpa [summaryFields] using dedup_length_le (attempts.map (·.requestId)).subset
  attempts := by simpa [summaryFields] using attempts.length_le
  successes := by
    apply (attempts.map (·.success)).sum_le_sum
    intro value member
    obtain ⟨row, inside, rfl⟩ := List.mem_map.mp member
    rcases flags row inside with failed | succeeded <;> omega
  failures := by
    change (rows.length : Int) - _ ≤ (others.length : Int) - _
    rw [failures_eq_sum, failures_eq_sum]
    apply (attempts.map fun row => 1 - row.success).sum_le_sum
    intro value member
    obtain ⟨row, inside, rfl⟩ := List.mem_map.mp member
    rcases flags row inside with failed | succeeded <;> omega
  providers := by
    simpa [summaryFields] using dedup_length_le (attempts.map (·.provider)).subset
  models := by
    simpa [summaryFields] using dedup_length_le (attempts.map (·.model)).subset
  decisions := by simpa [summaryFields] using decided.length_le

theorem flags_of_sound (sound : Sound rows) :
    ∀ row ∈ rows, row.success = 0 ∨ row.success = 1 := by
  intro row member
  obtain ⟨attempt, stored⟩ := sound.stored row member
  rw [success_stored stored]
  cases attempt.success
  · exact .inl rfl
  · exact .inr rfl

end Summary

/-! ### The newest failures -/

section Failures
variable {rows : List AttemptRow} {now limit : Int}

theorem failures_counted (flags : ∀ row ∈ rows, row.success = 0 ∨ row.success = 1) :
    (rows.length : Int) - (rows.map (·.success)).sum = rows.countP (·.success = 0) := by
  rw [failures_eq_sum]
  induction rows with
  | nil => rfl
  | cons row rest ih =>
    obtain ⟨here, others⟩ := List.forall_mem_cons.mp flags
    rw [List.map_cons, List.sum_cons, ih others, List.countP_cons]
    rcases here with failed | succeeded
    · simp only [failed, sub_zero, decide_true, if_true]
      push_cast
      exact add_comm _ _
    · simp [succeeded]

/-- Of the newest failures, as many are recent as there are, up to the limit. -/
theorem recent_failureRows (sound : Sound rows) :
    (failureRows rows limit).countP (fun row => now - metricsMaxAge ≤ instantOf row.finishedAt) =
      min limit.toNat ((recent rows now).countP (·.success = 0)) := by
  let newest (row : AttemptRow) : (Int ×ₗ Nat)ᵒᵈ :=
    OrderDual.toDual (toLex (instantOf row.finishedAt, row.id))
  have listed : failureRows rows limit =
      (sortedBy newest (rows.filter fun row => row.success = 0)).take limit.toNat :=
    sound.byTime.failures limit
  have first : (sortedBy newest (rows.filter fun row => row.success = 0)).Pairwise
      fun earlier later => decide (now - metricsMaxAge ≤ instantOf later.finishedAt) = true →
        decide (now - metricsMaxAge ≤ instantOf earlier.finishedAt) = true := by
    refine (sortedBy_pairwise newest _).imp fun {earlier later} before held => ?_
    have times : instantOf later.finishedAt ≤ instantOf earlier.finishedAt := by
      rcases Prod.Lex.toLex_le_toLex.mp (OrderDual.toDual_le_toDual.mp before) with less | same
      · exact less.le
      · exact same.1.le
    exact decide_eq_true ((of_decide_eq_true held).trans times)
  rw [listed, countP_take first, (sortedBy_perm newest _).countP_eq, recent, List.countP_filter,
    List.countP_filter]
  congr 2
  funext row
  rw [Bool.and_comm]

theorem countP_shown {window : List AttemptRow} {failures : List RecentFailure}
    (shown : List.Forall₂ (fun row failure => ∃ attempt, Stored row attempt ∧
      failure.toFailureFields = failureOf attempt) window failures) (since : Int) :
    failures.countP (since ≤ ·.finishedAt) = window.countP (since ≤ instantOf ·.finishedAt) := by
  induction shown with
  | nil => rfl
  | @cons row failure _ _ first _ ih =>
    obtain ⟨attempt, stored, fields⟩ := first
    have time : failure.finishedAt = instantOf row.finishedAt := by
      rw [stored.finishedHolds.instant]
      exact congrArg FailureFields.finishedAt fields
    rw [List.countP_cons, List.countP_cons, ih, time]

theorem recentFailures_counts {database : Database} (sound : Sound database.attempts)
    (low : 1 ≤ limit) (high : limit ≤ 100) :
    ∃ failures, recentFailures (some (.ok database)) limit = .ok failures ∧
      failures.countP (now - metricsMaxAge ≤ ·.finishedAt) =
        min limit.toNat ((recent database.attempts now).countP (·.success = 0)) := by
  have binds : BenchmarkStore.Binds limit := ⟨by omega, by omega⟩
  obtain ⟨failures, listed, shown⟩ := listRecentFailures_ok sound (by omega) binds
  refine ⟨failures, ?_, ?_⟩
  · unfold recentFailures
    rw [if_neg (not_not.mpr ⟨low, high⟩)]
    exact query_ok_iff.mpr listed
  · rw [countP_shown shown, recent_failureRows sound]

end Failures

/-! ### The views together -/

section Views
variable {database : Database} {rows : List AttemptRow} {now : Int}
  {average : List ℚ → ℚ} {snapshots : List (ProviderMetricsSnapshot .exact)}

/-- The metrics of the pairs and the summary of a week count the same attempts: a pair by its
newest hundred, so that only busier pairs are counted short. -/
structure Agree (rows : List AttemptRow) (now : Int)
    (snapshots : List (ProviderMetricsSnapshot .exact)) (summary : SummaryFields) : Prop where
  pairs : ∀ snapshot ∈ snapshots,
    snapshot.sampleCount = (min 100 (traffic rows now snapshot.key).length : Nat)
  total : (snapshots.map (·.sampleCount)).sum ≤ summary.attemptCount
  whole : (snapshots.map (·.sampleCount)).sum = summary.attemptCount ↔
    ∀ key, (traffic rows now key).length ≤ 100
  outcomes : (∀ key, (traffic rows now key).length ≤ 100) →
    (snapshots.map (·.successCount)).sum = summary.successCount ∧
    (snapshots.map (·.failureCount)).sum = summary.failureCount
  providers : summary.providersCount = (snapshots.map (·.provider)).dedup.length
  models : summary.modelsCount = (snapshots.map (·.model)).dedup.length

theorem agree_of_week (sound : Sound rows) (old : Datetime.InRange (now - metricsMaxAge))
    (lists : Lists rows now snapshots) {since until_ : Datetime}
    {decisions : List DecisionRow} {total : Option ℚ} :
    Agree rows now snapshots
      (summaryFields .exact average since until_ (recent rows now) decisions total) := by
  have samples := lists.samples sound old
  have sum := lists.total
  have capped : (snapshots.map (·.sampleCount)).sum = ((recent rows now).length : Int) ↔
      ∀ key, (traffic rows now key).length ≤ 100 := by
    rw [samples, ← sum, Nat.cast_inj, sum_capped_eq_iff]
    constructor
    · intro few key
      by_cases listed : key ∈ snapshots.map (·.key)
      · exact few key listed
      · have none : traffic rows now key = [] := by
          apply List.filter_eq_nil_iff.mpr
          intro row member own
          exact listed (of_decide_eq_true own ▸ lists.covers row member)
        rw [none]
        exact Nat.zero_le _
    · exact fun few key _ => few key
  refine ⟨fun snapshot member => (snapshot_counts sound old (lists.built snapshot member)).1,
    ?_, capped, fun few => ?_, ?_, ?_⟩
  · change _ ≤ ((recent rows now).length : Int)
    rw [samples, ← sum]
    exact_mod_cast sum_capped_le 100 _ _
  · have successes := lists.successes sound old few
    have split := lists.split sound old
    refine ⟨successes, ?_⟩
    change _ = ((recent rows now).length : Int) - ((recent rows now).map (·.success)).sum
    rw [← capped.mpr few, ← successes, split]
    ring
  · exact congrArg Nat.cast (lists.column Prod.fst)
  · exact congrArg Nat.cast (lists.column Prod.snd)

/-- What the endpoints show of a database at one moment. -/
structure Shows (average : List ℚ → ℚ) (database : Database) (now : Int)
    (snapshots : List (ProviderMetricsSnapshot .exact)) (summary : MetricsSummary .exact) :
    Prop where
  agree : Agree database.attempts now snapshots summary.toSummaryFields
  within : ∀ hours narrow,
    metricsSummary .exact average (some (.ok database)) now hours = .ok narrow →
      Within narrow.toSummaryFields summary.toSummaryFields
  failures : ∀ limit, 1 ≤ limit → limit ≤ 100 → ∃ failures,
    recentFailures (some (.ok database)) limit = .ok failures ∧
      (failures.countP (now - metricsMaxAge ≤ ·.finishedAt) : Int) =
        min limit summary.failureCount

theorem shows_of_week (sound : Sound database.attempts) (inside : Datetime.InRange now)
    (old : Datetime.InRange (now - metricsMaxAge))
    (past : ∀ row ∈ database.attempts, instantOf row.finishedAt ≤ now)
    (lists : Lists database.attempts now snapshots) {summary : MetricsSummary .exact}
    (answered : metricsSummary .exact average (some (.ok database)) now 168 = .ok summary) :
    Shows average database now snapshots summary := by
  obtain ⟨_, _, _, fields⟩ := summary_shows answered
  have week : hoursMicros 168 = metricsMaxAge := by decide
  have window := attemptsBetween_week sound inside old past
  rw [week, window] at fields
  refine ⟨?_, fun hours narrow narrowed => ?_, fun limit low high => ?_⟩
  · rw [fields]
    exact agree_of_week sound old lists
  · obtain ⟨⟨_, short⟩, start, _, narrowFields⟩ := summary_shows narrowed
    have later : isoformat (now - metricsMaxAge) ≤ isoformat (now - hoursMicros hours) := by
      apply (isoformat_le_iff old start).mpr
      rw [← week]
      unfold hoursMicros
      omega
    rw [fields, narrowFields]
    apply within_of_sublist
    · exact fun row member => flags_of_sound sound row (List.mem_of_mem_filter member)
    · rw [← window]
      exact between_sublist later
    · exact between_sublist later
  · obtain ⟨failures, listed, counted⟩ := recentFailures_counts sound low high
    refine ⟨failures, listed, ?_⟩
    have failed : summary.failureCount =
        ((recent database.attempts now).countP (·.success = 0) : Int) := by
      rw [fields]
      exact failures_counted fun row member =>
        flags_of_sound sound row (List.mem_of_mem_filter member)
    rw [counted, failed]
    omega

/-- No endpoint shows anything without a store that can be read. -/
structure Unavailable (float : Rounding) (average : List ℚ → ℚ) (store : Store) (now : Int) :
    Prop where
  providers : ∀ provider model,
    providerMetrics float store now provider model = .error unavailable
  decisions : ∀ limit, 1 ≤ limit → limit ≤ 100 →
    routingDecisions store limit = .error unavailable
  failures : ∀ limit, 1 ≤ limit → limit ≤ 100 → recentFailures store limit = .error unavailable
  summary : ∀ hours, 1 ≤ hours → hours ≤ 168 → Datetime.minUtc ≤ now - hoursMicros hours →
    metricsSummary float average store now hours = .error unavailable

theorem unavailable_of_unread (float : Rounding) (average : List ℚ → ℚ) {store : Store}
    (now : Int) (unread : ∀ database, store ≠ some (.ok database)) :
    Unavailable float average store now := by
  constructor
  · intro provider model
    match store with
    | none => rfl
    | some (.error error) => rfl
    | some (.ok database) => exact absurd rfl (unread database)
  · intro limit low high
    unfold routingDecisions
    rw [if_neg (not_not.mpr ⟨low, high⟩)]
    match store with
    | none => rfl
    | some (.error error) => rfl
    | some (.ok database) => exact absurd rfl (unread database)
  · intro limit low high
    unfold recentFailures
    rw [if_neg (not_not.mpr ⟨low, high⟩)]
    match store with
    | none => rfl
    | some (.error error) => rfl
    | some (.ok database) => exact absurd rfl (unread database)
  · intro hours low high started
    unfold metricsSummary
    rw [if_neg (not_not.mpr ⟨low, high⟩), summaryStart, if_pos started]
    match store with
    | none => rfl
    | some (.error error) => rfl
    | some (.ok database) => exact absurd rfl (unread database)

/-- The metrics of the pairs are answered from their list, or unavailable. -/
theorem providerMetrics_of_list {listed : Except PyError (List (ProviderMetricsSnapshot .exact))}
    (lists : listProviderMetrics .exact database.attempts now = listed)
    (provider model : Option String) :
    providerMetrics .exact (some (.ok database)) now provider model =
      (query listed).map (·.filter (selects provider model)) := by
  change (query (listProviderMetrics .exact database.attempts now)).bind _ = _
  rw [lists]
  cases listed <;> rfl

end Views

section WeekOfAttempts

/-- Four attempts of two models, one of them older than a week. -/
def weekDatabase : Database := { attempts := tableOf weekAttempts }

/-- Read a minute after the last attempt. -/
private theorem week_past :
    ∀ row ∈ weekDatabase.attempts, instantOf row.finishedAt ≤ 864060000000 := by decide +kernel

private theorem week_sums_inRange : ∀ row ∈ weekDatabase.attempts,
    SumsInRange (windowRows weekDatabase.attempts 864060000000 row.key) := by
  decide +kernel

private theorem week_answered :
    (metricsSummary .exact mean (some (.ok weekDatabase)) 864060000000 168).toOption.map
      (·.attemptCount) = some 3 := by
  decide +kernel

end WeekOfAttempts

end ModelPilot.MetricsApi
