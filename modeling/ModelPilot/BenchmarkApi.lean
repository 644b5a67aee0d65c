import ModelPilot.BenchmarkExecution
import ModelPilot.BenchmarkPipeline

/-! The read side of the benchmarks over HTTP (`benchmarks/api.py`), on the store and the
resolver the application was wired with (`configure_benchmarks` of `main.py`). The listing, the
detail of a run and the quality of a target are three views of one list of saved runs. -/
namespace ModelPilot.BenchmarkApi
open BenchmarkStore BenchmarkPipeline QualityAggregation QualityReference

/-! ### Answers -/

/-- An `HTTPException` with its code, or a query parameter that was refused before the
endpoint ran. -/
inductive Refusal where
  | http (statusCode : Nat) (code : String)
  | invalidQuery
  deriving DecidableEq, Repr

def dataUnavailable : Refusal := .http 503 "benchmark_data_unavailable"
def runNotFound : Refusal := .http 404 "benchmark_run_not_found"
def invalidTarget : Refusal := .http 422 "invalid_benchmark_target"
def suiteNotConfigured : Refusal := .http 503 "quality_suite_not_configured"
def noQualityEvidence : Refusal := .http 404 "no_quality_evidence"

structure RunSummary extends TargetFields where
  runId : String
  suiteId : String
  suiteVersion : String
  suiteFingerprint : String
  status : RunStatus
  startedAt : Datetime
  finishedAt : Datetime
  totalCases : Int
  completedCases : Int
  executionFailedCases : Int
  terminatedEarly : Bool
  deriving DecidableEq

/-- `AwareDatetime`. -/
def isAware (value : Datetime) : Bool := value.toUtc.isSome

def RunSummary.check (summary : RunSummary) : Except PyError Unit := do
  require (isAware summary.startedAt) "started_at"
  require (isAware summary.finishedAt) "finished_at"
  require (0 ≤ summary.totalCases) "total_cases"
  require (0 ≤ summary.completedCases) "completed_cases"
  require (0 ≤ summary.executionFailedCases) "execution_failed_cases"

structure IndexedCaseResult extends BenchmarkCaseResult where
  caseIndex : Int
  deriving DecidableEq

def IndexedCaseResult.check (result : IndexedCaseResult) : Except PyError Unit := do
  result.toBenchmarkCaseResult.check
  require (0 ≤ result.caseIndex) "case_index"

structure RunDetail extends RunSummary where
  config : BenchmarkRunConfig
  caseResults : List IndexedCaseResult
  deriving DecidableEq

/-- The summary fields of `run.model_dump()`. -/
def summaryOf (run : BenchmarkRun) : RunSummary :=
  let dump := run.modelDump
  { toTargetFields := dump.toTargetFields
    runId := dump.runId
    suiteId := dump.suiteId
    suiteVersion := dump.suiteVersion
    suiteFingerprint := dump.suiteFingerprint
    status := dump.status
    startedAt := dump.startedAt
    finishedAt := dump.finishedAt
    totalCases := dump.totalCases
    completedCases := dump.completedCases
    executionFailedCases := dump.executionFailedCases
    terminatedEarly := dump.terminatedEarly }

/-- `_summary`. -/
def summary (run : BenchmarkRun) : Except PyError RunSummary := do
  (summaryOf run).check
  .ok (summaryOf run)

/-- `IndexedCaseResult(**case.model_dump(), case_index=index)`. -/
def indexed (entry : BenchmarkCaseResult × Nat) : Except PyError IndexedCaseResult := do
  let result : IndexedCaseResult := { toBenchmarkCaseResult := entry.1, caseIndex := entry.2 }
  result.check
  .ok result

/-- The detail that `run_detail` builds of a run. -/
def detail (run : BenchmarkRun) : Except PyError RunDetail := do
  let shown ← summary run
  let caseResults ← run.caseResults.zipIdx.mapM indexed
  let built : RunDetail := { toRunSummary := shown, config := run.config, caseResults }
  built.toRunSummary.check
  .ok built

/-- `_query`: whatever the callback raises, the data is unavailable. -/
def query (callback : Except PyError α) : Except Refusal α :=
  callback.mapError fun _ => dataUnavailable

/-! ### Wiring -/

variable {platform : Platform} {σ : Type}

/-- A resolver over a store that is named, not held; `clock` is what it will read. -/
structure SourcedResolver (platform : Platform) (σ : Type) where
  suite : BenchmarkSuite platform.texts
  store : σ
  clock : Datetime

/-- What the application answers benchmark requests from. -/
structure AppState (platform : Platform) (σ : Type) where
  benchmarkQuality : Option (SourcedResolver platform σ)
  benchmarkStore : Option σ

/-- `BenchmarkQualityResolver(suite, store, clock=clock)` validates its suite again. -/
def newResolver (suite : BenchmarkSuite platform.texts) (store : σ) (clock : Datetime) :
    Except PyError (SourcedResolver platform σ) := do
  let suite ← BenchmarkSuite.modelValidate platform.texts suite.toSuiteFields
  .ok { suite, store, clock }

/-- The first of the injected store, the resolver's and, when no gateway was injected, a new
one over the metrics database. -/
def chosenStore (source : Option (SourcedResolver platform σ)) (gatewayGiven : Bool)
    (benchmarkStore : Option σ) (created : Except PyError σ) : Except PyError (Option σ) :=
  match benchmarkStore, source with
  | some store, _ => .ok (some store)
  | none, some resolver => .ok (some resolver.store)
  | none, none => if gatewayGiven then .ok none else created.map some

/-- `configure_benchmarks`; `source` is the gateway's quality source when that is a resolver
over stored runs. -/
def configureBenchmarks [DecidableEq σ] (source : Option (SourcedResolver platform σ))
    (gatewayGiven : Bool) (benchmarkStore : Option σ) (created : Except PyError σ) :
    Except PyError (AppState platform σ) := do
  let store ← chosenStore source gatewayGiven benchmarkStore created
  match source, store with
  | some resolver, some store =>
    if store ≠ resolver.store then do
      let resolver ← newResolver resolver.suite store resolver.clock
      .ok { benchmarkQuality := some resolver, benchmarkStore := some store }
    else .ok { benchmarkQuality := some resolver, benchmarkStore := some store }
  | source, store => .ok { benchmarkQuality := source, benchmarkStore := store }

/-! ### Endpoints -/

variable (contents : σ → Except PyError Tables) (app : AppState platform σ)

/-- `_store`. -/
def requestStore : Except Refusal σ :=
  match app.benchmarkStore with
  | none => .error dataUnavailable
  | some store => .ok store

/-- `GET /v1/benchmarks/runs`; `contents` is what opening a store gives. -/
def listRuns (limit : Int) (filters : Filters) : Except Refusal (List RunSummary) :=
  if ¬ (1 ≤ limit ∧ limit ≤ 100) then .error .invalidQuery
  else do
    let store ← requestStore app
    query do
      let tables ← contents store
      let runs ← BenchmarkStore.listRuns tables limit filters
      runs.mapM summary

/-- `GET /v1/benchmarks/runs/{run_id}`. -/
def runDetail (runId : String) : Except Refusal RunDetail := do
  let store ← requestStore app
  let run ← query do
    let tables ← contents store
    getRun tables runId
  match run with
  | none => .error runNotFound
  | some run => query (detail run)

/-- `GET /v1/benchmarks/quality`. -/
def quality (provider model : String) : Except Refusal (QualitySnapshot platform.float) :=
  match BenchmarkTarget.modelValidate { provider, model } with
  | .error _ => .error invalidTarget
  | .ok target =>
    match app.benchmarkQuality with
    | none => .error suiteNotConfigured
    | some resolver => do
      let snapshot ← query do
        let tables ← contents resolver.store
        (BenchmarkQualityResolver.mk resolver.suite).getQualitySnapshot tables resolver.clock
          target.provider target.model
      match snapshot with
      | none => .error noQualityEvidence
      | some snapshot => .ok snapshot

/-! ### One run over HTTP -/

section Run
variable {run : BenchmarkRun}

@[simp] theorem isAware_utc (at_ : Int) : isAware (.utc at_) = true := by simp [isAware]

theorem summary_check (run : BenchmarkRun) : (summaryOf run).check = .ok () := by
  have total := run.wellFormed.totalCases
  have completed := run.wellFormed.completed
  have failed := run.wellFormed.failed
  have bound := run.completedResults_le
  have someCompleted : 0 ≤ run.completedCases := by omega
  have someFailed : 0 ≤ run.executionFailedCases := by omega
  simp only [RunSummary.check, then_ok_iff, require_ok_iff]
  exact ⟨isAware_utc _, isAware_utc _, total.le, someCompleted, someFailed⟩

theorem summary_ok (run : BenchmarkRun) : summary run = .ok (summaryOf run) :=
  then_ok_iff.mpr ⟨summary_check run, rfl⟩

/-- The results of a run with their positions. -/
def indexedOf (run : BenchmarkRun) : List IndexedCaseResult :=
  run.caseResults.zipIdx.map fun entry =>
    { toBenchmarkCaseResult := entry.1, caseIndex := entry.2 }

def detailOf (run : BenchmarkRun) : RunDetail where
  toRunSummary := summaryOf run
  config := run.config
  caseResults := indexedOf run

/-- A step that succeeds on every item maps the list. -/
theorem mapM_total {step : α → Except PyError β} {change : α → β} {items : List α}
    (each : ∀ item ∈ items, step item = .ok (change item)) :
    items.mapM step = .ok (items.map change) := by
  refine mapM_ok_iff.mpr ⟨fun item member => ⟨_, each item member⟩, ?_⟩
  rw [← List.filterMap_eq_map]
  apply List.filterMap_congr
  intro item member
  rw [each item member]
  rfl

theorem detail_ok (run : BenchmarkRun) : detail run = .ok (detailOf run) := by
  have results : run.caseResults.zipIdx.mapM indexed = .ok (indexedOf run) := by
    apply mapM_total
    intro entry member
    have valid := run.wellFormed.results entry.1 (List.fst_mem_of_mem_zipIdx member)
    refine then_ok_iff.mpr ⟨then_ok_iff.mpr ⟨valid, require_ok_iff.mpr ?_⟩, rfl⟩
    exact Int.natCast_nonneg entry.2
  exact bind_ok_iff.mpr ⟨_, summary_ok run, bind_ok_iff.mpr ⟨_, results,
    then_ok_iff.mpr ⟨summary_check run, rfl⟩⟩⟩

/-- The rows of a detail are numbered from zero, and its totals are those of its rows. -/
structure Consistent (shown : RunDetail) : Prop where
  numbered : shown.caseResults.map (·.caseIndex) =
    (List.range shown.caseResults.length).map fun index : Nat => (index : Int)
  completed : shown.completedCases =
    shown.caseResults.countP (·.executionStatus = .completed)
  failed : shown.executionFailedCases =
    shown.caseResults.countP (·.executionStatus = .providerFailed)
  early : shown.terminatedEarly = true ↔ (shown.caseResults.length : Int) < shown.totalCases
  status : shown.status = .completed ↔ shown.executionFailedCases = 0

theorem results_of_detail (run : BenchmarkRun) :
    (detailOf run).caseResults.map (·.toBenchmarkCaseResult) = run.caseResults := by
  simp [detailOf, indexedOf, Function.comp_def, List.zipIdx_map_fst]

theorem detail_consistent (run : BenchmarkRun) : Consistent (detailOf run) := by
  have valid := run.wellFormed
  have length : (detailOf run).caseResults.length = run.caseResults.length := by
    rw [← results_of_detail run, List.length_map]
  have counted (status : ExecutionStatus) :
      (detailOf run).caseResults.countP (·.executionStatus = status) =
        run.caseResults.countP (·.executionStatus = status) := by
    rw [← results_of_detail run, List.countP_map]
    rfl
  have split : run.caseResults.length = run.completedResults +
      run.caseResults.countP (·.executionStatus = .providerFailed) := by
    rw [RunFields.completedResults, List.length_eq_countP_add_countP
      (fun result : BenchmarkCaseResult => decide (result.executionStatus = .completed))]
    congr 1
    apply List.countP_congr
    intro result _
    cases result.executionStatus <;> simp
  have failed : run.executionFailedCases =
      run.caseResults.countP (·.executionStatus = .providerFailed) := by
    have held := valid.failed
    omega
  refine ⟨?_, ?_, ?_, ?_, ?_⟩
  · have positions : (detailOf run).caseResults.map (·.caseIndex) =
        (run.caseResults.zipIdx.map Prod.snd).map fun index : Nat => (index : Int) := by
      rw [detailOf, indexedOf, List.map_map, List.map_map]
      rfl
    rw [positions, length, List.zipIdx_map_snd, List.range_eq_range']
  · rw [counted]
    exact valid.completed
  · rw [counted]
    exact failed
  · rw [length]
    have early : (detailOf run).terminatedEarly = _ := valid.early
    rw [early]
    exact decide_eq_true_iff
  · have status : (detailOf run).status = _ := valid.status
    have failures : (detailOf run).executionFailedCases = _ := failed
    rw [status, failures]
    split_ifs with whole
    · have noneFailed : run.caseResults.countP (·.executionStatus = .providerFailed) = 0 := by
        omega
      rw [noneFailed]
      simp
    · have someFailed : run.caseResults.countP (·.executionStatus = .providerFailed) ≠ 0 := by
        omega
      simp only [false_iff]
      exact_mod_cast someFailed

end Run

/-! ### The application that was wired -/

section Wired
variable {app : AppState platform σ} {source : Option (SourcedResolver platform σ)}
  {gatewayGiven : Bool} {benchmarkStore : Option σ} {created : Except PyError σ}

/-- However the application is put together, quality is read from the store that the runs
are listed from, for the suite the gateway was given. -/
structure Wired (source : Option (SourcedResolver platform σ)) (app : AppState platform σ) :
    Prop where
  sameStore : ∀ resolver, app.benchmarkQuality = some resolver →
    app.benchmarkStore = some resolver.store
  sameSuite : app.benchmarkQuality.map (·.suite) = source.map (·.suite)
  sameClock : app.benchmarkQuality.map (·.clock) = source.map (·.clock)

theorem chosenStore_some {resolver : SourcedResolver platform σ} {store : Option σ}
    (chosen : chosenStore (some resolver) gatewayGiven benchmarkStore created = .ok store) :
    store.isSome := by
  cases benchmarkStore with
  | none =>
    cases chosen
    rfl
  | some injected =>
    cases chosen
    rfl

theorem configured_wired [DecidableEq σ]
    (configured : configureBenchmarks source gatewayGiven benchmarkStore created = .ok app) :
    Wired source app := by
  obtain ⟨store, chosen, configured⟩ := bind_ok_iff.mp configured
  cases source with
  | none =>
    cases configured
    refine ⟨?_, rfl, rfl⟩
    rintro _ ⟨⟩
  | some resolver =>
    obtain ⟨store, rfl⟩ := Option.isSome_iff_exists.mp (chosenStore_some chosen)
    dsimp only at configured
    split_ifs at configured with moved
    · obtain ⟨renewed, built, configured⟩ := bind_ok_iff.mp configured
      obtain ⟨suite, validated, built⟩ := bind_ok_iff.mp built
      rw [BenchmarkSuite.modelValidate_self] at validated
      cases validated
      cases built
      cases configured
      refine ⟨?_, rfl, rfl⟩
      rintro _ ⟨⟩
      rfl
    · cases configured
      refine ⟨?_, rfl, rfl⟩
      rintro _ ⟨⟩
      rw [not_not.mp moved]

end Wired

/-! ### The three views -/

section Views
variable {contents : σ → Except PyError Tables} {app : AppState platform σ} {store : σ}
  {calls : List SaveCall}

/-- The saved runs that filters select, the latest started first. -/
def newestFirst (filters : Filters) (saved : List BenchmarkRun) : List BenchmarkRun :=
  (sortedBy (fun run => toLex (run.startedAt, run.runId)) (saved.filter fun run =>
    filters.select run.provider run.model run.suiteId run.suiteVersion)).reverse

theorem query_ok {value : α} : query (.ok value) = .ok value := rfl

theorem query_error (error : PyError) : query (.error error : Except PyError α) =
    .error dataUnavailable := rfl

theorem query_ok_iff {callback : Except PyError α} {value : α} :
    query callback = .ok value ↔ callback = .ok value := by
  cases callback with
  | ok held => exact Iff.of_eq (by rw [query_ok]; simp)
  | error error => simp [query_error]

theorem listRuns_ok (held : app.benchmarkStore = some store)
    (opened : contents store = .ok (saveAll calls).tables) (filters : Filters)
    (low : 1 ≤ limit) (high : limit ≤ 100) :
    listRuns contents app limit filters =
      .ok (((newestFirst filters (saveAll calls).saved).take limit.toNat).map summaryOf) := by
  have sound := saveAll_sound calls
  have listed := listRuns_encode sound.distinct filters low high
  rw [← sound.tables] at listed
  unfold listRuns requestStore
  rw [if_neg (not_not.mpr ⟨low, high⟩), held]
  apply query_ok_iff.mpr
  refine bind_ok_iff.mpr ⟨_, opened, bind_ok_iff.mpr ⟨_, listed, ?_⟩⟩
  apply mapM_total
  intro run _
  exact summary_ok run

theorem runDetail_eq (held : app.benchmarkStore = some store)
    (opened : contents store = .ok (saveAll calls).tables) (runId : String) :
    runDetail contents app runId =
      match (saveAll calls).saved.find? (·.runId = runId) with
      | none => .error runNotFound
      | some run => .ok (detailOf run) := by
  have sound := saveAll_sound calls
  have found := getRun_encode sound.distinct runId
  rw [← sound.tables] at found
  have read : query (do
      let tables ← contents store
      getRun tables runId) = .ok ((saveAll calls).saved.find? (·.runId = runId)) :=
    query_ok_iff.mpr (bind_ok_iff.mpr ⟨_, opened, found⟩)
  unfold runDetail requestStore
  rw [held]
  change (do
    let run ← query (do
      let tables ← contents store
      getRun tables runId)
    match run with
    | none => .error runNotFound
    | some run => query (detail run)) = _
  rw [read]
  cases (saveAll calls).saved.find? (·.runId = runId) with
  | none => rfl
  | some run => exact query_ok_iff.mpr (detail_ok run)

theorem runDetail_saved (held : app.benchmarkStore = some store)
    (opened : contents store = .ok (saveAll calls).tables) {run : BenchmarkRun}
    (saved : run ∈ (saveAll calls).saved) :
    runDetail contents app run.runId = .ok (detailOf run) := by
  rw [runDetail_eq held opened]
  cases found : (saveAll calls).saved.find? (·.runId = run.runId) with
  | none => simpa using List.find?_eq_none.mp found run saved
  | some other =>
    have same : other.runId = run.runId := by simpa using List.find?_some found
    rw [List.inj_on_of_nodup_map (saveAll_sound calls).distinct (List.mem_of_find?_eq_some found)
      saved same]

theorem runDetail_unknown (held : app.benchmarkStore = some store)
    (opened : contents store = .ok (saveAll calls).tables)
    (unknown : runId ∉ (saveAll calls).saved.map (·.runId)) :
    runDetail contents app runId = .error runNotFound := by
  rw [runDetail_eq held opened]
  cases found : (saveAll calls).saved.find? (·.runId = runId) with
  | none => rfl
  | some run =>
    have named : run.runId = runId := by simpa using List.find?_some found
    exact absurd (List.mem_map.mpr ⟨run, List.mem_of_find?_eq_some found, named⟩) unknown

/-- The resolver over the store that was read. -/
def SourcedResolver.reader (resolver : SourcedResolver platform σ) :
    BenchmarkQualityResolver platform := ⟨resolver.suite⟩

theorem quality_eq {resolver : SourcedResolver platform σ}
    (configured : app.benchmarkQuality = some resolver)
    (opened : contents resolver.store = .ok (saveAll calls).tables) (target : BenchmarkTarget) :
    quality contents app target.provider target.model =
      match answer resolver.reader target resolver.clock calls with
      | .error _ => .error dataUnavailable
      | .ok none => .error noQualityEvidence
      | .ok (some snapshot) => .ok snapshot := by
  have validated : BenchmarkTarget.modelValidate
      { provider := target.provider, model := target.model } = .ok target :=
    target.modelValidate_self
  have read : query (do
      let tables ← contents resolver.store
      resolver.reader.getQualitySnapshot tables resolver.clock target.provider target.model) =
      query (answer resolver.reader target resolver.clock calls) := by
    rw [opened]
    rfl
  unfold quality
  rw [validated, configured]
  change (do
    let snapshot ← query (do
      let tables ← contents resolver.store
      resolver.reader.getQualitySnapshot tables resolver.clock target.provider target.model)
    match snapshot with
    | none => .error noQualityEvidence
    | some snapshot => .ok snapshot) = _
  rw [read]
  cases answer resolver.reader target resolver.clock calls with
  | error error => rfl
  | ok snapshot =>
    cases snapshot with
    | none => rfl
    | some snapshot => rfl

/-- The scope of the runs a snapshot counts. -/
def snapshotScope {float : Rounding} (snapshot : QualitySnapshot float) : Scope :=
  ⟨snapshot.provider, snapshot.model, snapshot.suiteId, snapshot.suiteVersion,
    snapshot.suiteFingerprint⟩

/-- A snapshot is about its target, and the runs it names are saved runs of the target and
the suite; the latest of all such runs is among them. -/
structure Traced {float : Rounding} (snapshot : QualitySnapshot float)
    (saved : List BenchmarkRun) : Prop where
  sources : ∀ runId ∈ snapshot.sourceRunIds,
    ∃ run ∈ saved, run.runId = runId ∧ scopeOf run = snapshotScope snapshot
  latest : ∃ run ∈ saved, snapshot.latestRunId = some run.runId ∧
    run.runId ∈ snapshot.sourceRunIds ∧ scopeOf run = snapshotScope snapshot ∧
    ∀ other ∈ saved, scopeOf other = snapshotScope snapshot → rank other ≤ rank run

theorem suite_ext {left right : BenchmarkSuite platform.texts}
    (same : left.toSuiteFields = right.toSuiteFields) : left = right := by
  cases left
  cases right
  cases same
  rfl

theorem latest_is_source {float : Rounding} (snapshot : QualitySnapshot float) {runId : String}
    (latest : snapshot.latestRunId = some runId) : runId ∈ snapshot.sourceRunIds := by
  have valid := snapshot.valid
  simp only [SnapshotFields.check, then_ok_iff, SnapshotFields.consistentProvenance] at valid
  obtain ⟨_, _, _, _, _, _, _, _, _, _, _, _, _, _, _, _, consistent, _⟩ := valid
  unfold SnapshotFields.consistentLatest at consistent
  split_ifs at consistent
  · obtain ⟨⟨inside, _⟩, _⟩ := (then_ok_iff.trans (and_congr_left' require_ok_iff)).mp consistent
    simpa [latest] using inside
  · obtain ⟨absent, _⟩ := require_ok_iff.mp consistent
    rw [latest] at absent
    cases absent

theorem answer_traced {resolver : BenchmarkQualityResolver platform} {target : BenchmarkTarget}
    {clock : Datetime} {snapshot : QualitySnapshot platform.float}
    (answered : answer resolver target clock calls = .ok (some snapshot)) :
    snapshotScope snapshot = resolver.scope target.provider target.model ∧
      Traced snapshot (saveAll calls).saved := by
  have sound := saveAll_sound calls
  rw [answer, sound.tables, answer_eq sound.distinct] at answered
  split_ifs at answered with nothing
  · cases answered
  obtain ⟨_, aggregated, same⟩ := map_ok_iff.mp answered
  cases same
  obtain ⟨history, value⟩ := aggregate_value aggregated
  obtain ⟨suite, target', suiteFields, targetFields, _, fields⟩ := value.value
  have history_eq := validated_unique value.validated
  cases suite_ext suiteFields
  have scope : snapshotScope snapshot = resolver.scope target.provider target.model := by
    have read {β : Type} (field : SnapshotFields Int → β) := congrArg field fields
    have provider : snapshot.provider = target.provider :=
      (read (·.provider)).trans (congrArg TargetFields.provider targetFields)
    have model : snapshot.model = target.model :=
      (read (·.model)).trans (congrArg TargetFields.model targetFields)
    simp only [snapshotScope, BenchmarkQualityResolver.scope, provider, model, Scope.mk.injEq,
      true_and]
    exact ⟨read (·.suiteId), read (·.suiteVersion), read (·.suiteFingerprint)⟩
  have member {run : BenchmarkRun} :
      run ∈ history ↔ run ∈ (saveAll calls).saved ∧ scopeOf run = snapshotScope snapshot := by
    rw [history_eq, mem_matching, scope]
  refine ⟨scope, ?_, ?_⟩
  · intro runId source
    rw [fields, mem_sources] at source
    obtain ⟨_, _, run, latest, named⟩ := source
    obtain ⟨saved, own⟩ := member.mp (latestRun_mem latest).1
    exact ⟨run, saved, named, own⟩
  · cases newest : greatest rank history with
    | none =>
      rw [greatest_eq_none] at newest
      exact absurd (history_eq.symm.trans newest) nothing
    | some run =>
      obtain ⟨saved, own⟩ := member.mp (greatest_mem newest)
      have latest : snapshot.latestRunId = some run.runId := by
        rw [fields]
        change (greatest rank history).map (·.runId) = _
        rw [newest]
        rfl
      refine ⟨run, saved, latest, latest_is_source snapshot latest, own, ?_⟩
      intro other otherSaved otherOwn
      exact le_greatest newest (member.mpr ⟨otherSaved, otherOwn⟩)

theorem quality_target {provider model : String} {snapshot : QualitySnapshot platform.float}
    (answered : quality contents app provider model = .ok snapshot) :
    ∃ (target : BenchmarkTarget) (resolver : SourcedResolver platform σ),
      target.provider = provider ∧ target.model = model ∧
        app.benchmarkQuality = some resolver := by
  unfold quality at answered
  split at answered
  · cases answered
  · rename_i target validated
    have fields := BenchmarkTarget.modelValidate_fields validated
    split at answered
    · cases answered
    · rename_i resolver configured
      exact ⟨target, resolver, congrArg TargetFields.provider fields,
        congrArg TargetFields.model fields, configured⟩

/-- What the application shows after calls of `save_run`: the listing is the saved runs that
the filters select, the latest first; the detail of a run is found by its identifier from
its saving on; and the quality of a target is measured from saved runs that the other two
views show. -/
structure Shows (contents : σ → Except PyError Tables) (app : AppState platform σ)
    (calls : List SaveCall) : Prop where
  lists : ∀ limit filters, 1 ≤ limit → limit ≤ 100 → listRuns contents app limit filters =
    .ok (((newestFirst filters (saveAll calls).saved).take limit.toNat).map summaryOf)
  finds : ∀ earlier, earlier <+: calls → ∀ run ∈ (saveAll earlier).saved,
    runDetail contents app run.runId = .ok (detailOf run) ∧ Consistent (detailOf run)
  unknown : ∀ runId, runId ∉ (saveAll calls).saved.map (·.runId) →
    runDetail contents app runId = .error runNotFound
  measures : ∀ provider model snapshot, quality contents app provider model = .ok snapshot →
    snapshot.provider = provider ∧ snapshot.model = model ∧ Traced snapshot (saveAll calls).saved
  unmeasured : ∀ (target : BenchmarkTarget) resolver, app.benchmarkQuality = some resolver →
    (quality contents app target.provider target.model = .error noQualityEvidence ↔
      ∀ run ∈ (saveAll calls).saved,
        scopeOf run ≠ resolver.reader.scope target.provider target.model)

theorem saved_grows {earlier : List SaveCall} (beginning : earlier <+: calls) :
    (saveAll earlier).saved <+: (saveAll calls).saved := by
  obtain ⟨later, rfl⟩ := beginning
  rw [saveAll, saveAll, List.foldl_append]
  exact (foldl_save_sound (saveAll_sound earlier) later).2

theorem answer_none_iff {resolver : BenchmarkQualityResolver platform}
    {target : BenchmarkTarget} {clock : Datetime} :
    answer resolver target clock calls = .ok none ↔
      ∀ run ∈ (saveAll calls).saved,
        scopeOf run ≠ resolver.scope target.provider target.model := by
  have sound := saveAll_sound calls
  have empty : matching resolver target (saveAll calls).saved = [] ↔
      ∀ run ∈ (saveAll calls).saved,
        scopeOf run ≠ resolver.scope target.provider target.model := by
    simp only [List.eq_nil_iff_forall_not_mem, mem_matching, not_and, ne_eq]
  rw [answer, sound.tables, answer_eq sound.distinct, ← empty]
  split_ifs with nothing
  · simp [nothing]
  · simp only [nothing, iff_false]
    intro answered
    obtain ⟨_, _, absent⟩ := map_ok_iff.mp answered
    cases absent

theorem shows_saved {source : Option (SourcedResolver platform σ)} (wired : Wired source app)
    (held : app.benchmarkStore = some store)
    (opened : contents store = .ok (saveAll calls).tables) : Shows contents app calls where
  lists _ filters low high := listRuns_ok held opened filters low high
  finds earlier beginning run saved :=
    ⟨runDetail_saved held opened ((saved_grows beginning).subset saved), detail_consistent run⟩
  unknown _ absent := runDetail_unknown held opened absent
  measures provider model snapshot answered := by
    obtain ⟨target, resolver, rfl, rfl, configured⟩ := quality_target answered
    have same : store = resolver.store :=
      Option.some.inj (held.symm.trans (wired.sameStore resolver configured))
    rw [quality_eq configured (same ▸ opened)] at answered
    cases value : answer resolver.reader target resolver.clock calls with
    | error error =>
      rw [value] at answered
      cases answered
    | ok measured =>
      rw [value] at answered
      cases measured with
      | none => cases answered
      | some measured =>
        cases answered
        obtain ⟨scope, traced⟩ := answer_traced value
        exact ⟨congrArg Scope.provider scope, congrArg Scope.model scope, traced⟩
  unmeasured target resolver configured := by
    have same : store = resolver.store :=
      Option.some.inj (held.symm.trans (wired.sameStore resolver configured))
    have nothing := @answer_none_iff _ calls resolver.reader target resolver.clock
    rw [quality_eq configured (same ▸ opened), ← nothing]
    cases answer resolver.reader target resolver.clock calls with
    | error error => simp [dataUnavailable, noQualityEvidence]
    | ok measured => cases measured <;> simp

/-- No endpoint finds or misses anything while the store cannot be read. -/
structure Unavailable (contents : σ → Except PyError Tables) (app : AppState platform σ) :
    Prop where
  lists : ∀ limit filters, 1 ≤ limit → limit ≤ 100 →
    listRuns contents app limit filters = .error dataUnavailable
  finds : ∀ runId, runDetail contents app runId = .error dataUnavailable
  measures : ∀ provider model,
    quality contents app provider model = .error invalidTarget ∨
    quality contents app provider model = .error suiteNotConfigured ∨
    quality contents app provider model = .error dataUnavailable

theorem unavailable_of_unread {source : Option (SourcedResolver platform σ)}
    (wired : Wired source app)
    (unread : ∀ store, app.benchmarkStore = some store →
      ∃ error, contents store = .error error) : Unavailable contents app where
  lists limit filters low high := by
    unfold listRuns requestStore
    rw [if_neg (not_not.mpr ⟨low, high⟩)]
    cases held : app.benchmarkStore with
    | none => rfl
    | some store =>
      obtain ⟨error, refused⟩ := unread store held
      change query (contents store >>= _) = _
      rw [refused]
      rfl
  finds runId := by
    unfold runDetail requestStore
    cases held : app.benchmarkStore with
    | none => rfl
    | some store =>
      obtain ⟨error, refused⟩ := unread store held
      change query (contents store >>= _) >>= _ = _
      rw [refused]
      rfl
  measures provider model := by
    unfold quality
    cases BenchmarkTarget.modelValidate { provider, model } with
    | error error => exact .inl rfl
    | ok target =>
      cases configured : app.benchmarkQuality with
      | none => exact .inr (.inl rfl)
      | some resolver =>
        obtain ⟨error, refused⟩ := unread _ (wired.sameStore resolver configured)
        refine .inr (.inr ?_)
        change query (contents resolver.store >>= _) >>= _ = _
        rw [refused]
        rfl

/-- However the application was wired, after any calls of `save_run` the listing, the details
and the quality answers are views of the same saved runs; and a store that cannot be read,
or is missing, makes every one of them unavailable. -/
theorem benchmark_views_agree [DecidableEq σ] {source : Option (SourcedResolver platform σ)}
    {gatewayGiven : Bool} {benchmarkStore : Option σ} {created : Except PyError σ}
    (contents : σ → Except PyError Tables)
    (configured : configureBenchmarks source gatewayGiven benchmarkStore created = .ok app) :
    Wired source app ∧
    (∀ store calls, app.benchmarkStore = some store →
      contents store = .ok (saveAll calls).tables → Shows contents app calls) ∧
    ((∀ store, app.benchmarkStore = some store → ∃ error, contents store = .error error) →
      Unavailable contents app) := by
  have wired := configured_wired configured
  exact ⟨wired, fun _ _ held opened => shows_saved wired held opened,
    fun unread => unavailable_of_unread wired unread⟩

end Views

section MovedStore
open BenchmarkRunner

private def answeredFields : RunFields Int where
  provider := "openai"
  model := "gpt"
  runId := "run-1"
  suiteId := "smoke"
  suiteVersion := "1"
  suiteFingerprint := literalPlatform.fingerprint twoCases
  config := {}
  startedAt := 1
  finishedAt := 2
  status := .completedWithFailures
  totalCases := 2
  completedCases := 1
  executionFailedCases := 1
  terminatedEarly := false
  caseResults := [
    { provider := "openai", model := "gpt", caseId := "first", category := .math
      executionStatus := .completed, latencyMs := 1
      evaluation := some ⟨.exactMatch, "1", 1, true, .isMatch⟩ },
    { provider := "openai", model := "gpt", caseId := "second", category := .math
      executionStatus := .providerFailed, latencyMs := 30000
      errorType := some .timeout }]

private theorem answered_valid : answeredFields.check = .ok () := by decide +kernel

private theorem answered_range : Datetime.InRange 1 ∧ Datetime.InRange 2 := by decide

/-- One case answered, one timed out. -/
def answeredRun : BenchmarkRun where
  toRunFields := answeredFields
  valid := answered_valid
  startedRange := answered_range.1
  finishedRange := answered_range.2

/-- A gateway whose resolver reads the metrics database, `false`, in an application with a
benchmark store of its own, `true`. -/
def databaseResolver : SourcedResolver literalPlatform Bool := ⟨twoCases, false, .utc 3⟩

def movedApp : AppState literalPlatform Bool where
  benchmarkQuality := some ⟨twoCases, true, .utc 3⟩
  benchmarkStore := some true

def savedAnswer : List SaveCall := [⟨fun _ => none, .typed answeredRun.modelDump⟩]

/-- Only the application's own store can be opened. -/
def ownStore (store : Bool) : Except PyError Tables :=
  if store then .ok (saveAll savedAnswer).tables else .error (.other "OperationalError")

private theorem renewed_resolver :
    @newResolver literalPlatform Bool twoCases true (.utc 3) = .ok ⟨twoCases, true, .utc 3⟩ :=
  bind_ok_iff.mpr ⟨twoCases, twoCases.modelValidate_self, rfl⟩

private theorem moved_configured :
    configureBenchmarks (some databaseResolver) true (some true) (.ok false) = .ok movedApp :=
  bind_ok_iff.mpr ⟨some true, rfl, bind_ok_iff.mpr ⟨_, renewed_resolver, rfl⟩⟩

theorem moved_store_views : Shows ownStore movedApp savedAnswer :=
  (benchmark_views_agree ownStore moved_configured).2.1 true savedAnswer rfl rfl

end MovedStore

end ModelPilot.BenchmarkApi
