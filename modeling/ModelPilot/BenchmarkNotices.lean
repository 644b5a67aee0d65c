import ModelPilot.FetchJson
import ModelPilot.LatestRequest

/-! What the benchmark panels say (`BenchmarkState` of `components/benchmark-dashboard.tsx`)
about what the benchmark endpoints answer. -/
namespace ModelPilot.BenchmarkNotices
open BenchmarkApi FetchJson BenchmarkPipeline QualityAggregation

/-! ### Panels -/

inductive Kind where
  | runs
  | detail
  | quality
  deriving DecidableEq, Repr

/-- A message, and whether it is an alert. -/
abbrev Notice := String × Bool

def notConfigured : Notice :=
  ("Quality suite not configured. Set MODELPILOT_QUALITY_SUITE_PATH on the server.", false)

def noEvidence : Notice :=
  ("No quality evidence for this target in the currently configured suite.", false)

def notFound : Notice := ("Run details not found. The selected run does not exist.", false)

def unable : Notice := ("Unable to load benchmark data. Please try Refresh.", true)

/-- `BenchmarkState`; a panel with data has no message. -/
def benchmarkState (kind : Kind) : ReadState Json Thrown → Option Notice
  | .success _ => none
  | .loading => some ("Loading benchmark data…", false)
  | .idle =>
    if kind = .detail then some ("Select a run to view its historical details.", false)
    else some ("Choose an explicit provider and model to query current quality.", false)
  | .error (.api status code) =>
    if kind = .quality ∧ status = some 503 ∧ code = .qualitySuiteNotConfigured then
      some notConfigured
    else if kind = .quality ∧ status = some 404 ∧ code = .noQualityEvidence then some noEvidence
    else if kind = .detail ∧ status = some 404 then some notFound
    else some unable
  | .error _ => some unable

/-! ### Answers on the wire -/

/-- The body of an `HTTPException` with a code. -/
def refusalBody (code : String) : Json := .obj [("detail", .obj [("code", .str code)])]

/-- What an endpoint sends, where `render` is the JSON of its response model. -/
inductive Sends {α : Type} (render : α → Json) : Except Refusal α → Nat → Json → Prop where
  | ok (value : α) : Sends render (.ok value) 200 (render value)
  | http (status : Nat) (code : String) :
      Sends render (.error (.http status code)) status (refusalBody code)
  | invalid (errors : List Json) :
      Sends render (.error .invalidQuery) 422 (.obj [("detail", .arr errors)])

/-- A read that was sent an answer, and went on before any abort and its deadline. -/
def Reads {α : Type} (render : α → Json) (answer : Except Refusal α) (outcome : Outcome) : Prop :=
  ∃ events later status body call, Sends render answer status body ∧
    run (start false) (events ++ .read (some body) :: .resume :: later) = some call ∧
    events.any Event.isAbort = false ∧ events.any Event.isDeadline = false ∧
    events.findSome? Event.status? = some status ∧ call.result = some outcome

section Wire
variable {α : Type} {render : α → Json} {answer : Except Refusal α} {outcome : Outcome}
  {status : Nat} {code : ErrorCode}

theorem reads_responded (reads : Reads render answer outcome) :
    ∃ status body, Sends render answer status body ∧ outcome = responded status (some body) := by
  obtain ⟨events, later, status, body, call, sends, ran, aborted, timely, answered, result⟩ := reads
  refine ⟨status, body, sends, ?_⟩
  exact Option.some.inj (result.symm.trans (responded_told ran aborted timely answered))

theorem reads_ok {value : α} (reads : Reads render (.ok value) outcome) :
    outcome = .ok (render value) := by
  obtain ⟨_, _, ⟨⟩, rfl⟩ := reads_responded reads
  rfl

theorem reads_http {text : String} (reads : Reads render (.error (.http status text)) outcome)
    (failed : ok status = false) (known : safeErrorCode (refusalBody text) = code) :
    outcome = .error (.api status code) := by
  obtain ⟨_, _, ⟨⟩, rfl⟩ := reads_responded reads
  unfold responded
  rw [failed, ← known]
  rfl

/-- Every code of the list passes. -/
theorem known_code (code : ErrorCode) : safeErrorCode (refusalBody code.value) = code := by
  cases code <;> decide

theorem reads_invalid (reads : Reads render (.error .invalidQuery) outcome) :
    outcome = .error (.api (some 422) .requestFailed) := by
  obtain ⟨_, _, ⟨⟩, rfl⟩ := reads_responded reads
  rfl

end Wire

/-! ### Refusals -/

section Refusals
variable {platform : Platform} {σ : Type} {contents : σ → Except PyError BenchmarkStore.Tables}
  {app : AppState platform σ} {provider model runId : String} {target : BenchmarkTarget}
  {outcome : Outcome}

/-- The snapshot of a target that a resolver gives. -/
def snapshotOf (contents : σ → Except PyError BenchmarkStore.Tables)
    (resolver : SourcedResolver platform σ) (target : BenchmarkTarget) :
    Except PyError (Option (QualitySnapshot platform.float)) := do
  let tables ← contents resolver.store
  (BenchmarkQualityResolver.mk resolver.suite).getQualitySnapshot tables resolver.clock
    target.provider target.model

/-- The run of an identifier that a store gives. -/
def runOf (contents : σ → Except PyError BenchmarkStore.Tables) (store : σ) (runId : String) :
    Except PyError (Option BenchmarkRun) := do
  let tables ← contents store
  BenchmarkStore.getRun tables runId

/-- Why the panel of the quality says what it says about a target. -/
structure QualityTold (contents : σ → Except PyError BenchmarkStore.Tables)
    (app : AppState platform σ) (target : BenchmarkTarget) (shown : Option Notice) : Prop where
  configured : shown = some notConfigured ↔ app.benchmarkQuality = none
  evidence : shown = some noEvidence ↔ ∃ resolver, app.benchmarkQuality = some resolver ∧
    snapshotOf contents resolver target = .ok none
  failed : shown = some unable ↔ ∃ resolver error, app.benchmarkQuality = some resolver ∧
    snapshotOf contents resolver target = .error error
  data : shown = none ↔ ∃ resolver snapshot, app.benchmarkQuality = some resolver ∧
    snapshotOf contents resolver target = .ok (some snapshot)

/-- Why the panel of the details says what it says about a run. -/
structure DetailTold (contents : σ → Except PyError BenchmarkStore.Tables)
    (app : AppState platform σ) (runId : String) (shown : Option Notice) : Prop where
  found : shown = some notFound ↔ ∃ store, app.benchmarkStore = some store ∧
    runOf contents store runId = .ok none
  failed : shown = some unable ↔ ∀ store, app.benchmarkStore = some store →
    ∃ error, runOf contents store runId = .error error
  data : shown = none ↔ ∃ store run, app.benchmarkStore = some store ∧
    runOf contents store runId = .ok (some run)

theorem quality_unconfigured
    (valid : BenchmarkTarget.modelValidate { provider, model } = .ok target)
    (unset : app.benchmarkQuality = none) :
    quality contents app provider model = .error suiteNotConfigured := by
  unfold quality
  rw [valid]
  dsimp only
  rw [unset]

/-- What an endpoint answers about something that may be missing. -/
def answerOf {α : Type} (missing : Refusal) : Except PyError (Option α) → Except Refusal α
  | .error _ => .error dataUnavailable
  | .ok none => .error missing
  | .ok (some value) => .ok value

theorem quality_configured {resolver : SourcedResolver platform σ}
    (valid : BenchmarkTarget.modelValidate { provider, model } = .ok target)
    (set : app.benchmarkQuality = some resolver) :
    quality contents app provider model =
      answerOf noQualityEvidence (snapshotOf contents resolver target) := by
  unfold quality
  rw [valid]
  dsimp only
  rw [set]
  dsimp only
  change (query (snapshotOf contents resolver target) >>= _) = _
  cases snapshotOf contents resolver target with
  | error error => rfl
  | ok found => cases found <;> rfl

theorem runDetail_answers {store : σ} (set : app.benchmarkStore = some store) :
    runDetail contents app runId =
      answerOf runNotFound ((runOf contents store runId).map (·.map detailOf)) := by
  unfold runDetail requestStore
  rw [set]
  change (query (runOf contents store runId) >>= _) = _
  cases runOf contents store runId with
  | error error => rfl
  | ok found =>
    cases found with
    | none => rfl
    | some run => exact query_ok_iff.mpr (detail_ok run)

@[simp] theorem quality_unconfigured_shown :
    benchmarkState .quality (.error (.api (some 503) .qualitySuiteNotConfigured)) =
      some notConfigured := rfl

@[simp] theorem quality_unavailable_shown :
    benchmarkState .quality (.error (.api (some 503) .benchmarkDataUnavailable)) = some unable :=
  rfl

@[simp] theorem quality_missing_shown :
    benchmarkState .quality (.error (.api (some 404) .noQualityEvidence)) = some noEvidence := rfl

@[simp] theorem detail_missing_shown :
    benchmarkState .detail (.error (.api (some 404) .benchmarkRunNotFound)) = some notFound := rfl

@[simp] theorem detail_unavailable_shown :
    benchmarkState .detail (.error (.api (some 503) .benchmarkDataUnavailable)) = some unable :=
  rfl

theorem quality_told {render : QualitySnapshot platform.float → Json}
    (valid : BenchmarkTarget.modelValidate { provider, model } = .ok target)
    (reads : Reads render (quality contents app provider model) outcome) :
    QualityTold contents app target (benchmarkState .quality (.ofSettlement outcome)) := by
  cases set : app.benchmarkQuality with
  | none =>
    rw [quality_unconfigured valid set] at reads
    obtain rfl := reads_http reads rfl (known_code .qualitySuiteNotConfigured)
    constructor <;> simp [ReadState.ofSettlement, set, notConfigured, noEvidence, unable]
  | some resolver =>
    rw [quality_configured valid set] at reads
    cases found : snapshotOf contents resolver target with
    | error error =>
      rw [found] at reads
      obtain rfl := reads_http reads rfl (known_code .benchmarkDataUnavailable)
      constructor <;>
        simp [ReadState.ofSettlement, set, found, notConfigured, noEvidence, unable]
    | ok held =>
      rw [found] at reads
      cases held with
      | none =>
        obtain rfl := reads_http reads rfl (known_code .noQualityEvidence)
        constructor <;>
          simp [ReadState.ofSettlement, set, found, notConfigured, noEvidence, unable]
      | some snapshot =>
        obtain rfl := reads_ok reads
        constructor <;> simp [ReadState.ofSettlement, benchmarkState, set, found]

theorem detail_told {render : RunDetail → Json}
    (reads : Reads render (runDetail contents app runId) outcome) :
    DetailTold contents app runId (benchmarkState .detail (.ofSettlement outcome)) := by
  cases set : app.benchmarkStore with
  | none =>
    have unset : runDetail contents app runId = .error dataUnavailable := by
      unfold runDetail requestStore
      rw [set]
      rfl
    rw [unset] at reads
    obtain rfl := reads_http reads rfl (known_code .benchmarkDataUnavailable)
    constructor <;> simp [ReadState.ofSettlement, set, notFound, unable]
  | some store =>
    rw [runDetail_answers set] at reads
    cases found : runOf contents store runId with
    | error error =>
      rw [found] at reads
      obtain rfl := reads_http reads rfl (known_code .benchmarkDataUnavailable)
      constructor <;> simp [ReadState.ofSettlement, set, found, notFound, unable]
    | ok held =>
      rw [found] at reads
      cases held with
      | none =>
        obtain rfl := reads_http reads rfl (known_code .benchmarkRunNotFound)
        constructor <;> simp [ReadState.ofSettlement, set, found, notFound, unable]
      | some run =>
        obtain rfl := reads_ok reads
        constructor <;> simp [ReadState.ofSettlement, benchmarkState, set, found]

theorem query_refusal {α : Type} {callback : Except PyError α} {refusal : Refusal}
    (refused : query callback = .error refusal) : refusal = dataUnavailable := by
  cases callback with
  | ok value => cases refused
  | error error =>
    cases refused
    rfl

theorem listRuns_refusal {limit : Int} {filters : BenchmarkStore.Filters} {refusal : Refusal}
    (refused : listRuns contents app limit filters = .error refusal) :
    refusal = .invalidQuery ∨ refusal = dataUnavailable := by
  unfold listRuns at refused
  split at refused
  · cases refused
    exact .inl rfl
  · refine .inr ?_
    cases set : app.benchmarkStore with
    | none =>
      simp only [requestStore, set] at refused
      cases refused
      rfl
    | some store =>
      simp only [requestStore, set] at refused
      exact query_refusal refused

/-- The panel of the runs says that it cannot load them exactly when they are refused. -/
theorem runs_told {limit : Int} {filters : BenchmarkStore.Filters} {render : List RunSummary → Json}
    (reads : Reads render (listRuns contents app limit filters) outcome) :
    (benchmarkState .runs (.ofSettlement outcome) = some unable ↔
      ∃ refusal, listRuns contents app limit filters = .error refusal) ∧
    (benchmarkState .runs (.ofSettlement outcome) = none ↔
      ∃ runs, listRuns contents app limit filters = .ok runs) := by
  cases answer : listRuns contents app limit filters with
  | ok runs =>
    rw [answer] at reads
    obtain rfl := reads_ok reads
    constructor <;> simp [ReadState.ofSettlement, benchmarkState]
  | error refusal =>
    rw [answer] at reads
    rcases listRuns_refusal answer with rfl | rfl
    · obtain rfl := reads_invalid reads
      constructor <;> simp [ReadState.ofSettlement, benchmarkState]
    · obtain rfl := reads_http reads rfl (known_code .benchmarkDataUnavailable)
      constructor <;> simp [ReadState.ofSettlement, benchmarkState]

/-- Whatever a read of the benchmark endpoints went through before its deadline, its panel says
why there is nothing to show: that no suite is configured, that a target has no evidence and
that a run is missing are each said exactly when it is so, and every other failure is an alert. -/
theorem notices_tell_refusals (contents : σ → Except PyError BenchmarkStore.Tables)
    (app : AppState platform σ) :
    (∀ provider model target (render : QualitySnapshot platform.float → Json) outcome,
      BenchmarkTarget.modelValidate { provider, model } = .ok target →
      Reads render (quality contents app provider model) outcome →
        QualityTold contents app target (benchmarkState .quality (.ofSettlement outcome))) ∧
    (∀ runId (render : RunDetail → Json) outcome,
      Reads render (runDetail contents app runId) outcome →
        DetailTold contents app runId (benchmarkState .detail (.ofSettlement outcome))) ∧
    ∀ limit filters (render : List RunSummary → Json) outcome,
      Reads render (listRuns contents app limit filters) outcome →
      (benchmarkState .runs (.ofSettlement outcome) = some unable ↔
        ∃ refusal, listRuns contents app limit filters = .error refusal) ∧
      (benchmarkState .runs (.ofSettlement outcome) = none ↔
        ∃ runs, listRuns contents app limit filters = .ok runs) :=
  ⟨fun _ _ _ _ _ valid reads => quality_told valid reads, fun _ _ _ reads => detail_told reads,
    fun _ _ _ _ reads => runs_told reads⟩

end Refusals

section UnsetSuite
open BenchmarkRunner (literalPlatform openaiTarget)

/-- An application without a suite. -/
def bareApp : AppState literalPlatform Bool where
  benchmarkQuality := none
  benchmarkStore := some true

private theorem bare_valid :
    BenchmarkTarget.modelValidate { provider := "openai", model := "gpt" } =
      .ok openaiTarget := openaiTarget.modelValidate_self

/-- The same application over a database that cannot be opened. -/
def shutApp : AppState literalPlatform Bool := { bareApp with benchmarkStore := some false }

private theorem bare_quality : Reads (fun _ => .null) (quality ownStore bareApp "openai" "gpt")
    (.error (.api (some 503) .qualitySuiteNotConfigured)) := by
  rw [quality_unconfigured bare_valid rfl]
  exact ⟨[.answer 503], [], 503, _, _, .http 503 _, rfl, rfl, rfl, rfl, rfl⟩

private theorem saved_runs : (BenchmarkStore.saveAll savedAnswer).saved.map (·.runId) = ["run-1"] := by
  decide +kernel

private theorem missing_detail : Reads (fun _ => .null) (runDetail ownStore bareApp "missing")
    (.error (.api (some 404) .benchmarkRunNotFound)) := by
  have unknown : "missing" ∉ (BenchmarkStore.saveAll savedAnswer).saved.map (·.runId) := by
    rw [saved_runs]
    decide
  have opened : ownStore true = .ok (BenchmarkStore.saveAll savedAnswer).tables := rfl
  rw [runDetail_unknown rfl opened unknown]
  exact ⟨[.answer 404], [], 404, _, _, .http 404 _, rfl, rfl, rfl, rfl, rfl⟩

private theorem shut_runs : Reads (fun _ => .null) (listRuns ownStore shutApp 20 {})
    (.error (.api (some 503) .benchmarkDataUnavailable)) :=
  ⟨[.answer 503], [], 503, _, _, .http 503 _, rfl, rfl, rfl, rfl, rfl⟩

/-- A missing suite, a missing run and a database that cannot be opened are told apart. -/
theorem unset_suite_told :
    QualityTold ownStore bareApp openaiTarget (some notConfigured) ∧
      DetailTold ownStore bareApp "missing" (some notFound) ∧
      (∃ store, bareApp.benchmarkStore = some store ∧ runOf ownStore store "missing" = .ok none) ∧
      ∃ refusal, listRuns ownStore shutApp 20 {} = .error refusal := by
  obtain ⟨told, details, _⟩ := notices_tell_refusals ownStore bareApp
  have missing := details "missing" (fun _ => .null) _ missing_detail
  refine ⟨told "openai" "gpt" openaiTarget (fun _ => .null) _ bare_valid bare_quality, missing,
    missing.found.mp rfl, ?_⟩
  exact ((notices_tell_refusals ownStore shutApp).2.2 20 {} (fun _ => .null) _ shut_runs).1.mp rfl

end UnsetSuite

end ModelPilot.BenchmarkNotices
