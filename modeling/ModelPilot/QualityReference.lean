import Mathlib.Algebra.BigOperators.Group.List.Basic
import Mathlib.Data.List.Dedup
import ModelPilot.BenchmarkExecution
import ModelPilot.QualityGathering

/-! The reference meaning of the aggregation: the evidence of a case is the
result of its latest attempt, and every number of a snapshot is computed from
that evidence. The aggregation computes exactly this, whatever the order and
the repetitions of the supplied runs. -/
namespace ModelPilot.QualityReference
open QualityAggregation

/-- The run has a result for the case. -/
def attempts (caseId : String) (run : BenchmarkRun) : Bool :=
  run.caseResults.any (·.caseId = caseId)

/-- The run with the greatest `(finished_at, run_id)` among those that contain
the case. -/
def latestRun (history : List BenchmarkRun) (caseId : String) : Option BenchmarkRun :=
  greatest rank (history.filter (attempts caseId))

/-- The evidence of a case. -/
def evidence (history : List BenchmarkRun) (caseId : String) : Option BenchmarkCaseResult :=
  (latestRun history caseId).bind fun run => run.caseResults.find? (·.caseId = caseId)

/-- The evaluation of a case, when its latest attempt has one. -/
def evaluationOf (evidence : String → Option BenchmarkCaseResult) (case_ : BenchmarkCase) :
    Option CaseEvaluation :=
  (evidence case_.caseId).bind (·.evaluation)

/-- The cases with evidence, and those with an evaluation. -/
def observedOf (evidence : String → Option BenchmarkCaseResult) (cases : List BenchmarkCase) :
    List BenchmarkCase :=
  cases.filter fun case_ => (evidence case_.caseId).isSome

def evaluatedOf (evidence : String → Option BenchmarkCaseResult) (cases : List BenchmarkCase) :
    List BenchmarkCase :=
  cases.filter fun case_ => (evaluationOf evidence case_).isSome

/-- The metrics of a list of cases under an evidence. -/
def metricsOf (float : Rounding) (cases : List BenchmarkCase)
    (evidence : String → Option BenchmarkCaseResult) : QualityMetrics :=
  let evaluated := evaluatedOf evidence cases
  let observed := observedOf evidence cases
  let weight := (evaluated.map (·.weight)).sum
  let weighted := (evaluated.map fun case_ =>
    case_.weight * (evaluationOf evidence case_).elim 0 (·.score)).sum
  let completeness := float.div evaluated.length cases.length
  let weightedCoverage := float.div weight (cases.map (·.weight)).sum
  { qualityScore := if evaluated = [] then none else some (float.div weighted weight)
    coverage := float.div observed.length cases.length
    executionCompleteness := completeness
    weightedEvaluationCoverage := weightedCoverage
    confidence := confidenceOf float evaluated.length weightedCoverage completeness
    totalCases := cases.length
    observedCases := observed.length
    evaluatedCases := evaluated.length
    executionFailedCases := observed.length - evaluated.length }

/-- The reference value of a snapshot of an accepted history. -/
def snapshotOf (platform : Platform) (suite : BenchmarkSuite platform.texts)
    (target : BenchmarkTarget) (history : List BenchmarkRun) (generatedAt : Int) :
    SnapshotFields Int :=
  let latest := greatest rank history
  let sources := SnapshotFields.sortedSet
    (suite.cases.filterMap fun case_ => (latestRun history case_.caseId).map (·.runId))
  { toQualityMetrics := metricsOf platform.float suite.cases (evidence history)
    toTargetFields := target.toTargetFields
    suiteId := suite.suiteId
    suiteVersion := suite.version
    suiteFingerprint := platform.fingerprint suite
    runConfig := latest.map (·.config)
    sourceRunCount := sources.length
    sourceRunIds := sources
    latestRunId := latest.map (·.runId)
    latestRunCoverage := latest.map fun run =>
      platform.float.div run.caseResults.length suite.cases.length
    latestRunCompleteness := latest.map fun run =>
      platform.float.div run.completedCases suite.cases.length
    categories := (categoriesOf suite.cases).map fun category =>
      { toQualityMetrics := metricsOf platform.float
          (suite.cases.filter (·.category = category)) (evidence history)
        category }
    generatedAt }

section Evidence
variable {history : List BenchmarkRun} {caseId : String} {run : BenchmarkRun}
  {result : BenchmarkCaseResult}

/-- The latest attempt at a case. -/
abbrev LatestAttempt (history : List BenchmarkRun) (caseId : String) (run : BenchmarkRun)
    (result : BenchmarkCaseResult) : Prop :=
  LatestWins.Latest (·.caseResults) (·.caseId) rank history caseId run result

theorem single_results (run : BenchmarkRun) : (run.caseResults.map (·.caseId)).Nodup :=
  run.wellFormed.caseIds

theorem find_result_iff :
    run.caseResults.find? (·.caseId = caseId) = some result ↔
      result ∈ run.caseResults ∧ result.caseId = caseId := by
  constructor
  · intro found
    exact ⟨List.mem_of_find?_eq_some found, by simpa using List.find?_some found⟩
  · rintro ⟨member, named⟩
    cases found : run.caseResults.find? (·.caseId = caseId) with
    | none => exact absurd (by simpa using named) (List.find?_eq_none.mp found result member)
    | some other =>
      have same : other.caseId = caseId := by simpa using List.find?_some found
      rw [List.inj_on_of_nodup_map (single_results run) (List.mem_of_find?_eq_some found) member
        (same.trans named.symm)]

theorem mem_attempts :
    run ∈ history.filter (attempts caseId) ↔
      run ∈ history ∧ ∃ result ∈ run.caseResults, result.caseId = caseId := by
  simp [attempts]

/-- With ranks that tell runs apart, the reference evidence is the latest
attempt. -/
theorem latestRun_iff (distinct : ∀ a ∈ history, ∀ b ∈ history, rank a = rank b → a = b) :
    latestRun history caseId = some run ∧ run.caseResults.find? (·.caseId = caseId) = some result ↔
      LatestAttempt history caseId run result := by
  rw [find_result_iff]
  constructor
  · rintro ⟨latest, member, named⟩
    refine ⟨⟨(mem_attempts.mp (greatest_mem latest)).1, member, named⟩, ?_⟩
    intro other found attempt
    exact le_greatest latest
      (mem_attempts.mpr ⟨attempt.run_mem, found, attempt.item_mem, attempt.named⟩)
  · intro latest
    have candidate : run ∈ history.filter (attempts caseId) :=
      mem_attempts.mpr ⟨latest.run_mem, result, latest.item_mem, latest.named⟩
    refine ⟨?_, latest.item_mem, latest.named⟩
    cases best : latestRun history caseId with
    | none =>
      rw [latestRun, greatest_eq_none] at best
      simp [best] at candidate
    | some other =>
      obtain ⟨inside, found, member, named⟩ := mem_attempts.mp (greatest_mem best)
      have above := latest.greatest other found ⟨inside, member, named⟩
      have below := le_greatest best candidate
      rw [distinct other inside run latest.run_mem (le_antisymm above below)]

/-- What a replay of the ordered runs leaves under a case. -/
theorem get?_replayed {value : BenchmarkRun → BenchmarkCaseResult → ν}
    (sorted : history.Pairwise (rank · < rank ·))
    (distinct : ∀ a ∈ history, ∀ b ∈ history, rank a = rank b → a = b) (caseId : String) :
    (replayed value history).get? caseId =
      (latestRun history caseId).bind fun run =>
        (run.caseResults.find? (·.caseId = caseId)).map (value run) := by
  apply Option.ext
  intro held
  rw [replayed, LatestWins.get?_replay sorted fun run _ => single_results run]
  simp only [Option.bind_eq_some_iff, Option.map_eq_some_iff, ← latestRun_iff distinct]
  constructor
  · rintro ⟨run, result, ⟨latest, found⟩, same⟩
    exact ⟨run, latest, result, found, same⟩
  · rintro ⟨run, latest, result, found, same⟩
    exact ⟨run, result, ⟨latest, found⟩, same⟩

end Evidence

section Metrics
variable {float : Rounding} {cases : List BenchmarkCase} {dict : Dict String BenchmarkCaseResult}

/-- Anything read off the evaluated pairs is read off the evaluated cases. -/
private theorem map_evaluatedCases (cases : List BenchmarkCase)
    (dict : Dict String BenchmarkCaseResult) (read : BenchmarkCase → CaseEvaluation → α)
    (readCase : BenchmarkCase → α)
    (same : ∀ case_ evaluation, evaluationOf dict.get? case_ = some evaluation →
      read case_ evaluation = readCase case_) :
    ((evaluatedCases cases dict).map fun entry => read entry.1 entry.2) =
      (evaluatedOf dict.get? cases).map readCase := by
  unfold evaluatedOf
  induction cases with
  | nil => rfl
  | cons case_ rest ih =>
    have head : evaluatedCases (case_ :: rest) dict =
        ((evaluationOf dict.get? case_).map (case_, ·)).toList ++ evaluatedCases rest dict := by
      rw [evaluatedCases, List.filterMap_cons, evaluationOf]
      cases (dict.get? case_.caseId).bind (·.evaluation) <;> rfl
    rw [head, List.map_append, ih]
    cases found : evaluationOf dict.get? case_ with
    | none => simp [found]
    | some evaluation => simp [found, same case_ evaluation found]

/-- `_metrics` checks and returns the metrics of the evidence. -/
theorem metrics_eq (nonempty : cases ≠ []) :
    metrics float cases dict = (metricsOf float cases dict.get?).check float >>= fun _ =>
      .ok (metricsOf float cases dict.get?) := by
  have count : (evaluatedCases cases dict).length = (evaluatedOf dict.get? cases).length := by
    have lengths := congrArg List.length (map_evaluatedCases cases dict (fun _ _ => ()) (fun _ => ())
      fun _ _ _ => rfl)
    simpa using lengths
  have none_evaluated : evaluatedCases cases dict = [] ↔ evaluatedOf dict.get? cases = [] := by
    rw [← List.length_eq_zero_iff, ← List.length_eq_zero_iff, count]
  have weights := map_evaluatedCases cases dict (fun case_ _ => case_.weight) (·.weight)
    fun _ _ _ => rfl
  have weighted := map_evaluatedCases cases dict
    (fun case_ evaluation => case_.weight * evaluation.score)
    (fun case_ => case_.weight * (evaluationOf dict.get? case_).elim 0 (·.score))
    fun case_ evaluation found => by simp [found]
  unfold metrics
  simp only [if_neg nonempty, metricsOf, observedOf, count, none_evaluated, weights, weighted,
    List.countP_eq_length_filter]

/-- When `_metrics` returns, it returns the metrics of the evidence. -/
theorem metrics_value (returned : metrics float cases dict = .ok result) :
    result = metricsOf float cases dict.get? := by
  by_cases empty : cases = []
  · rw [metrics, if_pos empty] at returned
    cases returned
  · rw [metrics_eq empty] at returned
    exact (Except.ok.inj (then_ok_iff.mp returned).2).symm

end Metrics
section Snapshot
variable {platform : Platform} {suite : BenchmarkSuite platform.texts} {target : BenchmarkTarget}
  {history ordered left right : List BenchmarkRun} {state : Gathered} {caseId : String}
  {generatedAt : Datetime} {snapshot : QualitySnapshot platform.float}

theorem latestRun_mem (latest : latestRun history caseId = some run) :
    run ∈ history ∧ ∃ result ∈ run.caseResults, result.caseId = caseId :=
  mem_attempts.mp (greatest_mem latest)

theorem latestRun_congr (same : ∀ run, run ∈ left ↔ run ∈ right)
    (distinct : ∀ a ∈ right, ∀ b ∈ right, rank a = rank b → a = b) (caseId : String) :
    latestRun left caseId = latestRun right caseId := by
  apply greatest_congr
  · intro run
    simp only [List.mem_filter, same]
  · intro a inA b inB
    exact distinct a (List.mem_of_mem_filter inA) b (List.mem_of_mem_filter inB)

/-- Equal sets have equal sorted tuples. -/
theorem sortedSet_congr {left right : List String} (same : ∀ id, id ∈ left ↔ id ∈ right) :
    SnapshotFields.sortedSet left = SnapshotFields.sortedSet right := by
  have strict : ∀ values : List String,
      (SnapshotFields.sortedSet values).Pairwise (id · < id ·) :=
    fun values => sortedBy_strict (by simpa using List.nodup_dedup values)
  refine sorted_ext (strict left) (strict right) fun name => ?_
  simp [SnapshotFields.sortedSet, mem_sortedBy, same]

/-- The facts about the unique runs, once sorted. -/
theorem ordered_facts (holds : Holds history state)
    (accepted : Accepted platform suite target history) :
    (∀ run, run ∈ sortedBy rank state.unique.values ↔ run ∈ history) ∧
    (sortedBy rank state.unique.values).Pairwise (rank · < rank ·) ∧
    ∀ a ∈ history, ∀ b ∈ history, rank a = rank b → a = b :=
  ⟨fun _ => mem_ordered holds, ordered_strict holds, rank_injective accepted⟩

/-- The dictionaries of the code hold the reference evidence. -/
theorem get?_ordered {value : BenchmarkRun → BenchmarkCaseResult → ν}
    (holds : Holds history state) (accepted : Accepted platform suite target history)
    (caseId : String) :
    (replayed value (sortedBy rank state.unique.values)).get? caseId =
      (latestRun history caseId).bind fun run =>
        (run.caseResults.find? (·.caseId = caseId)).map (value run) := by
  obtain ⟨members, sorted, distinct⟩ := ordered_facts holds accepted
  have apart : ∀ a ∈ sortedBy rank state.unique.values,
      ∀ b ∈ sortedBy rank state.unique.values, rank a = rank b → a = b :=
    fun a inA b inB => distinct a ((members a).mp inA) b ((members b).mp inB)
  rw [get?_replayed sorted apart, latestRun_congr members distinct]

theorem get?_evidence (holds : Holds history state)
    (accepted : Accepted platform suite target history) :
    (replayed (fun _ result => result) (sortedBy rank state.unique.values)).get? =
      evidence history := by
  funext caseId
  rw [get?_ordered holds accepted, evidence]
  simp

private theorem categorySnapshots_value {float : Rounding} {cases : List BenchmarkCase}
    {dict : Dict String BenchmarkCaseResult} {names : List BenchmarkCategory}
    {snapshots : List CategoryQualitySnapshot}
    (returned : categorySnapshots float cases dict names = .ok snapshots) :
    snapshots = names.map fun category =>
      { toQualityMetrics := metricsOf float (cases.filter (·.category = category)) dict.get?
        category } := by
  induction names generalizing snapshots with
  | nil =>
    cases returned
    rfl
  | cons category rest ih =>
    obtain ⟨own, first, returned⟩ := bind_ok_iff.mp returned
    obtain ⟨others, later, returned⟩ := bind_ok_iff.mp returned
    cases returned
    rw [metrics_value first, ih later, List.map_cons]

/-- The sources of the code are the runs of the reference evidence. -/
theorem sources_value (holds : Holds history state)
    (accepted : Accepted platform suite target history) :
    SnapshotFields.sortedSet
        (replayed (fun run _ => run.runId) (sortedBy rank state.unique.values)).values =
      SnapshotFields.sortedSet
        (suite.cases.filterMap fun case_ => (latestRun history case_.caseId).map (·.runId)) := by
  apply sortedSet_congr
  intro id
  rw [Dict.values, List.mem_map, List.mem_filterMap]
  constructor
  · rintro ⟨⟨caseId, held⟩, member, rfl⟩
    have found := Dict.get?_eq_some_iff.mpr member
    rw [get?_ordered holds accepted] at found
    obtain ⟨run, latest, found⟩ := Option.bind_eq_some_iff.mp found
    obtain ⟨result, located, same⟩ := Option.map_eq_some_iff.mp found
    obtain ⟨inside, named⟩ := find_result_iff.mp located
    have known : caseId ∈ suite.cases.map (·.caseId) := by
      apply (results_in_order (accepted.fits run (latestRun_mem latest).1)).subset
      exact named ▸ List.mem_map_of_mem inside
    obtain ⟨case_, listed, rfl⟩ := List.mem_map.mp known
    exact ⟨case_, listed, by rw [latest, Option.map_some, same]⟩
  · rintro ⟨case_, _, found⟩
    obtain ⟨run, latest, rfl⟩ := Option.map_eq_some_iff.mp found
    obtain ⟨_, result, inside, named⟩ := latestRun_mem latest
    refine ⟨(case_.caseId, run.runId), Dict.get?_eq_some_iff.mp ?_, rfl⟩
    rw [get?_ordered holds accepted, latest, Option.bind_some,
      find_result_iff.mpr ⟨inside, named⟩, Option.map_some]

/-- With its metrics computed, the aggregation validates the reference value. -/
theorem summarize_eq (holds : Holds history state)
    (accepted : Accepted platform suite target history)
    (first : metrics platform.float suite.cases
      (replayed (fun _ result => result) (sortedBy rank state.unique.values)) = .ok overall)
    (later : categorySnapshots platform.float suite.cases
      (replayed (fun _ result => result) (sortedBy rank state.unique.values))
      (categoriesOf suite.cases) = .ok categories) :
    summarize platform suite target state generatedAt =
      QualitySnapshot.modelValidate platform.float
        ((snapshotOf platform suite target history 0).withTime generatedAt) := by
  obtain ⟨members, sorted, distinct⟩ := ordered_facts holds accepted
  have same := get?_evidence holds accepted
  have latest : (sortedBy rank state.unique.values).getLast? = greatest rank history := by
    rw [getLast?_eq_greatest sorted, greatest_congr members distinct]
  have config : state.config = (greatest rank history).map (·.config) := by
    apply Option.ext
    intro config
    rw [holds.config, Option.map_eq_some_iff]
    constructor
    · rintro ⟨run, member, rfl⟩
      cases newest : greatest rank history with
      | none => simp [greatest_eq_none.mp newest] at member
      | some other =>
        exact ⟨other, rfl, accepted.oneConfig other (greatest_mem newest) run member⟩
    · rintro ⟨run, newest, rfl⟩
      exact ⟨run, greatest_mem newest, rfl⟩
  rw [summarize]
  dsimp only
  rw [first, later, metrics_value first, categorySnapshots_value later, same, latest, config,
    sources_value holds accepted]
  rfl

/-- A snapshot summarized from the held history is the reference value. -/
theorem summarize_value (holds : Holds history state)
    (accepted : Accepted platform suite target history)
    (returned : summarize platform suite target state generatedAt = .ok snapshot) :
    snapshot.toSnapshotFields = snapshotOf platform suite target history snapshot.generatedAt := by
  obtain ⟨overall, first, rest⟩ := bind_ok_iff.mp returned
  obtain ⟨categories, later, _⟩ := bind_ok_iff.mp rest
  rw [summarize_eq holds accepted first later] at returned
  obtain ⟨_, fields⟩ := QualitySnapshot.modelValidate_ok_iff.mp returned
  rw [← fields]
  rfl

end Snapshot

section Aggregation
variable {platform : Platform} {originals others : List (RunFields Datetime)}
  {history : List BenchmarkRun} {suite : SuiteFields} {target : TargetFields}
  {generatedAt : Datetime} {snapshot : QualitySnapshot platform.float}

/-- The aggregation accepted a history and returned its reference value. -/
structure Aggregated (platform : Platform) (suite : SuiteFields) (target : TargetFields)
    (originals : List (RunFields Datetime)) (history : List BenchmarkRun)
    (snapshot : QualitySnapshot platform.float) : Prop where
  validated : List.Forall₂ Validates originals history
  value : ∃ (suite' : BenchmarkSuite platform.texts) (target' : BenchmarkTarget),
    suite'.toSuiteFields = suite ∧ target'.toTargetFields = target ∧
    Accepted platform suite' target' history ∧
    snapshot.toSnapshotFields =
      snapshotOf platform suite' target' history snapshot.generatedAt

theorem aggregate_value
    (returned : aggregateQuality platform suite originals target generatedAt = .ok snapshot) :
    ∃ history, Aggregated platform suite target originals history snapshot := by
  obtain ⟨suite', suiteValid, returned⟩ := bind_ok_iff.mp returned
  obtain ⟨target', targetValid, returned⟩ := bind_ok_iff.mp returned
  obtain ⟨state, ended, returned⟩ := bind_ok_iff.mp returned
  have empty : Accepted platform suite' target' [] := ⟨by simp, by simp, by simp⟩
  obtain ⟨runs, validated, accepted⟩ := (gather_ok_iff empty holds_empty).mp ⟨state, ended⟩
  have holds := gather_holds empty holds_empty validated ended
  exact ⟨runs, validated, suite', target', BenchmarkSuite.modelValidate_fields suiteValid,
    BenchmarkTarget.modelValidate_fields targetValid, accepted,
    summarize_value holds accepted returned⟩

private theorem mem_validated {runs : List BenchmarkRun}
    (validated : List.Forall₂ Validates originals runs) (run : BenchmarkRun) :
    run ∈ runs ↔ ∃ original ∈ originals, Validates original run := by
  induction validated with
  | nil => simp
  | cons first _ ih =>
    rename_i original held _ _ _
    have here : Validates original run ↔ run = held := by
      unfold Validates at first ⊢
      rw [first, Except.ok.injEq, eq_comm]
    simp [ih, here]

/-- Supplied lists with the same members validate to runs with the same
members. -/
private theorem validated_transfer {runs : List BenchmarkRun}
    (same : ∀ original, original ∈ originals ↔ original ∈ others)
    (validated : List.Forall₂ Validates originals runs) :
    ∃ moved, List.Forall₂ Validates others moved ∧ ∀ run, run ∈ runs ↔ run ∈ moved := by
  have each : ∀ original ∈ others, ∃ run, Validates original run := by
    intro original member
    have inside := (same original).mpr member
    obtain ⟨position, found⟩ := List.mem_iff_getElem?.mp inside
    obtain ⟨before, _⟩ := List.getElem?_eq_some_iff.mp found
    have paired := (List.forall₂_iff_get.mp validated).2 position before
      (validated.length_eq ▸ before)
    rw [List.get_eq_getElem, (List.getElem?_eq_some_iff.mp found).2] at paired
    exact ⟨_, paired⟩
  have moved : ∃ moved, List.Forall₂ Validates others moved := by
    clear same
    induction others with
    | nil => exact ⟨[], .nil⟩
    | cons original rest ih =>
      obtain ⟨run, first⟩ := each original List.mem_cons_self
      obtain ⟨runs, later⟩ := ih fun other member => each other (List.mem_cons_of_mem _ member)
      exact ⟨run :: runs, .cons first later⟩
  obtain ⟨moved, again⟩ := moved
  refine ⟨moved, again, fun run => ?_⟩
  simp only [mem_validated validated, mem_validated again, same]

/-- The outcome of an aggregation, whether a snapshot or a refusal, depends on
the members of the supplied list only. -/
theorem aggregate_congr (same : ∀ original, original ∈ originals ↔ original ∈ others) :
    (aggregateQuality platform suite originals target generatedAt).toOption =
      (aggregateQuality platform suite others target generatedAt).toOption := by
  have returns : ∀ {these those : List (RunFields Datetime)} {snapshot},
      (∀ original, original ∈ these ↔ original ∈ those) →
      aggregateQuality platform suite these target generatedAt = .ok snapshot →
      aggregateQuality platform suite those target generatedAt = .ok snapshot := by
    intro these those snapshot agree returned
    obtain ⟨suite', suiteValid, returned⟩ := bind_ok_iff.mp returned
    obtain ⟨target', targetValid, returned⟩ := bind_ok_iff.mp returned
    obtain ⟨state, ended, returned⟩ := bind_ok_iff.mp returned
    have empty : Accepted platform suite' target' [] := ⟨by simp, by simp, by simp⟩
    obtain ⟨runs, validated, accepted⟩ := (gather_ok_iff empty holds_empty).mp ⟨state, ended⟩
    have holds := gather_holds empty holds_empty validated ended
    obtain ⟨moved, again, members⟩ := validated_transfer agree validated
    have acceptedMoved := accepted_congr members accepted
    obtain ⟨stateMoved, endedMoved⟩ :=
      (gather_ok_iff empty holds_empty).mpr ⟨moved, again, acceptedMoved⟩
    have holdsMoved := gather_holds empty holds_empty again endedMoved
    have ordered : sortedBy rank stateMoved.unique.values = sortedBy rank state.unique.values := by
      refine sorted_ext (ordered_strict holdsMoved) (ordered_strict holds) fun run => ?_
      rw [mem_ordered holdsMoved, mem_ordered holds]
      exact (members run).symm
    have config : stateMoved.config = state.config := by
      apply Option.ext
      intro config
      simp only [holdsMoved.config, holds.config, List.nil_append, members]
    have summary : summarize platform suite' target' stateMoved generatedAt = .ok snapshot := by
      rw [← returned, summarize, summarize, ordered, config]
    exact bind_ok_iff.mpr ⟨suite', suiteValid, bind_ok_iff.mpr ⟨target', targetValid,
      bind_ok_iff.mpr ⟨stateMoved, endedMoved, summary⟩⟩⟩
  apply Option.ext
  intro snapshot
  simp only [toOption_eq_some_iff]
  exact ⟨returns same, returns fun original => (same original).symm⟩

/-- A run later than a whole history decides the cases it contains and no
others. -/
theorem evidence_cons (newer : BenchmarkRun)
    (later : ∀ run ∈ history, rank run < rank newer) (caseId : String) :
    evidence (newer :: history) caseId =
      if attempts caseId newer then newer.caseResults.find? (·.caseId = caseId)
      else evidence history caseId := by
  by_cases contained : attempts caseId newer = true
  · have chosen : latestRun (newer :: history) caseId = some newer := by
      rw [latestRun, List.filter_cons_of_pos contained]
      exact greatest_cons fun run member => later run (List.mem_of_mem_filter member)
    rw [evidence, chosen, if_pos contained, Option.bind_some]
  · rw [evidence, evidence, latestRun, latestRun, List.filter_cons_of_neg contained,
      if_neg contained]

/-- What the aggregation accepts it summarizes as the reference value, whose
evidence is the latest attempt at each case; its outcome depends on the members
of the supplied list only, not on their order or repetition; and a later run changes the
evidence of the cases it contains only. -/
theorem aggregate_is_latest_attempt (platform : Platform) (suite : SuiteFields)
    (target : TargetFields) (generatedAt : Datetime) :
    (∀ originals snapshot,
      aggregateQuality platform suite originals target generatedAt = .ok snapshot →
      ∃ history, Aggregated platform suite target originals history snapshot ∧
        ∀ caseId result, evidence history caseId = some result ↔
          ∃ run, LatestAttempt history caseId run result) ∧
    (∀ originals others, (∀ original, original ∈ originals ↔ original ∈ others) →
      (aggregateQuality platform suite originals target generatedAt).toOption =
        (aggregateQuality platform suite others target generatedAt).toOption) ∧
    (∀ history newer, (∀ run ∈ history, rank run < rank newer) → ∀ caseId,
      evidence (newer :: history) caseId =
        if attempts caseId newer then newer.caseResults.find? (·.caseId = caseId)
        else evidence history caseId) := by
  refine ⟨fun originals snapshot returned => ?_, fun originals others => aggregate_congr,
    fun history newer => evidence_cons newer⟩
  obtain ⟨history, aggregated⟩ := aggregate_value returned
  refine ⟨history, aggregated, fun caseId result => ?_⟩
  obtain ⟨_, _, _, _, accepted, _⟩ := aggregated.value
  rw [evidence, Option.bind_eq_some_iff]
  exact exists_congr fun run => latestRun_iff (rank_injective accepted)

section BrokenOffRuns
open BenchmarkRunner (literalPlatform literalTexts)

def numberCase (caseId question answer : String) : BenchmarkCase :=
  ⟨caseId, .math, [⟨.user, question⟩], ⟨.exactMatch answer, "1"⟩, 1⟩

def fourCases : SuiteFields where
  suiteId := "smoke"
  version := "2"
  name := "Smoke"
  cases := [numberCase "first" "One?" "1", numberCase "second" "Two?" "2",
    numberCase "third" "Three?" "3", numberCase "fourth" "Four?" "4"]

/-- The SHA-256 digest of `fourCases`, as `model_dump_json` writes it. -/
def fourCasesDigest : String :=
  "19aca15c65fa8a144a9c5228f362b4771f4bdd683fcbfaaf9459e90a95242150"

private theorem fourCasesDigest_isFingerprint : isFingerprint fourCasesDigest = true := by
  decide +kernel

def fourCasePlatform : Platform where
  float := .exact
  texts := literalTexts
  fingerprint := fun _ => fourCasesDigest
  digest := fun _ => fourCasesDigest_isFingerprint

def evaluatedResult (caseId : String) : BenchmarkCaseResult where
  provider := "openai"
  model := "gpt"
  caseId
  category := .math
  executionStatus := .completed
  latencyMs := 1
  evaluation := some ⟨.exactMatch, "1", 1, true, .isMatch⟩

def refusedResult (caseId : String) : BenchmarkCaseResult where
  provider := "openai"
  model := "gpt"
  caseId
  category := .math
  executionStatus := .providerFailed
  latencyMs := 1
  errorType := some .authenticationError

/-- A run that a refused credential breaks off. -/
def brokenOff (runId : String) (startedAt : Int) (completed : List String) (refused : String) :
    RunFields Datetime where
  provider := "openai"
  model := "gpt"
  runId
  suiteId := "smoke"
  suiteVersion := "2"
  suiteFingerprint := fourCasesDigest
  config := {}
  startedAt := .utc startedAt
  finishedAt := .utc (startedAt + 1)
  status := .completedWithFailures
  totalCases := 4
  completedCases := completed.length
  executionFailedCases := 1
  terminatedEarly := true
  caseResults := completed.map evaluatedResult ++ [refusedResult refused]

def longerRun : RunFields Datetime := brokenOff "run-1" 1 ["first", "second"] "third"

/-- The later of the two reaches the first case only. -/
def shorterRun : RunFields Datetime := brokenOff "run-2" 3 [] "first"

def aggregated (originals : List (RunFields Datetime)) :
    Except PyError (QualitySnapshot fourCasePlatform.float) :=
  aggregateQuality fourCasePlatform fourCases originals ⟨"openai", "gpt"⟩ (.utc 9)

private theorem brokenOff_counts : (aggregated [shorterRun, longerRun, shorterRun]).toOption.map
    (fun snapshot => (snapshot.observedCases, snapshot.evaluatedCases, snapshot.sourceRunIds)) =
      some (3, 1, ["run-1", "run-2"]) := by
  decide +kernel

private theorem brokenOff_evidence :
    ["first", "second", "third", "fourth"].map (evidence ([shorterRun, longerRun,
      shorterRun].filterMap fun original => (BenchmarkRun.modelValidate original).toOption)) =
    [some (refusedResult "first"), some (evaluatedResult "second"),
      some (refusedResult "third"), none] := by
  decide +kernel

private theorem filterMap_of_validated (validated : List.Forall₂ Validates originals history) :
    history = originals.filterMap fun original =>
      (BenchmarkRun.modelValidate original).toOption := by
  induction validated with
  | nil => rfl
  | cons first _ ih =>
    rw [List.filterMap_cons, first, ← ih]
    rfl

/-- Of two runs that overlap in the first case, the later decides it. -/
theorem broken_off_runs_aggregated : ∃ snapshot history,
    aggregated [shorterRun, longerRun, shorterRun] = .ok snapshot ∧
    aggregated [longerRun, shorterRun] = .ok snapshot ∧
    Aggregated fourCasePlatform fourCases ⟨"openai", "gpt"⟩ [shorterRun, longerRun, shorterRun]
      history snapshot ∧
    (snapshot.observedCases, snapshot.evaluatedCases, snapshot.sourceRunIds) =
      (3, 1, ["run-1", "run-2"]) ∧
    (∃ run, LatestAttempt history "first" run (refusedResult "first")) ∧
    ∃ run, LatestAttempt history "second" run (evaluatedResult "second") := by
  obtain ⟨snapshot, returned, counts⟩ := Option.map_eq_some_iff.mp brokenOff_counts
  have returned := toOption_eq_some_iff.mp returned
  obtain ⟨latest, same, _⟩ := aggregate_is_latest_attempt fourCasePlatform fourCases
    ⟨"openai", "gpt"⟩ (.utc 9)
  obtain ⟨history, reference, attempt⟩ := latest _ snapshot returned
  have seen := brokenOff_evidence
  rw [← filterMap_of_validated reference.validated] at seen
  simp only [List.map_cons, List.map_nil, List.cons.injEq] at seen
  have twice : (aggregated [longerRun, shorterRun]).toOption = some snapshot := by
    rw [← toOption_eq_some_iff.mpr returned]
    apply same
    simp [or_comm]
  exact ⟨snapshot, history, returned, toOption_eq_some_iff.mp twice, reference, counts,
    (attempt _ _).mp seen.1, (attempt _ _).mp seen.2.1⟩

end BrokenOffRuns

end Aggregation
end ModelPilot.QualityReference
