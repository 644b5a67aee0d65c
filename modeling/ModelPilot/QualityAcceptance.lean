import Mathlib.Algebra.Order.BigOperators.Group.List
import ModelPilot.QualityReference

/-! The self-consistency checks of the snapshot models accept what the
aggregation computes: from a compatible history it always builds a snapshot. -/
namespace ModelPilot.QualityReference
open QualityAggregation

section Partition
variable {α κ : Type*} [DecidableEq κ] {keys : List κ} {key : α → κ}

private theorem sum_indicator (distinct : keys.Nodup) (name : κ) :
    (keys.map fun k => if name = k then (1 : Int) else 0).sum = if name ∈ keys then 1 else 0 := by
  induction keys with
  | nil => rfl
  | cons head rest ih =>
    obtain ⟨fresh, tail⟩ := List.nodup_cons.mp distinct
    rw [List.map_cons, List.sum_cons, ih tail]
    by_cases same : name = head
    · subst same
      simp [fresh]
    · simp [same]

/-- Counting by key counts every item once. -/
theorem sum_lengths (distinct : keys.Nodup) (items : List α)
    (complete : ∀ item ∈ items, key item ∈ keys) (wanted : α → Bool) :
    (keys.map fun k => (((items.filter (key · = k)).filter wanted).length : Int)).sum =
      (items.filter wanted).length := by
  induction items with
  | nil => simp
  | cons item rest ih =>
    have later := ih fun other member => complete other (List.mem_cons_of_mem _ member)
    by_cases chosen : wanted item = true
    · have split : ∀ k, ((((item :: rest).filter (key · = k)).filter wanted).length : Int) =
          (if key item = k then 1 else 0) + ((rest.filter (key · = k)).filter wanted).length := by
        intro k
        by_cases same : key item = k
        · simp [same, chosen, add_comm]
        · simp [same]
      simp only [split, List.sum_map_add, later, sum_indicator distinct,
        if_pos (complete item List.mem_cons_self)]
      simp [chosen, add_comm]
    · have split : ∀ k, ((item :: rest).filter (key · = k)).filter wanted =
          (rest.filter (key · = k)).filter wanted := by
        intro k
        by_cases same : key item = k <;> simp [same, chosen]
      simp only [split, later]
      simp [chosen]

end Partition

section Metrics
variable {float : Rounding} {cases : List BenchmarkCase}
  {evidence : String → Option BenchmarkCaseResult}

/-- Evidence whose evaluations score within the unit interval. -/
def Scored (evidence : String → Option BenchmarkCaseResult) : Prop :=
  ∀ case_ evaluation, evaluationOf evidence case_ = some evaluation →
    Rounding.InUnit evaluation.score

private theorem sum_pos {items : List BenchmarkCase} (nonempty : items ≠ [])
    (weights : ∀ case_ ∈ items, 0 < case_.weight) : 0 < (items.map (·.weight)).sum := by
  apply List.sum_pos
  · intro weight member
    obtain ⟨case_, inside, rfl⟩ := List.mem_map.mp member
    exact weights case_ inside
  · simpa using nonempty

private theorem sum_filter_le (weights : ∀ case_ ∈ cases, 0 < case_.weight)
    (wanted : BenchmarkCase → Bool) :
    ((cases.filter wanted).map (·.weight)).sum ≤ (cases.map (·.weight)).sum := by
  induction cases with
  | nil => exact le_refl _
  | cons case_ rest ih =>
    have head := weights case_ List.mem_cons_self
    have tail := ih fun other member => weights other (List.mem_cons_of_mem _ member)
    by_cases chosen : wanted case_ = true
    · simpa [chosen] using tail
    · simp only [List.filter_cons, chosen, List.map_cons, List.sum_cons]
      exact le_trans tail (by linarith)

theorem confidence_unit (float : Rounding) (evaluated : Int)
    (weighted : Rounding.InUnit coverage) (complete : Rounding.InUnit completeness) :
    Rounding.InUnit (confidenceOf float evaluated coverage completeness) := by
  have clamped : Rounding.InUnit (max 0 (min 1 (float.div ((evaluated : ℚ) - 5) 45))) :=
    ⟨le_max_left _ _, max_le zero_le_one (min_le_left _ _)⟩
  exact float.mul_unit (float.mul_unit clamped weighted) complete

theorem evaluated_le_observed :
    (evaluatedOf evidence cases).length ≤ (observedOf evidence cases).length := by
  rw [evaluatedOf, observedOf, ← List.countP_eq_length_filter, ← List.countP_eq_length_filter]
  apply List.countP_mono_left
  intro case_ _ evaluated
  obtain ⟨evaluation, found⟩ := Option.isSome_iff_exists.mp evaluated
  obtain ⟨result, held, _⟩ := Option.bind_eq_some_iff.mp found
  simp [held]

private theorem weighted_bounds {evaluated : List BenchmarkCase}
    (weights : ∀ case_ ∈ evaluated, 0 < case_.weight) (scored : Scored evidence) :
    0 ≤ (evaluated.map fun case_ =>
        case_.weight * (evaluationOf evidence case_).elim 0 (·.score)).sum ∧
      (evaluated.map fun case_ =>
        case_.weight * (evaluationOf evidence case_).elim 0 (·.score)).sum ≤
        (evaluated.map (·.weight)).sum := by
  have unit : ∀ case_, Rounding.InUnit ((evaluationOf evidence case_).elim 0 (·.score)) := by
    intro case_
    cases found : evaluationOf evidence case_ with
    | none => exact ⟨le_refl _, zero_le_one⟩
    | some evaluation => exact scored case_ evaluation found
  constructor
  · apply List.sum_nonneg
    intro term member
    obtain ⟨case_, inside, rfl⟩ := List.mem_map.mp member
    exact mul_nonneg (le_of_lt (weights case_ inside)) (unit case_).1
  · apply List.sum_le_sum
    intro case_ inside
    exact mul_le_of_le_one_right (le_of_lt (weights case_ inside)) (unit case_).2

/-- The metrics of an evidence pass their own checks. -/
theorem metricsOf_check (nonempty : cases ≠ []) (weights : ∀ case_ ∈ cases, 0 < case_.weight)
    (scored : Scored evidence) : (metricsOf float cases evidence).check float = .ok () := by
  have total : 0 < cases.length := List.length_pos_iff.mpr nonempty
  have totalRat : (0 : ℚ) < cases.length := by exact_mod_cast total
  have nested : (evaluatedOf evidence cases).length ≤ (observedOf evidence cases).length :=
    evaluated_le_observed
  have within : (observedOf evidence cases).length ≤ cases.length := List.length_filter_le _ _
  have subset : ∀ case_ ∈ evaluatedOf evidence cases, 0 < case_.weight :=
    fun case_ member => weights case_ (List.mem_of_mem_filter member)
  have whole := sum_pos nonempty weights
  have part : ((evaluatedOf evidence cases).map (·.weight)).sum ≤ (cases.map (·.weight)).sum :=
    sum_filter_le weights _
  have partNonneg : 0 ≤ ((evaluatedOf evidence cases).map (·.weight)).sum := by
    apply List.sum_nonneg
    intro weight member
    obtain ⟨case_, inside, rfl⟩ := List.mem_map.mp member
    exact le_of_lt (subset case_ inside)
  have share : ∀ {count : Nat}, count ≤ cases.length →
      Rounding.InUnit (float.div count cases.length) := fun bound =>
    float.div_unit (Nat.cast_nonneg _) (by exact_mod_cast bound) totalRat
  have coverage := float.div_unit partNonneg part whole
  have completeness := share (nested.trans within)
  have none_iff : evaluatedOf evidence cases = [] ↔ (evaluatedOf evidence cases).length = 0 :=
    List.length_eq_zero_iff.symm
  simp only [QualityMetrics.check, QualityMetrics.checkRatio, then_ok_iff, require_ok_iff,
    checkSome_ok_iff]
  simp only [metricsOf, Int.cast_natCast]
  refine ⟨fun quality stored => ?_, share within, completeness, coverage,
    confidence_unit float _ coverage completeness, by omega, by omega, by omega, by omega,
    ⟨by omega, by omega⟩, trivial, ?_, trivial, trivial, fun zero => ?_, fun full => ?_, trivial⟩
  · split at stored
    · cases stored
    rename_i some_evaluated
    cases stored
    have bounds := weighted_bounds subset scored
    exact float.div_unit bounds.1 bounds.2 (sum_pos some_evaluated subset)
  · by_cases empty : evaluatedOf evidence cases = []
    · rw [if_pos empty, empty]
      simp
    · rw [if_neg empty]
      have some_evaluated : (evaluatedOf evidence cases).length ≠ 0 := fun zero =>
        empty (none_iff.mpr zero)
      simpa using some_evaluated
  · have empty : evaluatedOf evidence cases = [] := none_iff.mpr (by exact_mod_cast zero)
    rw [empty]
    exact float.div_nothing _
  · have every : evaluatedOf evidence cases = cases :=
      List.filter_sublist.eq_of_length (by exact_mod_cast full)
    rw [every]
    exact float.div_whole whole

end Metrics

section Snapshot
variable {platform : Platform} {suite : BenchmarkSuite platform.texts} {target : BenchmarkTarget}
  {history : List BenchmarkRun} {run : BenchmarkRun} {result : BenchmarkCaseResult}

theorem evidence_scored (history : List BenchmarkRun) : Scored (evidence history) := by
  intro case_ evaluation found
  obtain ⟨result, held, evaluated⟩ := Option.bind_eq_some_iff.mp found
  obtain ⟨run, _, located⟩ := Option.bind_eq_some_iff.mp held
  have checked := run.wellFormed.results result (find_result_iff.mp located).1
  simp only [BenchmarkCaseResult.check, then_ok_iff, checkSome_ok_iff] at checked
  have passed := checked.2.2.2.2.2.2.1 evaluation evaluated
  simp only [CaseEvaluation.check, then_ok_iff, require_ok_iff] at passed
  exact passed.2.1

theorem evidence_isSome (caseId : String) :
    (evidence history caseId).isSome = (latestRun history caseId).isSome := by
  cases latest : latestRun history caseId with
  | none => simp [evidence, latest]
  | some run =>
    obtain ⟨_, result, inside, named⟩ := latestRun_mem latest
    simp [evidence, latest, find_result_iff.mpr ⟨inside, named⟩]

/-- The newest run is the latest attempt at every case it contains. -/
theorem evidence_of_newest (accepted : Accepted platform suite target history)
    (newest : greatest rank history = some run) (member : result ∈ run.caseResults) :
    latestRun history result.caseId = some run ∧
      evidence history result.caseId = some result := by
  have inside : run ∈ history := greatest_mem newest
  have latest : LatestAttempt history result.caseId run result :=
    ⟨⟨inside, member, rfl⟩, fun _ _ attempt => le_greatest newest attempt.run_mem⟩
  obtain ⟨chosen, found⟩ := (latestRun_iff (rank_injective accepted)).mpr latest
  exact ⟨chosen, by rw [evidence, chosen, Option.bind_some, found]⟩

/-- A case result has an evaluation exactly when it completed. -/
theorem evaluation_isSome (run : BenchmarkRun) (member : result ∈ run.caseResults) :
    result.evaluation.isSome = decide (result.executionStatus = .completed) := by
  have checked := run.wellFormed.results result member
  simp only [BenchmarkCaseResult.check, then_ok_iff] at checked
  have consistent := checked.2.2.2.2.2.2.2
  unfold BenchmarkCaseResult.consistentExecution at consistent
  cases status : result.executionStatus with
  | completed =>
    rw [status] at consistent
    simp [(require_ok_iff.mp consistent).1]
  | providerFailed =>
    rw [status] at consistent
    simp [(require_ok_iff.mp consistent).1]

/-- The newest run has no more results and no more completed results than the
combined evidence. -/
theorem newest_counts (accepted : Accepted platform suite target history)
    (newest : greatest rank history = some run) :
    run.caseResults.length ≤ (observedOf (evidence history) suite.cases).length ∧
      run.completedResults ≤ (evaluatedOf (evidence history) suite.cases).length := by
  have contained := (results_in_order (accepted.fits run (greatest_mem newest))).sublist
  have counted : ∀ (wanted : BenchmarkCaseResult → Bool) (known : String → Bool),
      (∀ result ∈ run.caseResults, wanted result → known result.caseId) →
      run.caseResults.countP wanted ≤ (suite.cases.filter fun case_ => known case_.caseId).length := by
    intro wanted known implied
    calc run.caseResults.countP wanted
        ≤ run.caseResults.countP fun result => known result.caseId :=
          List.countP_mono_left implied
      _ = (run.caseResults.map (·.caseId)).countP known := by rw [List.countP_map]; rfl
      _ ≤ (suite.cases.map (·.caseId)).countP known := contained.countP_le
      _ = _ := by rw [List.countP_map, List.countP_eq_length_filter]; rfl
  constructor
  · have whole : run.caseResults.countP (fun _ => true) = run.caseResults.length := by simp
    rw [← whole]
    apply counted _ fun caseId => (evidence history caseId).isSome
    intro result member _
    simp [(evidence_of_newest accepted newest member).2]
  · apply counted _ fun caseId => ((evidence history caseId).bind (·.evaluation)).isSome
    intro result member completed
    rw [(evidence_of_newest accepted newest member).2, Option.bind_some,
      evaluation_isSome run member]
    exact completed

theorem mem_sources {id : String} :
    id ∈ (snapshotOf platform suite target history at_).sourceRunIds ↔
      ∃ case_ ∈ suite.cases, ∃ run, latestRun history case_.caseId = some run ∧
        run.runId = id := by
  simp [snapshotOf, SnapshotFields.sortedSet, mem_sortedBy]

theorem sources_eq_nil (platform : Platform) (suite : BenchmarkSuite platform.texts)
    (target : BenchmarkTarget) (history : List BenchmarkRun) (at_ : Int) :
    (snapshotOf platform suite target history at_).sourceRunIds = [] ↔
      (observedOf (evidence history) suite.cases).length = 0 := by
  rw [List.eq_nil_iff_forall_not_mem, List.length_eq_zero_iff, observedOf, List.filter_eq_nil_iff]
  simp only [mem_sources, evidence_isSome]
  constructor
  · intro unused case_ member latest
    obtain ⟨run, chosen⟩ := Option.isSome_iff_exists.mp latest
    exact unused run.runId ⟨case_, member, run, chosen, rfl⟩
  · rintro unseen id ⟨case_, member, run, chosen, _⟩
    exact unseen case_ member (by rw [chosen, Option.isSome_some])

/-- The newest run is a source. -/
theorem newest_source (at_ : Int) (accepted : Accepted platform suite target history)
    (newest : greatest rank history = some run) :
    run.runId ∈ (snapshotOf platform suite target history at_).sourceRunIds := by
  obtain ⟨result, member⟩ := List.exists_mem_of_ne_nil _ run.wellFormed.nonempty
  have contained := results_in_order (accepted.fits run (greatest_mem newest))
  obtain ⟨case_, listed, named⟩ :=
    List.mem_map.mp (contained.subset (List.mem_map_of_mem member))
  refine mem_sources.mpr ⟨case_, listed, run, ?_, rfl⟩
  rw [named]
  exact (evidence_of_newest accepted newest member).1

theorem latest_check (accepted : Accepted platform suite target history) :
    (snapshotOf platform suite target history at_).consistentLatest = .ok () := by
  have counted : (snapshotOf platform suite target history at_).sourceRunCount =
      (snapshotOf platform suite target history at_).sourceRunIds.length := rfl
  unfold SnapshotFields.consistentLatest
  cases newest : greatest rank history with
  | none =>
    have empty : history = [] := greatest_eq_none.mp newest
    have sourceless : (snapshotOf platform suite target history at_).sourceRunIds = [] := by
      rw [List.eq_nil_iff_forall_not_mem]
      intro id source
      obtain ⟨_, _, run, chosen, _⟩ := mem_sources.mp source
      simpa [empty] using (latestRun_mem chosen).1
    rw [if_neg (by rw [counted, sourceless]; simp), require_ok_iff]
    simp [snapshotOf, newest]
  | some run =>
    have source := newest_source at_ accepted newest
    rw [if_pos (by rw [counted]; exact_mod_cast List.length_pos_of_mem source |>.ne')]
    have positive : (0 : ℚ) < suite.cases.length := by
      exact_mod_cast List.length_pos_iff.mpr suite.facts.nonempty
    obtain ⟨observed, evaluated⟩ := newest_counts accepted newest
    simp only [snapshotOf] at source
    simp only [snapshotOf, newest, Option.map_some, then_ok_iff, require_ok_iff, Option.any_some,
      Option.isSome_some, decide_eq_true_eq, and_true, metricsOf, run.wellFormed.completed]
    refine ⟨source, ⟨?_, ?_⟩, ?_⟩
    · exact platform.float.div_mono (by exact_mod_cast run.completedResults_le) positive
    · exact platform.float.div_mono (by exact_mod_cast observed) positive
    · exact platform.float.div_mono (by exact_mod_cast evaluated) positive

theorem mem_categoriesOf_iff {cases : List BenchmarkCase} {category : BenchmarkCategory} :
    category ∈ categoriesOf cases ↔ ∃ case_ ∈ cases, case_.category = category := by
  rw [categoriesOf, Dict.mem_keys_ofList, List.map_map]
  exact List.mem_map

theorem categoriesOf_nodup (cases : List BenchmarkCase) : (categoriesOf cases).Nodup :=
  Dict.keys_nodup _

/-- The counts of the categories add up to the overall counts. -/
theorem category_sums (float : Rounding) (cases : List BenchmarkCase)
    (evidence : String → Option BenchmarkCaseResult) (count : QualityMetrics → Int)
    (wanted : BenchmarkCase → Bool)
    (counts : ∀ some_cases, count (metricsOf float some_cases evidence) =
      (some_cases.filter wanted).length) :
    ((categoriesOf cases).map fun category =>
      count (metricsOf float (cases.filter (·.category = category)) evidence)).sum =
        count (metricsOf float cases evidence) := by
  simp only [counts]
  exact sum_lengths (categoriesOf_nodup cases) cases
    (fun case_ member => mem_categoriesOf_iff.mpr ⟨case_, member, rfl⟩) wanted

theorem sortedSet_idem (values : List String) :
    SnapshotFields.sortedSet (SnapshotFields.sortedSet values) =
      SnapshotFields.sortedSet values := by
  apply sortedSet_congr
  intro id
  simp [SnapshotFields.sortedSet, mem_sortedBy]

theorem provenance_check (accepted : Accepted platform suite target history) :
    (snapshotOf platform suite target history at_).consistentProvenance = .ok () := by
  have names : (snapshotOf platform suite target history at_).categories.map (·.category) =
      categoriesOf suite.cases := by
    simp [snapshotOf, List.map_map, Function.comp_def]
  have sums : ∀ count : QualityMetrics → Int,
      ((snapshotOf platform suite target history at_).categories.map
        fun category => count category.toQualityMetrics).sum =
      ((categoriesOf suite.cases).map fun category => count (metricsOf platform.float
        (suite.cases.filter (·.category = category)) (evidence history))).sum := by
    intro count
    simp [snapshotOf, List.map_map, Function.comp_def]
  have total := category_sums platform.float suite.cases (evidence history) (·.totalCases)
    (fun _ => true) fun _ => by simp [metricsOf]
  have observed := category_sums platform.float suite.cases (evidence history) (·.observedCases)
    _ fun _ => rfl
  have evaluated := category_sums platform.float suite.cases (evidence history)
    (·.evaluatedCases) _ fun _ => rfl
  have failed : ((categoriesOf suite.cases).map fun category => (metricsOf platform.float
        (suite.cases.filter (·.category = category)) (evidence history)).executionFailedCases).sum +
      ((categoriesOf suite.cases).map fun category => (metricsOf platform.float
        (suite.cases.filter (·.category = category)) (evidence history)).evaluatedCases).sum =
      ((categoriesOf suite.cases).map fun category => (metricsOf platform.float
        (suite.cases.filter (·.category = category)) (evidence history)).observedCases).sum := by
    rw [← List.sum_map_add]
    simp [metricsOf]
  have sourced : (snapshotOf platform suite target history at_).sourceRunCount ≠ 0 ↔
      (snapshotOf platform suite target history at_).observedCases ≠ 0 := by
    have sources := sources_eq_nil platform suite target history at_
    have counted : (snapshotOf platform suite target history at_).sourceRunCount =
        (snapshotOf platform suite target history at_).sourceRunIds.length := rfl
    have seen : (snapshotOf platform suite target history at_).observedCases =
        (observedOf (evidence history) suite.cases).length := rfl
    rw [← List.length_eq_zero_iff] at sources
    omega
  simp only [SnapshotFields.consistentProvenance, then_ok_iff, require_ok_iff, names, sums,
    latest_check accepted, true_and]
  refine ⟨(sortedSet_idem _).symm, rfl, sourced, categoriesOf_nodup _, total, observed,
    evaluated, ?_⟩
  rw [evaluated, observed] at failed
  exact eq_sub_of_add_eq failed

/-- The reference value of an accepted history passes every check of the
snapshot models. -/
theorem snapshotOf_check (accepted : Accepted platform suite target history) :
    (snapshotOf platform suite target history at_).check platform.float = .ok () := by
  have facts := suite.facts
  have scored := evidence_scored history
  have identified : ∀ id ∈ (snapshotOf platform suite target history at_).sourceRunIds,
      isIdentifier id = true := by
    intro id source
    obtain ⟨_, _, run, _, rfl⟩ := mem_sources.mp source
    exact run.wellFormed.runId
  have latestId : ∀ id, (snapshotOf platform suite target history at_).latestRunId = some id →
      isIdentifier id = true := by
    intro id latest
    obtain ⟨run, _, rfl⟩ := Option.map_eq_some_iff.mp latest
    exact run.wellFormed.runId
  have config : ∀ held, (snapshotOf platform suite target history at_).runConfig = some held →
      held.check = .ok () := by
    intro held latest
    obtain ⟨run, _, rfl⟩ := Option.map_eq_some_iff.mp latest
    exact run.wellFormed.config
  have positive : (0 : ℚ) < suite.cases.length := by
    exact_mod_cast List.length_pos_iff.mpr facts.nonempty
  have share : ∀ run ∈ history, ∀ count : Int, 0 ≤ count → count ≤ run.caseResults.length →
      Rounding.InUnit (platform.float.div count suite.cases.length) := by
    intro run member count nonneg bound
    have total := (accepted.fits run member).total
    have within := run.wellFormed.within
    have whole : count ≤ (suite.cases.length : Int) := by omega
    exact platform.float.div_unit (by exact_mod_cast nonneg) (by exact_mod_cast whole) positive
  have coverage : ∀ ratio, (snapshotOf platform suite target history at_).latestRunCoverage =
      some ratio → Rounding.InUnit ratio := by
    intro ratio latest
    obtain ⟨run, newest, rfl⟩ := Option.map_eq_some_iff.mp latest
    exact share run (greatest_mem newest) run.caseResults.length (by omega) (by omega)
  have completeness : ∀ ratio,
      (snapshotOf platform suite target history at_).latestRunCompleteness = some ratio →
      Rounding.InUnit ratio := by
    intro ratio latest
    obtain ⟨run, newest, rfl⟩ := Option.map_eq_some_iff.mp latest
    have completed := run.wellFormed.completed
    have bound := run.completedResults_le
    exact share run (greatest_mem newest) run.completedCases (by omega) (by omega)
  have categories : ∀ category ∈ (snapshotOf platform suite target history at_).categories,
      category.toQualityMetrics.check platform.float = .ok () := by
    intro snapshot member
    obtain ⟨category, used, rfl⟩ := List.mem_map.mp member
    obtain ⟨case_, listed, named⟩ := mem_categoriesOf_iff.mp used
    exact metricsOf_check
      (List.ne_nil_of_mem (List.mem_filter.mpr ⟨listed, by simpa using named⟩))
      (fun other chosen => facts.weights other (List.mem_of_mem_filter chosen)) scored
  simp only [SnapshotFields.check, SnapshotFields.checkIdentifier, QualityMetrics.checkRatio,
    then_ok_iff, require_ok_iff, checkAll_ok_iff, checkSome_ok_iff, provenance_check accepted]
  exact ⟨target.valid, facts.suiteId, facts.version, platform.digest suite, rfl, config,
    Int.natCast_nonneg _, identified, latestId, coverage, completeness, categories,
    metricsOf_check facts.nonempty facts.weights scored, trivial⟩

variable {state : Gathered} {generatedAt : Datetime} {originals : List (RunFields Datetime)}

theorem metrics_ok (float : Rounding) (cases : List BenchmarkCase)
    {dict : Dict String BenchmarkCaseResult} (nonempty : cases ≠ [])
    (weights : ∀ case_ ∈ cases, 0 < case_.weight) (scored : Scored dict.get?) :
    metrics float cases dict = .ok (metricsOf float cases dict.get?) := by
  rw [metrics_eq nonempty, metricsOf_check nonempty weights scored]
  rfl

theorem categorySnapshots_ok (float : Rounding) {cases : List BenchmarkCase}
    {dict : Dict String BenchmarkCaseResult} {names : List BenchmarkCategory}
    (used : ∀ category ∈ names, ∃ case_ ∈ cases, case_.category = category)
    (weights : ∀ case_ ∈ cases, 0 < case_.weight) (scored : Scored dict.get?) :
    ∃ snapshots, categorySnapshots float cases dict names = .ok snapshots := by
  induction names with
  | nil => exact ⟨[], rfl⟩
  | cons category rest ih =>
    obtain ⟨snapshots, later⟩ := ih fun other member => used other (List.mem_cons_of_mem _ member)
    obtain ⟨case_, listed, named⟩ := used category List.mem_cons_self
    have own := metrics_ok float (cases.filter (·.category = category))
      (List.ne_nil_of_mem (List.mem_filter.mpr ⟨listed, by simpa using named⟩))
      (fun other chosen => weights other (List.mem_of_mem_filter chosen)) scored
    rw [categorySnapshots, own, later]
    exact ⟨_, rfl⟩

/-- From a compatible history the aggregation always builds its snapshot. -/
theorem summarize_ok (holds : Holds history state)
    (accepted : Accepted platform suite target history)
    (reading : generatedAt.astimezone = .ok at_) :
    ∃ snapshot, summarize platform suite target state generatedAt = .ok snapshot ∧
      snapshot.toSnapshotFields = snapshotOf platform suite target history at_ := by
  have scored : Scored (replayed (fun _ result => result)
      (sortedBy rank state.unique.values)).get? := by
    rw [get?_evidence holds accepted]
    exact evidence_scored history
  have first := metrics_ok platform.float suite.cases suite.facts.nonempty suite.facts.weights scored
  obtain ⟨snapshots, later⟩ := categorySnapshots_ok platform.float
    (fun category => mem_categoriesOf_iff.mp) suite.facts.weights scored
  rw [summarize_eq holds accepted first later]
  have range := (Datetime.astimezone_ok_iff.mp reading).2
  exact ⟨⟨_, snapshotOf_check accepted, range⟩,
    QualitySnapshot.modelValidate_ok_iff.mpr ⟨reading, rfl⟩, rfl⟩

/-- The aggregation returns exactly on histories it accepts as a whole. -/
theorem aggregate_ok (validated : List.Forall₂ Validates originals history)
    (accepted : Accepted platform suite target history)
    (reading : generatedAt.astimezone = .ok at_) :
    ∃ snapshot, aggregateQuality platform suite.toSuiteFields originals target.toTargetFields
        generatedAt = .ok snapshot ∧
      snapshot.toSnapshotFields = snapshotOf platform suite target history at_ := by
  have empty : Accepted platform suite target [] := ⟨by simp, by simp, by simp⟩
  obtain ⟨state, ended⟩ := (gather_ok_iff empty holds_empty).mpr ⟨history, validated, accepted⟩
  have holds := gather_holds empty holds_empty validated ended
  obtain ⟨snapshot, built, value⟩ := summarize_ok holds accepted reading
  refine ⟨snapshot, ?_, value⟩
  exact bind_ok_iff.mpr ⟨suite, suite.modelValidate_self, bind_ok_iff.mpr
    ⟨target, target.modelValidate_self, bind_ok_iff.mpr ⟨state, ended, built⟩⟩⟩

end Snapshot
end ModelPilot.QualityReference
