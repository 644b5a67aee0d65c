import ModelPilot.BenchmarkExecution
import ModelPilot.BenchmarkStoreProofs
import ModelPilot.QualityAcceptance

/-! Runner, store and aggregation together (`benchmarks/resolver.py`): what the
runner produced and the store kept always passes the checks of the aggregation. -/
namespace ModelPilot.BenchmarkPipeline
open BenchmarkStore QualityAggregation QualityReference

/-- A resolver: its suite, validated, over the tables of a store. -/
structure BenchmarkQualityResolver (platform : Platform) where
  suite : BenchmarkSuite platform.texts

namespace BenchmarkQualityResolver
variable {platform : Platform}

/-- `suite_identity`, as the scope of one target. -/
def scope (resolver : BenchmarkQualityResolver platform) (provider model : String) : Scope where
  provider
  model
  suiteId := resolver.suite.suiteId
  suiteVersion := resolver.suite.version
  suiteFingerprint := platform.fingerprint resolver.suite

/-- `get_quality_snapshot`; `reading` is what the clock shows. -/
def getQualitySnapshot (resolver : BenchmarkQualityResolver platform) (tables : Tables)
    (reading : Datetime) (provider model : String) :
    Except PyError (Option (QualitySnapshot platform.float)) := do
  let runs ← listMatchingRuns tables (resolver.scope provider model)
  if runs = [] then .ok none
  else do
    let target ← BenchmarkTarget.modelValidate { provider, model }
    let snapshot ← aggregateQuality platform resolver.suite.toSuiteFields
      (runs.map (·.modelDump)) target.toTargetFields reading
    .ok (some snapshot)

end BenchmarkQualityResolver

/-! ### What the runner produces -/

section Produced
variable {platform : Platform} {suite : BenchmarkSuite platform.texts} {target : BenchmarkTarget}
  {run : BenchmarkRun}

/-- Some execution of the runner produced the run. -/
def Produced (platform : Platform) (suite : BenchmarkSuite platform.texts)
    (target : BenchmarkTarget) (run : BenchmarkRun) : Prop :=
  ∃ provider config context,
    BenchmarkRunner.run platform suite target provider config context = .ok run

theorem evaluateCase_provenance {texts : AnswerTexts} {spec : EvaluatorSpec}
    (evaluated : evaluateCase texts spec answer = .ok evaluation) :
    evaluation.evaluatorKind = spec.kind ∧
      evaluation.evaluatorVersion = spec.evaluatorVersion := by
  obtain ⟨version, evaluated⟩ := then_ok_iff.mp evaluated
  obtain ⟨_, evaluated⟩ := then_ok_iff.mp evaluated
  obtain ⟨_, evaluated⟩ := then_ok_iff.mp evaluated
  cases evaluated
  exact ⟨rfl, (require_ok_iff.mp version).symm⟩

theorem evaluateOutcome_provenance {texts : AnswerTexts} {case_ : BenchmarkCase}
    (evaluated : BenchmarkRunner.evaluateOutcome texts case_ outcome =
      .ok (some evaluation, errorType)) :
    evaluation.evaluatorKind = case_.evaluator.kind ∧
      evaluation.evaluatorVersion = case_.evaluator.evaluatorVersion := by
  unfold BenchmarkRunner.evaluateOutcome at evaluated
  split at evaluated
  · split at evaluated
    · cases evaluated
    split at evaluated
    · cases evaluated
    · rename_i text _
      cases verdict : evaluateCase texts case_.evaluator text with
      | error error =>
        rw [verdict] at evaluated
        cases evaluated
      | ok held =>
        rw [verdict] at evaluated
        cases evaluated
        exact evaluateCase_provenance verdict
  · cases evaluated

/-- A case result is about its case and from its evaluator. -/
theorem settleCase_matches {texts : AnswerTexts} {case_ : BenchmarkCase}
    (settled : BenchmarkRunner.settleCase texts target case_ reply = .ok result) :
    matchCase (case_, result) = .ok () := by
  unfold BenchmarkRunner.settleCase at settled
  split at settled
  · cases settled
  · obtain ⟨_, settled⟩ := then_ok_iff.mp settled
    cases settled
    simp [matchCase, then_ok_iff, BenchmarkRunner.caseResult]
  · rename_i outcome
    split at settled
    · cases settled
    obtain ⟨⟨evaluation, errorType⟩, evaluated, settled⟩ := bind_ok_iff.mp settled
    obtain ⟨_, settled⟩ := then_ok_iff.mp settled
    cases settled
    simp only [matchCase, then_ok_iff, require_ok_iff, checkSome_ok_iff,
      BenchmarkRunner.caseResult, true_and]
    rintro held rfl
    obtain ⟨kind, version⟩ := evaluateOutcome_provenance evaluated
    rw [kind, version]

theorem runCases_match {texts : AnswerTexts} {config : BenchmarkRunConfig}
    {provider : BenchmarkRunner.CaseProvider} {cases : List BenchmarkCase}
    (ended : BenchmarkRunner.runCases texts target config provider position cases = .ok results) :
    ∀ entry ∈ cases.zip results, matchCase entry = .ok () := by
  induction cases generalizing position results with
  | nil => simp
  | cons case_ rest ih =>
    obtain ⟨result, settled, ended⟩ := bind_ok_iff.mp ended
    have head := settleCase_matches settled
    split at ended
    · cases ended
      simpa using head
    · obtain ⟨others, later, ended⟩ := bind_ok_iff.mp ended
      cases ended
      intro entry member
      rcases List.mem_cons.mp member with rfl | inside
      · exact head
      · exact ih later entry inside

/-- A produced run passes every compatibility check against its suite and
target, and its suite was no longer than the configuration allows. -/
theorem produced_fits (produced : Produced platform suite target run) :
    Fits platform suite target run ∧ run.totalCases ≤ run.config.maxCases := by
  obtain ⟨provider, config, context, ended⟩ := produced
  obtain ⟨_, ended⟩ := then_ok_iff.mp ended
  obtain ⟨short, ended⟩ := then_ok_iff.mp ended
  obtain ⟨_, _, ended⟩ := bind_ok_iff.mp ended
  obtain ⟨results, completed, ended⟩ := bind_ok_iff.mp ended
  obtain ⟨_, _, ended⟩ := bind_ok_iff.mp ended
  obtain ⟨_, _, fields⟩ := BenchmarkRun.modelValidate_ok_iff.mp ended
  have read : ∀ {β} (field : RunFields Int → β), field _ = field run.toRunFields :=
    fun field => congrArg field fields
  refine ⟨⟨?_, ?_, ?_, ?_⟩, ?_⟩
  · exact (read fun held => held.toTargetFields.key).symm
  · exact (read fun held => (held.suiteId, held.suiteVersion, held.suiteFingerprint)).symm
  · exact (read (·.totalCases)).symm
  · rw [← read (·.caseResults)]
    exact runCases_match completed
  · rw [← read (·.totalCases), ← read (·.config)]
    exact require_ok_iff.mp short

end Produced

/-! ### What the store keeps -/

section Saved
variable {platform : Platform} {suite : BenchmarkSuite platform.texts} {target : BenchmarkTarget}
  {history : List BenchmarkRun} {run : BenchmarkRun}

/-- Token counts and configuration integers within 64 bits. -/
structure SmallIntegers (run : BenchmarkRun) : Prop where
  maxCases : Binds run.config.maxCases
  maxTokens : Binds run.config.maxTokens
  tokens : ∀ result ∈ run.caseResults,
    ∀ count ∈ [result.inputTokens, result.outputTokens, result.totalTokens],
      ∀ value ∈ count, Binds value

/-- A run no longer than its configuration allows has no other large integers. -/
theorem storable_of_small (small : SmallIntegers run)
    (short : run.totalCases ≤ run.config.maxCases) : Storable run := by
  have total := run.wellFormed.totalCases
  have most := small.maxCases
  unfold Binds at most
  exact storable_iff.mpr ⟨⟨by omega, by omega⟩, small.maxCases, small.maxTokens, small.tokens⟩

/-- The scope a run is saved under. -/
def scopeOf (run : BenchmarkRun) : Scope :=
  ⟨run.provider, run.model, run.suiteId, run.suiteVersion, run.suiteFingerprint⟩

end Saved

/-! ### What the resolver answers -/

section Answer
variable {platform : Platform} {resolver : BenchmarkQualityResolver platform}
  {target : BenchmarkTarget} {saved : List BenchmarkRun} {reading : Datetime}

/-- The saved runs of the resolver's suite and a target, as they are listed. -/
def matching (resolver : BenchmarkQualityResolver platform) (target : BenchmarkTarget)
    (saved : List BenchmarkRun) : List BenchmarkRun :=
  sortedBy rank (saved.filter (scopeOf · = resolver.scope target.provider target.model))

theorem mem_matching :
    run ∈ matching resolver target saved ↔
      run ∈ saved ∧ scopeOf run = resolver.scope target.provider target.model := by
  simp [matching, mem_sortedBy]

theorem matching_strict (distinct : (saved.map (·.runId)).Nodup) :
    (matching resolver target saved).Pairwise (rank · < rank ·) := by
  apply sortedBy_strict
  have ids : (((saved.filter (scopeOf · = resolver.scope target.provider target.model)).map
      rank).map fun key => (ofLex key).2).Nodup := by
    rw [List.map_map]
    exact distinct.sublist (List.filter_sublist.map _)
  exact ids.of_map

/-- The answer is the aggregation of the matching runs. -/
theorem answer_eq (distinct : (saved.map (·.runId)).Nodup) :
    resolver.getQualitySnapshot (encode saved) reading target.provider target.model =
      if matching resolver target saved = [] then .ok none
      else (aggregateQuality platform resolver.suite.toSuiteFields
        ((matching resolver target saved).map BenchmarkRun.modelDump) target.toTargetFields
          reading).map some := by
  have listed := listMatchingRuns_encode distinct (resolver.scope target.provider target.model)
  unfold BenchmarkQualityResolver.getQualitySnapshot
  rw [listed]
  change (if matching resolver target saved = [] then _ else _) = _
  split
  · rfl
  · rw [BenchmarkTarget.modelValidate_self]
    change (do
      let snapshot ← aggregateQuality platform resolver.suite.toSuiteFields
        ((matching resolver target saved).map BenchmarkRun.modelDump) target.toTargetFields reading
      Except.ok (some snapshot)) = _
    cases aggregateQuality platform resolver.suite.toSuiteFields
      ((matching resolver target saved).map BenchmarkRun.modelDump) target.toTargetFields
      reading <;> rfl

theorem dumps_validate (runs : List BenchmarkRun) :
    List.Forall₂ Validates (runs.map BenchmarkRun.modelDump) runs := by
  rw [List.forall₂_map_left_iff, List.forall₂_same]
  intro run _
  exact run.modelValidate_dump

/-- Produced runs of one configuration are a history the aggregation accepts. -/
theorem produced_accepted (distinct : (saved.map (·.runId)).Nodup)
    (produced : ∀ run ∈ matching resolver target saved,
      Produced platform resolver.suite target run)
    (oneConfig : ∀ a ∈ matching resolver target saved, ∀ b ∈ matching resolver target saved,
      a.config = b.config) :
    Accepted platform resolver.suite target (matching resolver target saved) where
  fits run member := (produced_fits (produced run member)).1
  oneConfig := oneConfig
  oneValue _ inA _ inB := List.inj_on_of_nodup_map distinct (mem_matching.mp inA).1
    (mem_matching.mp inB).1

theorem validated_unique {runs : List BenchmarkRun}
    (validated : List.Forall₂ Validates (runs.map BenchmarkRun.modelDump) others) : others = runs := by
  rw [List.forall₂_map_left_iff] at validated
  induction validated with
  | nil => rfl
  | cons first _ ih =>
    rename_i run other _ _ _
    have same : Except.ok other = Except.ok run := first.symm.trans run.modelValidate_dump
    rw [ih, Except.ok.inj same]

/-- What the resolver answers after some calls of `save_run`. -/
def answer (resolver : BenchmarkQualityResolver platform) (target : BenchmarkTarget)
    (reading : Datetime) (calls : List SaveCall) :
    Except PyError (Option (QualitySnapshot platform.float)) :=
  resolver.getQualitySnapshot (saveAll calls).tables reading target.provider target.model

/-- Runner, store and aggregation agree. After any calls of `save_run`, the
resolver answers nothing exactly when no run of its suite and the target is
saved; it answers a snapshot, and does not raise, when the runner produced these
runs with one configuration; it raises when two configurations differ; runs of
other suites or targets do not matter; and a produced run under a new
identifier is saved. -/
theorem pipeline_agrees (platform : Platform) (resolver : BenchmarkQualityResolver platform)
    (target : BenchmarkTarget) (reading : Datetime) (calls : List SaveCall) :
    (answer resolver target reading calls = .ok none ↔
      matching resolver target (saveAll calls).saved = []) ∧
    ((∀ run ∈ matching resolver target (saveAll calls).saved,
        Produced platform resolver.suite target run) →
      (∀ a ∈ matching resolver target (saveAll calls).saved,
        ∀ b ∈ matching resolver target (saveAll calls).saved, a.config = b.config) →
      matching resolver target (saveAll calls).saved ≠ [] →
      ∀ at_, reading.astimezone = .ok at_ →
      ∃ snapshot, answer resolver target reading calls = .ok (some snapshot)) ∧
    (∀ a ∈ matching resolver target (saveAll calls).saved,
      ∀ b ∈ matching resolver target (saveAll calls).saved, a.config ≠ b.config →
      ∃ error, answer resolver target reading calls = .error error) ∧
    (∀ others, (∀ run, scopeOf run = resolver.scope target.provider target.model →
        (run ∈ (saveAll calls).saved ↔ run ∈ (saveAll others).saved)) →
      answer resolver target reading others = answer resolver target reading calls) ∧
    (∀ run, Produced platform resolver.suite target run → SmallIntegers run →
      run.runId ∉ (saveAll calls).saved.map (·.runId) →
      (saveAll (calls ++ [⟨fun _ => none, .typed run.modelDump⟩])).saved =
        (saveAll calls).saved ++ [run]) := by
  have sound := saveAll_sound calls
  have value : answer resolver target reading calls = _ :=
    (congrArg (resolver.getQualitySnapshot · reading target.provider target.model)
      sound.tables).trans (answer_eq sound.distinct)
  refine ⟨?_, fun produced oneConfig nonempty at_ clock => ?_, fun a inA b inB different => ?_,
    fun others same => ?_, fun run produced small fresh => ?_⟩
  · rw [value]
    split
    · simp [*]
    · rename_i nonempty
      cases aggregateQuality platform resolver.suite.toSuiteFields _ target.toTargetFields
        reading <;> simp [Except.map, nonempty]
  · obtain ⟨snapshot, returned, _⟩ := aggregate_ok (dumps_validate _)
      (produced_accepted sound.distinct produced oneConfig) clock
    exact ⟨snapshot, by rw [value, if_neg nonempty, returned]; rfl⟩
  · cases returned : aggregateQuality platform resolver.suite.toSuiteFields
      ((matching resolver target (saveAll calls).saved).map (·.modelDump)) target.toTargetFields
      reading with
    | error error =>
      exact ⟨error, by rw [value, if_neg (List.ne_nil_of_mem inA), returned]; rfl⟩
    | ok snapshot =>
      obtain ⟨history, aggregated⟩ := aggregate_value returned
      obtain ⟨_, _, _, _, accepted, _⟩ := aggregated.value
      rw [validated_unique aggregated.validated] at accepted
      exact absurd (accepted.oneConfig a inA b inB) different
  · have soundOthers := saveAll_sound others
    have listed : matching resolver target (saveAll others).saved =
        matching resolver target (saveAll calls).saved := by
      refine sorted_ext (matching_strict soundOthers.distinct) (matching_strict sound.distinct)
        fun run => ?_
      rw [mem_matching, mem_matching]
      exact and_congr_left fun named => (same run named).symm
    rw [value, answer, soundOthers.tables, answer_eq soundOthers.distinct, listed]
  · have stored := saveRun_stores fresh (storable_of_small small (produced_fits produced).2)
    rw [← sound.tables] at stored
    have validated : (UncheckedRun.typed run.modelDump).validate = .ok run := run.modelValidate_dump
    rw [saveAll, List.foldl_append]
    change (Journal.save (saveAll calls) _).saved = _
    rw [Journal.save, stored, validated]

end Answer

section TwoRuns
open BenchmarkRunner (CaseProvider RunContext lateThenRefusing literalPlatform openaiTarget twoCases)

private theorem one_named : "openai" ≠ "" ∧ "gpt" ≠ "" := by simp

private theorem one_timed : (200 : Int) ≤ 300 := by norm_num

private theorem one_latency : (0 : ℚ) ≤ 1 / 10 := by norm_num

private theorem one_statusRange : ∀ code ∈ some 200, 100 ≤ code ∧ code ≤ 599 := by simp

/-- A completion that says `1`. -/
def oneResponse : Payload :=
  Dict.ofList [("choices", .arr [.obj [("message", .obj [("content", .str "1")])]])]

private theorem one_shape : if true = true then
      (some oneResponse).isSome = true ∧ (none : Option ProviderErrorType) = none
    else some oneResponse = none ∧ (none : Option ProviderErrorType).isSome = true := by simp

def sayingOne : CaseProvider where
  name := "openai"
  complete := fun _ _ => .outcome
    { provider := "openai", model := "gpt", success := true, response := some oneResponse
      statusCode := some 200, startedAt := 200, finishedAt := 300, latencyMs := 1 / 10
      named := one_named, timed := one_timed, latency := one_latency
      statusRange := one_statusRange, shape := one_shape }

def twoCaseRun (provider : CaseProvider) (context : RunContext) : Except PyError BenchmarkRun :=
  BenchmarkRunner.run literalPlatform twoCases openaiTarget provider none context

def twoCaseResolver : BenchmarkQualityResolver literalPlatform := ⟨twoCases⟩

/-- A run that can be saved, with the default configuration, in the scope of the resolver. -/
def savable (run : BenchmarkRun) : Bool :=
  run.config = {} && scopeOf run = twoCaseResolver.scope "openai" "gpt" &&
    run.caseResults.all fun result =>
      (result.inputTokens, result.outputTokens, result.totalTokens) = (none, none, none)

private theorem first_saves : (twoCaseRun lateThenRefusing ⟨.utc 1, .utc 2, "run-1"⟩).toOption.map
    (fun run => (run.runId, savable run)) = some ("run-1", true) := by
  decide +kernel

private theorem second_saves : (twoCaseRun sayingOne ⟨.utc 3, .utc 4, "run-2"⟩).toOption.map
    (fun run => (run.runId, savable run)) = some ("run-2", true) := by
  decide +kernel

/-- What a produced run of these has to do with the store. -/
private theorem produced_saves {provider : CaseProvider} {context : RunContext} {runId : String}
    (ran : (twoCaseRun provider context).toOption.map (fun run => (run.runId, savable run)) =
      some (runId, true)) : ∃ run, twoCaseRun provider context = .ok run ∧ run.runId = runId ∧
    Produced literalPlatform twoCaseResolver.suite openaiTarget run ∧ run.config = {} ∧
    scopeOf run = twoCaseResolver.scope "openai" "gpt" ∧ SmallIntegers run := by
  obtain ⟨run, held, facts⟩ := Option.map_eq_some_iff.mp ran
  have held := toOption_eq_some_iff.mp held
  simp only [Prod.mk.injEq, savable, Bool.and_eq_true, decide_eq_true_eq, List.all_eq_true]
    at facts
  obtain ⟨identified, ⟨config, scope⟩, tokens⟩ := facts
  refine ⟨run, held, identified, ⟨provider, none, context, held⟩, config, scope, ?_⟩
  refine ⟨by rw [config]; decide, by rw [config]; decide, fun result member count counted => ?_⟩
  obtain ⟨input, output, total⟩ := tokens result member
  have absent : count = none := by simpa [input, output, total] using counted
  rw [absent]
  nofun

def saving (run : BenchmarkRun) : SaveCall := ⟨fun _ => none, .typed run.modelDump⟩

/-- Two produced runs are saved, and the resolver answers a snapshot of them. -/
theorem two_runs_answered : ∃ first second snapshot,
    twoCaseRun lateThenRefusing ⟨.utc 1, .utc 2, "run-1"⟩ = .ok first ∧
    twoCaseRun sayingOne ⟨.utc 3, .utc 4, "run-2"⟩ = .ok second ∧
    (saveAll [saving first, saving second]).saved = [first, second] ∧
    answer twoCaseResolver openaiTarget (.utc 5) [saving first, saving second] =
      .ok (some snapshot) := by
  obtain ⟨first, ran, one, produced, config, scope, small⟩ := produced_saves first_saves
  obtain ⟨second, alsoRan, two, alsoProduced, alsoConfig, alsoScope, alsoSmall⟩ :=
    produced_saves second_saves
  have agrees := pipeline_agrees literalPlatform twoCaseResolver openaiTarget (.utc 5)
  have saved : (saveAll [saving first]).saved = [first] :=
    (agrees []).2.2.2.2 first produced small List.not_mem_nil
  have apart : second.runId ∉ (saveAll [saving first]).saved.map (·.runId) := by
    rw [saved, two, List.map_singleton, one]
    decide
  have both : (saveAll [saving first, saving second]).saved = [first, second] := by
    have appended := (agrees [saving first]).2.2.2.2 second alsoProduced alsoSmall apart
    rwa [saved] at appended
  have known (run : BenchmarkRun)
      (member : run ∈ matching twoCaseResolver openaiTarget [first, second]) :
      Produced literalPlatform twoCaseResolver.suite openaiTarget run ∧ run.config = {} := by
    rcases List.mem_pair.mp (mem_matching.mp member).1 with rfl | rfl
    · exact ⟨produced, config⟩
    · exact ⟨alsoProduced, alsoConfig⟩
  have listed : first ∈ matching twoCaseResolver openaiTarget [first, second] :=
    mem_matching.mpr ⟨List.mem_cons_self, scope⟩
  obtain ⟨_, answers, _⟩ := agrees [saving first, saving second]
  rw [both] at answers
  obtain ⟨snapshot, answered⟩ := answers (fun run member => (known run member).1)
    (fun a inA b inB => (known a inA).2.trans (known b inB).2.symm) (List.ne_nil_of_mem listed) 5
    (by decide)
  exact ⟨first, second, snapshot, ran, alsoRan, both, answered⟩

end TwoRuns

end ModelPilot.BenchmarkPipeline

