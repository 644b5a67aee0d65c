import ModelPilot.BenchmarkRunner

/-! What a benchmark run asks of its provider, and what it records of the replies:
an exact, valid beginning of the suite. -/
namespace ModelPilot.BenchmarkRunner

variable {texts : AnswerTexts} {target : BenchmarkTarget} {config : BenchmarkRunConfig}
  {provider : CaseProvider} {case_ : BenchmarkCase} {cases : List BenchmarkCase}
  {reply : CaseReply} {result : BenchmarkCaseResult} {results : List BenchmarkCaseResult}
  {position : Nat}

section Execution

/-- The requests sent to the provider, and how the execution ended. -/
structure Execution (α : Type) where
  requests : List CaseRequest
  outcome : Except PyError α

/-- The loop over the cases, with the requests it sends. -/
def executeCases (texts : AnswerTexts) (target : BenchmarkTarget) (config : BenchmarkRunConfig)
    (provider : CaseProvider) : Nat → List BenchmarkCase → Execution (List BenchmarkCaseResult)
  | _, [] => ⟨[], .ok []⟩
  | position, case_ :: rest =>
    let request := caseRequest target config case_
    match settleCase texts target case_ (provider.complete position request) with
    | .error error => ⟨[request], .error error⟩
    | .ok result =>
      if result.errorType = some .authenticationError then ⟨[request], .ok [result]⟩
      else
        let later := executeCases texts target config provider (position + 1) rest
        ⟨request :: later.requests, later.outcome.map (result :: ·)⟩

/-- What a run checks, and the first reading of its clock. -/
def begin_ (platform : Platform) (suite : BenchmarkSuite platform.texts) (target : BenchmarkTarget)
    (provider : CaseProvider) (config : BenchmarkRunConfig) (context : RunContext) :
    Except PyError Int := do
  require (provider.name = target.provider) "provider does not match benchmark target"
  require ((suite.cases.length : Int) ≤ config.maxCases) "suite exceeds max_cases"
  now context.startReading

/-- The fields of the run built from the results. -/
def runFields (platform : Platform) (suite : BenchmarkSuite platform.texts)
    (target : BenchmarkTarget) (config : BenchmarkRunConfig) (runId : String)
    (startedAt finishedAt : Int) (results : List BenchmarkCaseResult) : RunFields Datetime :=
  let failures := results.countP (·.executionStatus = .providerFailed)
  { toTargetFields := target.toTargetFields
    runId
    suiteId := suite.suiteId
    suiteVersion := suite.version
    suiteFingerprint := platform.fingerprint suite
    config
    startedAt := .utc startedAt
    finishedAt := .utc finishedAt
    status := if failures = 0 then .completed else .completedWithFailures
    totalCases := suite.cases.length
    completedCases := results.length - failures
    executionFailedCases := failures
    terminatedEarly := decide (results.length < suite.cases.length)
    caseResults := results }

/-- `BenchmarkRunner.run`, with the requests it sends. -/
def execute (platform : Platform) (suite : BenchmarkSuite platform.texts) (target : BenchmarkTarget)
    (provider : CaseProvider) (config : Option Config) (context : RunContext) :
    Execution BenchmarkRun :=
  let config : BenchmarkRunConfig := config.elim {} Subtype.val
  match begin_ platform suite target provider config context with
  | .error error => ⟨[], .error error⟩
  | .ok startedAt =>
    let executed := executeCases platform.texts target config provider 0 suite.cases
    ⟨executed.requests, do
      let results ← executed.outcome
      let finishedAt ← now context.finishReading
      BenchmarkRun.modelValidate
        (runFields platform suite target config context.runId startedAt finishedAt results)⟩

theorem executeCases_outcome (texts : AnswerTexts) (target : BenchmarkTarget)
    (config : BenchmarkRunConfig) (provider : CaseProvider) (position : Nat)
    (cases : List BenchmarkCase) :
    (executeCases texts target config provider position cases).outcome =
      runCases texts target config provider position cases := by
  induction cases generalizing position with
  | nil => rfl
  | cons case_ rest ih =>
    simp only [executeCases, runCases]
    cases settleCase texts target case_
        (provider.complete position (caseRequest target config case_)) with
    | error error => rfl
    | ok result =>
      simp only [bind, Except.bind]
      split
      · rfl
      · rw [← ih]
        cases (executeCases texts target config provider (position + 1) rest).outcome <;> rfl

/-- The requests aside, an execution is a run. -/
theorem execute_outcome (platform : Platform) (suite : BenchmarkSuite platform.texts)
    (target : BenchmarkTarget) (provider : CaseProvider) (config : Option Config)
    (context : RunContext) :
    (execute platform suite target provider config context).outcome =
      run platform suite target provider config context := by
  unfold execute run
  have begun : ∀ fields : BenchmarkRunConfig, ∀ next : Int → Except PyError BenchmarkRun,
      (do
        require (provider.name = target.provider) "provider does not match benchmark target"
        require ((suite.cases.length : Int) ≤ fields.maxCases) "suite exceeds max_cases"
        let startedAt ← now context.startReading
        next startedAt) =
      (begin_ platform suite target provider fields context).bind next := by
    intro fields next
    unfold begin_ require
    split <;> split <;> rfl
  rw [begun]
  dsimp only
  cases begin_ platform suite target provider (config.elim {} Subtype.val) context with
  | error error => rfl
  | ok startedAt =>
    dsimp only
    rw [executeCases_outcome]
    rfl

end Execution

section Settled

/-- A reply about the target: an outcome under its name, or the deadline. -/
def Answers (target : BenchmarkTarget) : CaseReply → Prop
  | .outcome outcome => outcome.key = target.toTargetFields.key
  | .deadline _ => True
  | .raised _ => False

/-- The assistant text of a successful call. -/
def answerText : CaseReply → Option String
  | .outcome outcome =>
    if outcome.success then outcome.response.bind extractAssistantText else none
  | _ => none

/-- The provider refused the credential. -/
def AuthFailure : CaseReply → Prop
  | .outcome outcome => outcome.errorType = some .authenticationError
  | _ => False

/-- The result of a call. -/
structure Settled (texts : AnswerTexts) (target : BenchmarkTarget) (case_ : BenchmarkCase)
    (reply : CaseReply) (result : BenchmarkCaseResult) : Prop where
  settled : settleCase texts target case_ reply = .ok result
  caseId : result.caseId = case_.caseId
  target : result.toTargetFields = target.toTargetFields
  valid : result.check = .ok ()
  answered : ∀ text, answerText reply = some text → result.errorType = none ∧
    result.evaluation = some (case_.evaluator.evaluation (case_.evaluator.reason texts text))
  failed : answerText reply = none → result.evaluation = none ∧ ∃ error, result.errorType = some error
  authenticated : result.errorType = some .authenticationError ↔ AuthFailure reply

/-- A result with an evaluation or an error, but not both, is accepted. -/
theorem caseResult_check (target : BenchmarkTarget) (errorType : Option ProviderErrorType)
    (evaluation : Option CaseEvaluation) {latencyMs : ℚ}
    (identified : isIdentifier case_.caseId = true) (latency : 0 ≤ latencyMs)
    (evaluated : ∀ held ∈ evaluation, held.check = .ok ())
    (either : evaluation.isSome = true ↔ errorType = none)
    (input output total : Option Nat) :
    BenchmarkCaseResult.check { caseResult target case_ errorType evaluation latencyMs with
      inputTokens := input.map Int.ofNat, outputTokens := output.map Int.ofNat,
      totalTokens := total.map Int.ofNat } = .ok () := by
  have count (tokens : Option Nat) : ∀ held, tokens.map Int.ofNat = some held → 0 ≤ held := by
    intro held found
    obtain ⟨value, _, rfl⟩ := Option.map_eq_some_iff.mp found
    exact Int.natCast_nonneg value
  simp only [BenchmarkCaseResult.check, BenchmarkCaseResult.checkCount, caseResult, then_ok_iff,
    require_ok_iff, checkSome_ok_iff]
  refine ⟨target.valid, require_ok_iff.mpr identified, require_ok_iff.mpr latency, count input,
    count output, count total, evaluated, ?_⟩
  cases errorType with
  | none =>
    simp [BenchmarkCaseResult.consistentExecution, require_ok_iff, either.mpr rfl]
  | some error =>
    have blank : evaluation = none := by
      cases evaluation with
      | none => rfl
      | some held => cases either.mp rfl
    simp [BenchmarkCaseResult.consistentExecution, require_ok_iff, blank]

theorem evaluateOutcome_ok (evaluator : case_.evaluator.check texts = .ok ())
    (outcome : ProviderOutcome) :
    ∃ evaluation errorType, evaluateOutcome texts case_ outcome = .ok (evaluation, errorType) ∧
      (∀ text, answerText (.outcome outcome) = some text → errorType = none ∧
        evaluation = some (case_.evaluator.evaluation (case_.evaluator.reason texts text))) ∧
      (answerText (.outcome outcome) = none → evaluation = none ∧ ∃ error, errorType = some error) ∧
      (errorType = some .authenticationError ↔ AuthFailure (.outcome outcome)) := by
  have shape := outcome.shape
  unfold evaluateOutcome answerText AuthFailure
  by_cases success : outcome.success = true
  · rw [if_pos success] at shape
    obtain ⟨response, held⟩ := outcome.response_of_success success
    simp only [if_pos success, held, shape.2, Option.bind_some]
    cases extractAssistantText response with
    | none => exact ⟨none, some .invalidResponse, rfl, by simp, by simp, by simp⟩
    | some text =>
      refine ⟨some (case_.evaluator.evaluation (case_.evaluator.reason texts text)), none, ?_,
        by simp, by simp, by simp⟩
      simp [evaluateCase_ok evaluator, Except.map]
  · rw [if_neg success] at shape
    obtain ⟨error, held⟩ := outcome.errorType_of_failure (by simpa using success)
    simp only [if_neg success]
    exact ⟨none, outcome.errorType, rfl, by simp, by simp [held], Iff.rfl⟩

/-- A reply about the target gives its result. -/
theorem settleCase_ok (identified : isIdentifier case_.caseId = true)
    (evaluator : case_.evaluator.check texts = .ok ()) (answers : Answers target reply) :
    ∃ result, Settled texts target case_ reply result := by
  cases reply with
  | raised error => exact answers.elim
  | deadline elapsedMs =>
    have valid := caseResult_check target (some .timeout) none identified (le_max_left 0 elapsedMs)
      (by simp) (by simp) none none none
    refine ⟨_, ?_, rfl, rfl, valid, by simp [answerText], ?_, ?_⟩
    · exact then_ok_iff.mpr ⟨valid, rfl⟩
    · exact fun _ => ⟨rfl, .timeout, rfl⟩
    · simp [AuthFailure, caseResult]
  | outcome outcome =>
    obtain ⟨evaluation, errorType, evaluated, answered, failed, authenticated⟩ :=
      evaluateOutcome_ok evaluator outcome
    have verdicts : ∀ held ∈ evaluation, held.check = .ok () := by
      rintro held rfl
      cases text : answerText (.outcome outcome) with
      | none => cases (failed text).1
      | some text_ =>
        rw [Option.some.inj (answered text_ text).2]
        exact evaluation_check _ _
    have either : evaluation.isSome = true ↔ errorType = none := by
      cases text : answerText (.outcome outcome) with
      | none =>
        obtain ⟨blank, error, isError⟩ := failed text
        simp [blank, isError]
      | some text_ => simp [answered text_ text]
    have valid := caseResult_check target errorType evaluation identified outcome.latency verdicts
      either outcome.inputTokens outcome.outputTokens outcome.totalTokens
    refine ⟨_, ?_, rfl, rfl, valid, fun text found => ?_, failed, authenticated⟩
    · have named : ¬ outcome.key ≠ target.toTargetFields.key := not_not.mpr answers
      unfold settleCase
      dsimp only
      rw [if_neg named]
      exact bind_ok_iff.mpr ⟨_, evaluated, then_ok_iff.mpr ⟨valid, rfl⟩⟩
    · exact answered text found

end Settled

section Executed

/-- An execution over cases that sent these requests and recorded these results: one
request for each result, in order, and an end before the last case only right
after the first authentication failure. -/
structure Executed (texts : AnswerTexts) (target : BenchmarkTarget) (config : BenchmarkRunConfig)
    (provider : CaseProvider) (position : Nat) (cases : List BenchmarkCase)
    (requests : List CaseRequest) (results : List BenchmarkCaseResult) : Prop where
  requests : requests = (cases.take results.length).map (caseRequest target config)
  within : results.length ≤ cases.length
  settled : ∀ index case_ result, cases[index]? = some case_ → results[index]? = some result →
    Settled texts target case_
      (provider.complete (position + index) (caseRequest target config case_)) result
  terminal : ∀ index result, results[index]? = some result →
    result.errorType = some .authenticationError → index + 1 = results.length
  early : results.length < cases.length →
    ∃ last ∈ results.getLast?, last.errorType = some .authenticationError

theorem Executed.nil : Executed texts target config provider position [] [] [] where
  requests := rfl
  within := le_refl 0
  settled := by simp
  terminal := by simp
  early := by simp

/-- The first case ends the execution. -/
theorem Executed.stop (settled : Settled texts target case_
      (provider.complete position (caseRequest target config case_)) result)
    (failed : result.errorType = some .authenticationError) (rest : List BenchmarkCase) :
    Executed texts target config provider position (case_ :: rest) [caseRequest target config case_]
      [result] where
  requests := rfl
  within := Nat.succ_le_succ (Nat.zero_le _)
  settled := by
    rintro (_ | index) held found listed recorded
    · cases listed
      cases recorded
      exact settled
    · simp at recorded
  terminal := by
    rintro (_ | index) found recorded _
    · rfl
    · simp at recorded
  early := fun _ => ⟨result, rfl, failed⟩

/-- The first case is followed by an execution of the rest. -/
theorem Executed.next (settled : Settled texts target case_
      (provider.complete position (caseRequest target config case_)) result)
    (continues : result.errorType ≠ some .authenticationError) {requests : List CaseRequest}
    (later : Executed texts target config provider (position + 1) cases requests results) :
    Executed texts target config provider position (case_ :: cases)
      (caseRequest target config case_ :: requests) (result :: results) where
  requests := by rw [List.length_cons, List.take_succ_cons, List.map_cons, ← later.requests]
  within := Nat.succ_le_succ later.within
  settled := by
    rintro (_ | index) held found listed recorded
    · cases listed
      cases recorded
      exact settled
    · have place : position + (index + 1) = position + 1 + index := by omega
      rw [place]
      exact later.settled index held found listed recorded
  terminal := by
    rintro (_ | index) found recorded failed
    · cases recorded
      exact absurd failed continues
    · rw [List.length_cons, later.terminal index found recorded failed]
  early := by
    intro short
    obtain ⟨last, isLast, failed⟩ := later.early (Nat.lt_of_succ_lt_succ short)
    refine ⟨last, ?_, failed⟩
    rw [Option.mem_def] at isLast ⊢
    rw [List.getLast?_cons, isLast, Option.getD_some]

/-- Replies about the target to valid cases. -/
theorem executeCases_executed (valid : ∀ case_ ∈ cases, case_.check texts = .ok ())
    (answers : ∀ call request, Answers target (provider.complete call request))
    (config : BenchmarkRunConfig) (position : Nat) :
    ∃ results, (executeCases texts target config provider position cases).outcome = .ok results ∧
      Executed texts target config provider position cases
        (executeCases texts target config provider position cases).requests results := by
  induction cases generalizing position with
  | nil => exact ⟨[], rfl, .nil⟩
  | cons case_ rest ih =>
    obtain ⟨head, tail⟩ := List.forall_mem_cons.mp valid
    simp only [BenchmarkCase.check, then_ok_iff, require_ok_iff] at head
    obtain ⟨result, settled⟩ := settleCase_ok head.1 head.2.2.2.1
      (answers position (caseRequest target config case_))
    unfold executeCases
    dsimp only
    rw [settled.settled]
    dsimp only
    by_cases failed : result.errorType = some .authenticationError
    · rw [if_pos failed]
      exact ⟨[result], rfl, .stop settled failed rest⟩
    · rw [if_neg failed]
      obtain ⟨results, ended, later⟩ := ih tail (position + 1)
      refine ⟨result :: results, ?_, .next settled failed later⟩
      rw [ended]
      rfl

theorem Executed.nonempty {requests : List CaseRequest} (present : cases ≠ [])
    (executed : Executed texts target config provider position cases requests results) :
    results ≠ [] := by
  rintro rfl
  obtain ⟨last, isLast, _⟩ := executed.early (List.length_pos_iff.mpr present)
  cases isLast

theorem Executed.getElem? {requests : List CaseRequest} {index : Nat}
    (executed : Executed texts target config provider position cases requests results)
    (recorded : results[index]? = some result) :
    ∃ case_, cases[index]? = some case_ ∧ Settled texts target case_
      (provider.complete (position + index) (caseRequest target config case_)) result := by
  obtain ⟨bound, _⟩ := List.getElem?_eq_some_iff.mp recorded
  have listed := List.getElem?_eq_getElem (bound.trans_le executed.within)
  exact ⟨_, listed, executed.settled index _ result listed recorded⟩

/-- The cases of the results are the first cases. -/
theorem Executed.caseIds {requests : List CaseRequest}
    (executed : Executed texts target config provider position cases requests results) :
    results.map (·.caseId) = (cases.take results.length).map (·.caseId) := by
  apply List.ext_getElem?
  intro index
  rw [List.getElem?_map, List.getElem?_map]
  cases recorded : results[index]? with
  | none =>
    have past : results.length ≤ index := List.getElem?_eq_none_iff.mp recorded
    rw [List.getElem?_eq_none ((List.length_take_le _ _).trans past)]
    rfl
  | some result =>
    obtain ⟨case_, listed, settled⟩ := executed.getElem? recorded
    obtain ⟨bound, _⟩ := List.getElem?_eq_some_iff.mp recorded
    rw [List.getElem?_take_of_lt bound, listed, Option.map_some, Option.map_some, settled.caseId]

theorem Executed.mem {requests : List CaseRequest}
    (executed : Executed texts target config provider position cases requests results)
    (member : result ∈ results) :
    result.toTargetFields = target.toTargetFields ∧ result.check = .ok () := by
  obtain ⟨index, bound, rfl⟩ := List.getElem_of_mem member
  obtain ⟨case_, _, settled⟩ := executed.getElem? (List.getElem?_eq_getElem bound)
  exact ⟨settled.target, settled.valid⟩

end Executed

section Run
variable {platform : Platform} {suite : BenchmarkSuite platform.texts} {context : RunContext}
  {requests : List CaseRequest} {startedAt finishedAt : Int} {runId : String}

private theorem mem_authIndices {run : RunFields τ} {index : Nat} :
    index ∈ run.authIndices ↔ ∃ result, run.caseResults[index]? = some result ∧
      result.errorType = some .authenticationError := by
  simp only [RunFields.authIndices, List.mem_map, List.mem_filter, decide_eq_true_eq, Prod.exists,
    exists_eq_right, List.mk_mem_zipIdx_iff_getElem?]

/-- At most one result is an authentication failure: the last. -/
private theorem authIndices_terminal (run : RunFields τ)
    (terminal : ∀ index result, run.caseResults[index]? = some result →
      result.errorType = some .authenticationError → index + 1 = run.caseResults.length) :
    run.authIndices = [] ∨ run.authIndices = [run.caseResults.length - 1] := by
  have once : run.authIndices.Nodup := by
    have positions : (run.caseResults.zipIdx.map Prod.snd).Nodup := by
      rw [List.zipIdx_map_snd]
      exact List.nodup_range'
    exact positions.sublist (List.filter_sublist.map _)
  have same : ∀ index ∈ run.authIndices, index = run.caseResults.length - 1 := by
    intro index member
    obtain ⟨result, recorded, failed⟩ := mem_authIndices.mp member
    have last := terminal index result recorded failed
    omega
  have repeated := List.eq_replicate_of_mem same
  rw [repeated, List.nodup_replicate] at once
  rcases Nat.le_one_iff_eq_zero_or_eq_one.mp once with none_ | one
  · exact .inl (List.length_eq_zero_iff.mp none_)
  · rw [one] at repeated
    exact .inr repeated

/-- The run built from an execution passes its own validators. -/
theorem runFields_valid (configured : config.check = .ok ()) (identified : isIdentifier runId = true)
    (forward : startedAt ≤ finishedAt)
    (executed : Executed platform.texts target config provider 0 suite.cases requests results) :
    ((runFields platform suite target config runId startedAt finishedAt results).withTimes
      startedAt finishedAt).Valid := by
  have facts := suite.facts
  have split := List.length_eq_countP_add_countP
    (fun result : BenchmarkCaseResult => decide (result.executionStatus = .completed)) (l := results)
  have opposite : results.countP (fun result => decide (¬ (decide (result.executionStatus =
      .completed)) = true)) = results.countP (·.executionStatus = .providerFailed) := by
    refine List.countP_congr fun result _ => ?_
    cases result.executionStatus <;> simp
  rw [opposite] at split
  have cut : (results.length : Int) < suite.cases.length ↔ results.length < suite.cases.length :=
    Int.ofNat_lt
  constructor
  · exact target.valid
  · exact identified
  · exact facts.suiteId
  · exact facts.version
  · exact platform.digest suite
  · exact configured
  · exact Int.natCast_pos.mpr (List.length_pos_iff.mpr facts.nonempty)
  · exact fun result member => (executed.mem member).2
  · exact forward
  · simp only [runFields, RunFields.withTimes, RunFields.completedResults]
    omega
  · simp only [runFields, RunFields.withTimes, RunFields.completedResults]
    omega
  · exact executed.nonempty facts.nonempty
  · exact Int.ofNat_le.mpr executed.within
  · simp only [runFields, RunFields.withTimes]
    rw [executed.caseIds]
    exact facts.distinct.sublist ((List.take_sublist _ _).map _)
  · exact fun result member => (executed.mem member).1
  · exact authIndices_terminal _ executed.terminal
  · exact decide_eq_decide.mpr cut.symm
  · intro short
    obtain ⟨last, isLast, failed⟩ := executed.early (cut.mp short)
    rw [Option.mem_def, List.getLast?_eq_getElem?] at isLast
    exact List.ne_nil_of_mem (mem_authIndices.mpr ⟨last, isLast, failed⟩)
  · simp only [runFields, RunFields.withTimes, RunFields.completedResults]
    congr 1
    apply propext
    omega

theorem defaults_check : BenchmarkRunConfig.check {} = .ok () := by decide +kernel

theorem config_check (config : Option Config) :
    (config.elim {} Subtype.val : BenchmarkRunConfig).check = .ok () := by
  cases config with
  | none => exact defaults_check
  | some config => exact config.property

/-- With a provider of the target, a suite within `max_cases`, and a clock and
identifiers that work, replies about the target give a run. -/
theorem execute_ok {config : Option Config} (named : provider.name = target.provider)
    (short : (suite.cases.length : Int) ≤ (config.elim {} Subtype.val : BenchmarkRunConfig).maxCases)
    (started : now context.startReading = .ok startedAt)
    (finished : now context.finishReading = .ok finishedAt) (forward : startedAt ≤ finishedAt)
    (identified : isIdentifier context.runId = true)
    (answers : ∀ call request, Answers target (provider.complete call request)) :
    ∃ run, (execute platform suite target provider config context).outcome = .ok run ∧
      run.toRunFields.Valid ∧
      (run.terminatedEarly = true ↔ run.caseResults.length < suite.cases.length) ∧
      Executed platform.texts target (config.elim {} Subtype.val) provider 0 suite.cases
        (execute platform suite target provider config context).requests run.caseResults := by
  have begun : begin_ platform suite target provider (config.elim {} Subtype.val) context =
      .ok startedAt :=
    then_ok_iff.mpr ⟨require_ok_iff.mpr named, then_ok_iff.mpr ⟨require_ok_iff.mpr short, started⟩⟩
  have cases_ : ∀ case_ ∈ suite.cases, case_.check platform.texts = .ok () := by
    have valid := suite.valid
    simp only [SuiteFields.check, then_ok_iff, checkAll_ok_iff] at valid
    exact valid.2.2.2.2.1
  obtain ⟨results, ended, executed⟩ :=
    executeCases_executed cases_ answers (config.elim {} Subtype.val) 0
  have valid := runFields_valid (config_check config) identified forward executed
  have inRange {reading : Datetime} {at_ : Int} (read : now reading = .ok at_) :
      Datetime.InRange at_ := by
    unfold now at read
    split at read
    · cases read
    · exact (Datetime.astimezone_ok_iff.mp read).2
  have built : BenchmarkRun.modelValidate (runFields platform suite target
      (config.elim {} Subtype.val) context.runId startedAt finishedAt results) =
      .ok ⟨_, (RunFields.check_ok_iff _).mpr valid, inRange started, inRange finished⟩ :=
    BenchmarkRun.modelValidate_ok_iff.mpr
      ⟨Datetime.astimezone_utc (inRange started), Datetime.astimezone_utc (inRange finished), rfl⟩
  unfold execute
  dsimp only
  rw [begun]
  dsimp only
  refine ⟨⟨_, (RunFields.check_ok_iff _).mpr valid, inRange started, inRange finished⟩, ?_, valid,
    ?_, executed⟩
  · exact bind_ok_iff.mpr ⟨results, ended, bind_ok_iff.mpr ⟨finishedAt, finished, built⟩⟩
  · exact decide_eq_true_iff

/-- A benchmark run is an exact and valid beginning of its suite: one call for each
case in order up to the first authentication failure, one result for each call, with
an evaluation exactly when the call gave assistant text. A suite beyond `max_cases`
is not begun. -/
theorem run_is_exact_beginning (platform : Platform) (suite : BenchmarkSuite platform.texts)
    (target : BenchmarkTarget) (provider : CaseProvider) (config : Option Config)
    (context : RunContext) :
    ((config.elim {} Subtype.val : BenchmarkRunConfig).maxCases < suite.cases.length →
      (execute platform suite target provider config context).requests = [] ∧
      ∃ error, run platform suite target provider config context = .error error) ∧
    ∀ startedAt finishedAt, provider.name = target.provider →
      (suite.cases.length : Int) ≤ (config.elim {} Subtype.val : BenchmarkRunConfig).maxCases →
      now context.startReading = .ok startedAt → now context.finishReading = .ok finishedAt →
      startedAt ≤ finishedAt → isIdentifier context.runId = true →
      (∀ call request, Answers target (provider.complete call request)) →
      ∃ held, run platform suite target provider config context = .ok held ∧
        held.toRunFields.Valid ∧
        (held.terminatedEarly = true ↔ held.caseResults.length < suite.cases.length) ∧
        Executed platform.texts target (config.elim {} Subtype.val) provider 0 suite.cases
          (execute platform suite target provider config context).requests held.caseResults := by
  rw [← execute_outcome]
  constructor
  · intro long
    have refused : ∃ error, begin_ platform suite target provider (config.elim {} Subtype.val)
        context = .error error := by
      cases begun : begin_ platform suite target provider (config.elim {} Subtype.val) context with
      | error error => exact ⟨error, rfl⟩
      | ok startedAt =>
        obtain ⟨_, checked⟩ := then_ok_iff.mp begun
        have short := require_ok_iff.mp (then_ok_iff.mp checked).1
        omega
    obtain ⟨error, refused⟩ := refused
    unfold execute
    dsimp only
    rw [refused]
    exact ⟨rfl, error, rfl⟩
  · intro startedAt finishedAt named short started finished forward identified answers
    exact execute_ok named short started finished forward identified answers

section TwoCases

/-- Texts that are compared literally. -/
def literalTexts : AnswerTexts where
  parsesJson := fun _ => false
  normalizeText := id
  numericReason := fun _ _ _ => .mismatch
  jsonReason := fun _ _ => .mismatch

/-- The SHA-256 digest of `twoCases`, as `model_dump_json` writes it. -/
def twoCasesDigest : String :=
  "ab131406c22565de0f7f1fa819f89d8dc10704f79e110a4f7c472dee0625ffa5"

private theorem twoCasesDigest_isFingerprint : isFingerprint twoCasesDigest = true := by
  decide +kernel

def literalPlatform : Platform where
  float := .exact
  texts := literalTexts
  fingerprint := fun _ => twoCasesDigest
  digest := fun _ => twoCasesDigest_isFingerprint

private theorem twoCases_valid : SuiteFields.check literalTexts
    { suiteId := "smoke", version := "1", name := "Smoke"
      cases := [⟨"first", .math, [⟨.user, "One?"⟩], ⟨.exactMatch "1", "1"⟩, 1⟩,
        ⟨"second", .math, [⟨.user, "Two?"⟩], ⟨.exactMatch "2", "1"⟩, 1⟩] } = .ok () := by
  decide +kernel

def twoCases : BenchmarkSuite literalTexts where
  suiteId := "smoke"
  version := "1"
  name := "Smoke"
  cases := [⟨"first", .math, [⟨.user, "One?"⟩], ⟨.exactMatch "1", "1"⟩, 1⟩,
    ⟨"second", .math, [⟨.user, "Two?"⟩], ⟨.exactMatch "2", "1"⟩, 1⟩]
  valid := twoCases_valid

private theorem openai_valid : TargetFields.check ⟨"openai", "gpt"⟩ = .ok () := by decide +kernel

def openaiTarget : BenchmarkTarget where
  provider := "openai"
  model := "gpt"
  valid := openai_valid

private theorem refusal_named : "openai" ≠ "" ∧ "gpt" ≠ "" := by simp

private theorem refusal_timed : (100 : Int) ≤ 200 := by norm_num

private theorem refusal_latency : (0 : ℚ) ≤ 1 / 10 := by norm_num

private theorem refusal_statusRange : ∀ code ∈ some 401, 100 ≤ code ∧ code ≤ 599 := by simp

private theorem refusal_shape : if false = true then
      (none : Option Payload).isSome = true ∧ some ProviderErrorType.authenticationError = none
    else (none : Option Payload) = none ∧
      (some ProviderErrorType.authenticationError).isSome = true := by simp

/-- A refused credential. -/
def refusal : ProviderOutcome where
  provider := "openai"
  model := "gpt"
  success := false
  errorType := some .authenticationError
  statusCode := some 401
  startedAt := 100
  finishedAt := 200
  latencyMs := 1 / 10
  named := refusal_named
  timed := refusal_timed
  latency := refusal_latency
  statusRange := refusal_statusRange
  shape := refusal_shape

/-- The first call runs into the deadline, every later one is refused. -/
def lateThenRefusing : CaseProvider where
  name := "openai"
  complete := fun call _ => if call = 0 then .deadline 30000 else .outcome refusal

theorem late_then_refusing_run : ∃ held,
    run literalPlatform twoCases openaiTarget lateThenRefusing none ⟨.utc 1, .utc 2, "run-1"⟩ =
      .ok held ∧ held.toRunFields.Valid := by
  have started : now (.utc 1) = .ok 1 := by decide +kernel
  have finished : now (.utc 2) = .ok 2 := by decide +kernel
  obtain ⟨_, given⟩ := run_is_exact_beginning literalPlatform twoCases openaiTarget
    lateThenRefusing none ⟨.utc 1, .utc 2, "run-1"⟩
  obtain ⟨held, ended, valid, _⟩ := given 1 2 rfl (by decide) started finished (by decide)
    (by decide +kernel) (by
      intro call request
      unfold lateThenRefusing
      dsimp only
      split
      · trivial
      · rfl)
  exact ⟨held, ended, valid⟩

end TwoCases

end Run

end ModelPilot.BenchmarkRunner
