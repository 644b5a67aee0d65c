import Mathlib.Data.List.Nodup
import ModelPilot.BenchmarkStore

/-! The stored rows are an encoding of the list of saved runs: writing appends
to it or leaves it alone, and reading gives back what was saved. -/
namespace ModelPilot.BenchmarkStore

/-! ### One run and its rows -/

/-- The case rows of a run. -/
def encodeCases (run : BenchmarkRun) : List CaseRow :=
  run.caseResults.zipIdx.map fun entry => encodeCase run.runId entry.2 entry.1

/-- The tables that hold a list of runs. -/
def encode (history : List BenchmarkRun) : Tables :=
  ⟨history.map encodeRun, history.flatMap encodeCases⟩

section Restore
variable {history : List BenchmarkRun} {run : BenchmarkRun} {result : BenchmarkCaseResult}

@[simp] theorem member_category (category : BenchmarkCategory) :
    member categories categoryText (categoryText category) = .ok category := by
  cases category <;> rfl

@[simp] theorem member_execution (execution : ExecutionStatus) :
    member executions executionText (executionText execution) = .ok execution := by
  cases execution <;> rfl

@[simp] theorem member_status (status : RunStatus) :
    member statuses statusText (statusText status) = .ok status := by
  cases status <;> rfl

@[simp] theorem member_kind (kind : EvaluatorKind) :
    member kinds kindText (kindText kind) = .ok kind := by
  cases kind <;> rfl

@[simp] theorem member_reason (reason : EvaluationReason) :
    member reasons reasonText (reasonText reason) = .ok reason := by
  cases reason <;> rfl

@[simp] theorem member_errorType (errorType : ProviderErrorType) :
    member errorTypes ProviderErrorType.value errorType.value = .ok errorType := by
  cases errorType <;> rfl

@[simp] theorem boolean_stored (value : Bool) :
    boolean (if value then 1 else 0) = .ok value := by
  cases value <;> rfl

theorem restoreEvaluation_encode (runId : String) (index : Nat)
    (valid : ∀ evaluation, result.evaluation = some evaluation → evaluation.check = .ok ()) :
    restoreEvaluation (encodeCase runId index result) = .ok result.evaluation := by
  cases stored : result.evaluation with
  | none => simp [restoreEvaluation, encodeCase, CaseRow.evaluationColumns, stored]
  | some evaluation =>
    simp [restoreEvaluation, encodeCase, CaseRow.evaluationColumns, stored, required, bind,
      Except.bind, valid evaluation stored]

theorem restoreCase_encode (runId : String) (index : Nat) (valid : result.check = .ok ()) :
    restoreCase (encodeCase runId index result) = .ok result := by
  have evaluations : ∀ evaluation, result.evaluation = some evaluation →
      evaluation.check = .ok () := by
    have accepted := valid
    simp only [BenchmarkCaseResult.check, then_ok_iff, checkSome_ok_iff] at accepted
    exact accepted.2.2.2.2.2.2.1
  have errors : restoreErrorType (encodeCase runId index result).errorType =
      .ok result.errorType := by
    cases stored : result.errorType with
    | none => simp [restoreErrorType, encodeCase, stored]
    | some errorType => simp [restoreErrorType, encodeCase, stored, Except.map]
  rw [restoreCase, restoreEvaluation_encode runId index evaluations, errors]
  simp [encodeCase, bind, Except.bind, valid]

theorem restoreCases_encode (runId : String) (results : List BenchmarkCaseResult) (start : Nat)
    (valid : ∀ result ∈ results, result.check = .ok ()) :
    restoreCases ((results.zipIdx start).map fun entry => encodeCase runId entry.2 entry.1) =
      .ok results := by
  induction results generalizing start with
  | nil => rfl
  | cons result rest ih =>
    have head := restoreCase_encode runId start (valid result List.mem_cons_self)
    have tail := ih (start + 1) fun other member => valid other (List.mem_cons_of_mem _ member)
    rw [List.zipIdx_cons, List.map_cons, restoreCases, head, tail]
    rfl

/-- The case rows of different runs carry different identifiers. -/
theorem filter_cases (own : run ∈ history) (distinct : (history.map (·.runId)).Nodup) :
    (encode history).cases.filter (·.runId = run.runId) = encodeCases run := by
  have every : ∀ other : BenchmarkRun, (encodeCases other).filter (·.runId = run.runId) =
      if other.runId = run.runId then encodeCases other else [] := by
    intro other
    split
    · rename_i same
      rw [List.filter_eq_self]
      intro row member
      obtain ⟨_, _, rfl⟩ := List.mem_map.mp member
      simp [encodeCase, same]
    · rename_i different
      rw [List.filter_eq_nil_iff]
      intro row member
      obtain ⟨_, _, rfl⟩ := List.mem_map.mp member
      simp [encodeCase, different]
  change (history.flatMap encodeCases).filter (·.runId = run.runId) = encodeCases run
  induction history with
  | nil => cases own
  | cons head rest ih =>
    obtain ⟨fresh, tail⟩ := List.nodup_cons.mp distinct
    rw [List.flatMap_cons, List.filter_append, every]
    rcases List.mem_cons.mp own with rfl | later
    · have others : (rest.flatMap encodeCases).filter (·.runId = run.runId) = [] := by
        rw [List.filter_eq_nil_iff]
        intro row member
        obtain ⟨other, inside, listed⟩ := List.mem_flatMap.mp member
        obtain ⟨_, _, rfl⟩ := List.mem_map.mp listed
        have apart : other.runId ≠ run.runId := fun same =>
          fresh (List.mem_map.mpr ⟨other, inside, same⟩)
        simp [encodeCase, apart]
      rw [if_pos rfl, others, List.append_nil]
    · have apart : head.runId ≠ run.runId := fun same =>
        fresh (List.mem_map.mpr ⟨run, later, same.symm⟩)
      rw [if_neg apart, ih later tail, List.nil_append]

/-- They come in the order of their index. -/
theorem caseRows_encode (own : run ∈ history) (distinct : (history.map (·.runId)).Nodup) :
    caseRows (encode history) run.runId = encodeCases run := by
  rw [caseRows, filter_cases own distinct, sortedBy]
  apply List.Pairwise.insertionSort_eq
  rw [encodeCases, List.pairwise_map]
  have indices : (run.caseResults.zipIdx.map Prod.snd).Pairwise (· < ·) := by
    rw [List.zipIdx_map_snd]
    exact List.pairwise_lt_range'
  apply (List.pairwise_map.mp indices).imp
  intro a b before
  simp only [encodeCase]
  omega

/-- A stored run is restored as it was saved. -/
theorem restoreRun_encode (own : run ∈ history) (distinct : (history.map (·.runId)).Nodup) :
    restoreRun (encode history) (encodeRun run) = .ok run := by
  have results := restoreCases_encode run.runId run.caseResults 0 run.wellFormed.results
  have contiguous : (encodeCases run).map (·.caseIndex) =
      (List.range (encodeCases run).length).map Int.ofNat := by
    rw [encodeCases, List.map_map, List.length_map, List.length_zipIdx, List.range_eq_range',
      ← List.zipIdx_map_snd 0 run.caseResults, List.map_map]
    rfl
  have valid := BenchmarkRun.modelValidate_dump run
  have decoded : decodeRun (encode history) (encodeRun run) = .ok run := by
    have rows : caseRows (encode history) (encodeRun run).runId = encodeCases run :=
      caseRows_encode own distinct
    have start : Timestamps.fromisoformat (encodeRun run).startedAt = .ok (.utc run.startedAt) :=
      Timestamps.fromisoformat_isoformat run.startedRange
    have finish : Timestamps.fromisoformat (encodeRun run).finishedAt =
        .ok (.utc run.finishedAt) :=
      Timestamps.fromisoformat_isoformat run.finishedRange
    have early : boolean (encodeRun run).terminatedEarly = .ok run.terminatedEarly :=
      boolean_stored _
    have status : member statuses statusText (encodeRun run).status = .ok run.status :=
      member_status _
    have contiguous' : require ((encodeCases run).map (·.caseIndex) =
        (List.range (encodeCases run).length).map Int.ofNat) "non-contiguous case indices" =
        .ok () := require_ok_iff.mpr contiguous
    rw [decodeRun]
    simp only [start, finish, early, rows, status, contiguous', bind, Except.bind]
    rw [show restoreCases (encodeCases run) = .ok run.caseResults from results]
    exact valid
  rw [restoreRun, decoded]

theorem restoreRuns_encode {runs : List BenchmarkRun} (inside : ∀ run ∈ runs, run ∈ history)
    (distinct : (history.map (·.runId)).Nodup) :
    restoreRuns (encode history) (runs.map encodeRun) = .ok runs := by
  induction runs with
  | nil => rfl
  | cons run rest ih =>
    rw [List.map_cons, restoreRuns, restoreRun_encode (inside run List.mem_cons_self) distinct,
      ih fun other member => inside other (List.mem_cons_of_mem _ member)]
    rfl

end Restore

/-! ### Saving -/

section Save
variable {fault : Nat → Option PyError} {tables after : Tables} {history : List BenchmarkRun}
  {run : BenchmarkRun} {value : UncheckedRun}

theorem insertRun_value (inserted : insertRun tables row = .ok after) :
    after = { tables with runs := tables.runs ++ [row] } := by
  unfold insertRun at inserted
  split at inserted
  · cases inserted
  split at inserted
  · cases inserted
  exact (Except.ok.inj inserted).symm

theorem insertCase_value (inserted : insertCase tables row = .ok after) :
    after = { tables with cases := tables.cases ++ [row] } := by
  unfold insertCase at inserted
  split at inserted
  · cases inserted
  split at inserted
  · cases inserted
  exact (Except.ok.inj inserted).symm

theorem insertCases_value {results : List BenchmarkCaseResult}
    (inserted : insertCases fault runId position index results tables = .ok after) :
    after = { tables with cases := tables.cases ++
      (results.zipIdx index).map fun entry => encodeCase runId entry.2 entry.1 } := by
  induction results generalizing position index tables with
  | nil =>
    cases inserted
    simp
  | cons result rest ih =>
    obtain ⟨_, inserted⟩ := then_ok_iff.mp inserted
    obtain ⟨held, first, inserted⟩ := bind_ok_iff.mp inserted
    rw [ih inserted, insertCase_value first]
    simp [List.zipIdx_cons]

/-- A transaction that commits adds the rows of its run, whose identifier was
new. -/
theorem transaction_value (committed : transaction fault (encode history) run = .ok after) :
    run.runId ∉ history.map (·.runId) ∧ after = encode (history ++ [run]) := by
  obtain ⟨_, committed⟩ := then_ok_iff.mp committed
  obtain ⟨_, committed⟩ := then_ok_iff.mp committed
  obtain ⟨_, committed⟩ := then_ok_iff.mp committed
  split at committed
  · cases committed
  rename_i absent
  obtain ⟨_, committed⟩ := then_ok_iff.mp committed
  obtain ⟨inserted, first, committed⟩ := bind_ok_iff.mp committed
  obtain ⟨filled, others, committed⟩ := bind_ok_iff.mp committed
  obtain ⟨_, committed⟩ := then_ok_iff.mp committed
  cases committed
  refine ⟨fun known => absent ?_, ?_⟩
  · rw [encode, List.map_map]
    exact known
  · rw [insertCases_value others, insertRun_value first]
    simp [encode, encodeCases]

/-- A call of `save_run` raises and changes nothing, or adds exactly the run
its value validates to. -/
theorem saveRun_cases (fault : Nat → Option PyError) (history : List BenchmarkRun)
    (value : UncheckedRun) :
    (∃ error, saveRun fault (encode history) value = (.error error, encode history)) ∨
    ∃ run, value.validate = .ok run ∧ run.runId ∉ history.map (·.runId) ∧
      saveRun fault (encode history) value = (.ok (), encode (history ++ [run])) := by
  unfold saveRun
  cases result : value.validate >>= transaction fault (encode history) with
  | error error => exact .inl ⟨error, rfl⟩
  | ok after =>
    obtain ⟨run, validated, committed⟩ := bind_ok_iff.mp result
    obtain ⟨absent, rfl⟩ := transaction_value committed
    exact .inr ⟨run, validated, absent, rfl⟩

end Save

section Accept
variable {history : List BenchmarkRun} {run : BenchmarkRun} {result : BenchmarkCaseResult}

theorem not_nul_of_isIdentifier (identifier : isIdentifier text = true) :
    '\x00' ∉ text.toList := by
  unfold isIdentifier at identifier
  split at identifier
  · cases identifier
  · rename_i first rest written
    simp only [Bool.and_eq_true, List.all_eq_true] at identifier
    rw [written, List.mem_cons, not_or]
    constructor
    · rintro rfl
      exact absurd identifier.1 (by decide)
    · intro member
      exact absurd (identifier.2 _ member) (by decide)

theorem isIdentifier_measured (identifier : isIdentifier text = true) : 0 < sqlLength text := by
  rw [sqlLength_eq (not_nul_of_isIdentifier identifier)]
  apply Nat.pos_of_ne_zero
  rw [← String.length_toList, Ne, List.length_eq_zero_iff, String.toList_eq_nil_iff]
  exact ne_empty_of_identifier identifier

theorem isFingerprint_measured (digest : isFingerprint text = true) : sqlLength text = 64 := by
  simp only [isFingerprint, Bool.and_eq_true, decide_eq_true_eq, List.all_eq_true] at digest
  rw [sqlLength_eq, digest.1]
  intro member
  exact absurd (digest.2 _ member) (by decide)

/-- The CHECK constraints accept the rows of every valid run. -/
theorem encodeRun_checks (run : BenchmarkRun) : (encodeRun run).Checks := by
  have valid := run.wellFormed
  have config := valid.config
  have completed := valid.completed
  have failed := valid.failed
  have bound := run.completedResults_le
  simp only [BenchmarkRunConfig.check, then_ok_iff, require_ok_iff] at config
  refine ⟨isIdentifier_measured valid.runId, isIdentifier_measured valid.suiteId,
    isIdentifier_measured valid.suiteVersion, isFingerprint_measured valid.suiteFingerprint, ?_,
    valid.totalCases, ?_, ?_, ?_, config.1, config.2.1, config.2.2.1, config.2.2.2⟩
  · cases status : run.status <;> simp [encodeRun, status, statuses]
  · change 0 ≤ run.completedCases
    omega
  · change 0 ≤ run.executionFailedCases
    omega
  · cases early : run.terminatedEarly <;> simp [encodeRun, early]

theorem encodeCase_checks (runId : String) (index : Nat) (valid : result.check = .ok ()) :
    (encodeCase runId index result).Checks := by
  simp only [BenchmarkCaseResult.check, BenchmarkCaseResult.checkCount, then_ok_iff,
    require_ok_iff, checkSome_ok_iff] at valid
  obtain ⟨_, identifier, latency, input, output, total, evaluated, consistent⟩ := valid
  have scores : ∀ evaluation, result.evaluation = some evaluation →
      Rounding.InUnit evaluation.score := by
    intro evaluation held
    have passed := evaluated evaluation held
    simp only [CaseEvaluation.check, then_ok_iff, require_ok_iff] at passed
    exact passed.2.1
  refine ⟨isIdentifier_measured identifier, Int.natCast_nonneg _, ?_, latency, input, output,
    total, ?_, ?_, ?_⟩
  · cases status : result.executionStatus <;> simp [encodeCase, status, executions]
  · rintro score stored
    obtain ⟨evaluation, held, rfl⟩ := Option.map_eq_some_iff.mp stored
    exact scores evaluation held
  · rintro passed stored
    obtain ⟨evaluation, _, rfl⟩ := Option.map_eq_some_iff.mp stored
    cases evaluation.passed <;> simp
  · unfold BenchmarkCaseResult.consistentExecution at consistent
    cases status : result.executionStatus with
    | completed =>
      rw [status] at consistent
      obtain ⟨present, absent⟩ := require_ok_iff.mp consistent
      obtain ⟨evaluation, held⟩ := Option.isSome_iff_exists.mp present
      exact .inl ⟨by simp [encodeCase, status, executionText], by simp [encodeCase, absent],
        by simp [CaseRow.evaluationColumns, encodeCase, held]⟩
    | providerFailed =>
      rw [status] at consistent
      obtain ⟨absent, present⟩ := require_ok_iff.mp consistent
      obtain ⟨errorType, held⟩ := Option.isSome_iff_exists.mp present
      exact .inr ⟨by simp [encodeCase, status, executionText], by simp [encodeCase, held],
        by simp [CaseRow.evaluationColumns, encodeCase, absent]⟩

/-- Every integer of a run's rows binds. -/
structure Storable (run : BenchmarkRun) : Prop where
  row : (encodeRun run).Binds
  caseRows : ∀ row ∈ encodeCases run, row.Binds

/-- The integers of a run that its validators bound only from below fit in 64 bits. -/
structure FitsColumns (run : BenchmarkRun) : Prop where
  totalCases : Binds run.totalCases
  maxCases : Binds run.config.maxCases
  maxTokens : Binds run.config.maxTokens
  tokens : ∀ result ∈ run.caseResults,
    ∀ count ∈ [result.inputTokens, result.outputTokens, result.totalTokens],
      ∀ value ∈ count, Binds value

instance (run : BenchmarkRun) : Decidable (FitsColumns run) :=
  decidable_of_iff (Binds run.totalCases ∧ Binds run.config.maxCases ∧
      Binds run.config.maxTokens ∧ ∀ result ∈ run.caseResults,
        ∀ count ∈ [result.inputTokens, result.outputTokens, result.totalTokens],
          ∀ value ∈ count, Binds value)
    ⟨fun fits => ⟨fits.1, fits.2.1, fits.2.2.1, fits.2.2.2⟩,
      fun fits => ⟨fits.totalCases, fits.maxCases, fits.maxTokens, fits.tokens⟩⟩

/-- The counts of a valid run are no larger than its total, so that no other integers
matter. -/
theorem storable_iff : Storable run ↔ FitsColumns run := by
  constructor
  · intro storable
    have row := storable.row
    simp only [RunRow.Binds, encodeRun, List.forall_mem_cons] at row
    refine ⟨row.1, row.2.2.2.2.1, row.2.2.2.2.2.1, fun result member => ?_⟩
    obtain ⟨index, bound, rfl⟩ := List.getElem_of_mem member
    have listed : encodeCase run.runId index run.caseResults[index] ∈ encodeCases run := by
      refine List.mem_map.mpr ⟨(run.caseResults[index], index), ?_, rfl⟩
      exact List.mk_mem_zipIdx_iff_getElem?.mpr (List.getElem?_eq_getElem bound)
    have binds := (storable.caseRows _ listed).2
    simp only [encodeCase, List.forall_mem_cons] at binds ⊢
    exact ⟨binds.1, binds.2.1, binds.2.2.1, by simp⟩
  · intro fits
    have valid := run.wellFormed
    have total := valid.totalCases
    have within := valid.within
    have completed := valid.completed
    have failed := valid.failed
    have bound := run.completedResults_le
    have most := fits.totalCases
    unfold Binds at most
    constructor
    · intro value member
      simp only [encodeRun, List.mem_cons, List.not_mem_nil, or_false] at member
      rcases member with rfl | rfl | rfl | rfl | rfl | rfl
      · exact fits.totalCases
      · exact ⟨by omega, by omega⟩
      · exact ⟨by omega, by omega⟩
      · cases run.terminatedEarly <;> simp [Binds]
      · exact fits.maxCases
      · exact fits.maxTokens
    · intro row member
      obtain ⟨⟨result, index⟩, listed, rfl⟩ := List.mem_map.mp member
      have counted : index < run.caseResults.length := by
        simpa using List.snd_lt_of_mem_zipIdx listed
      have inside : result ∈ run.caseResults := List.fst_mem_of_mem_zipIdx listed
      refine ⟨⟨by simp only [encodeCase]; omega, by simp only [encodeCase]; omega⟩, ?_⟩
      have tokens := fits.tokens result inside
      simp only [encodeCase, List.forall_mem_cons] at tokens ⊢
      refine ⟨tokens.1, tokens.2.1, tokens.2.2.1, ?_, by simp⟩
      intro value stored
      obtain ⟨evaluation, _, rfl⟩ := Option.map_eq_some_iff.mp stored
      cases evaluation.passed <;> simp [Binds]

theorem insertCases_ok {results : List BenchmarkCaseResult} (tables : Tables) (runId : String)
    (position index : Nat) (known : runId ∈ tables.runs.map (·.runId))
    (distinct : (results.map (·.caseId)).Nodup)
    (earlier : ∀ row ∈ tables.cases, row.runId = runId →
      row.caseIndex < index ∧ row.caseId ∉ results.map (·.caseId))
    (valid : ∀ result ∈ results, result.check = .ok ())
    (binds : ∀ row ∈ (results.zipIdx index).map fun entry => encodeCase runId entry.2 entry.1,
      row.Binds) :
    ∃ after, insertCases (fun _ => none) runId position index results tables = .ok after := by
  induction results generalizing tables position index with
  | nil => exact ⟨tables, rfl⟩
  | cons result rest ih =>
    rw [List.zipIdx_cons, List.map_cons] at binds
    obtain ⟨fresh, others⟩ := List.nodup_cons.mp distinct
    have inserted : insertCase tables (encodeCase runId index result) =
        .ok { tables with cases := tables.cases ++ [encodeCase runId index result] } := by
      have bound : (encodeCase runId index result).Binds := binds _ List.mem_cons_self
      unfold insertCase
      rw [if_neg (not_not_intro bound), if_neg]
      rintro (rejected | unknown | sameIndex | sameCase)
      · exact rejected (encodeCase_checks runId index (valid result List.mem_cons_self))
      · exact unknown known
      · obtain ⟨row, member, same⟩ := List.mem_map.mp sameIndex
        simp only [Prod.mk.injEq] at same
        have before := (earlier row member same.1).1
        have index_eq : row.caseIndex = index := same.2
        omega
      · obtain ⟨row, member, same⟩ := List.mem_map.mp sameCase
        simp only [Prod.mk.injEq] at same
        have apart := (earlier row member same.1).2
        exact apart (same.2 ▸ List.mem_cons_self)
    have step := ih { tables with cases := tables.cases ++ [encodeCase runId index result] }
      (position + 1) (index + 1) known others ?_
      (fun other member => valid other (List.mem_cons_of_mem _ member))
      (fun row member => binds row (List.mem_cons_of_mem _ member))
    · obtain ⟨after, filled⟩ := step
      refine ⟨after, then_ok_iff.mpr ⟨rfl, bind_ok_iff.mpr ⟨_, inserted, filled⟩⟩⟩
    · intro row member own
      rcases List.mem_append.mp member with older | newest
      · obtain ⟨before, apart⟩ := earlier row older own
        exact ⟨by omega, fun listed => apart (List.mem_cons_of_mem _ listed)⟩
      · rw [List.mem_singleton.mp newest]
        exact ⟨by simp [encodeCase], fresh⟩

/-- Without a fault, a storable run with a new identifier is saved. -/
theorem saveRun_stores (absent : run.runId ∉ history.map (·.runId)) (storable : Storable run) :
    saveRun (fun _ => none) (encode history) (.typed run.modelDump) =
      (.ok (), encode (history ++ [run])) := by
  have unknown : run.runId ∉ (encode history).runs.map (·.runId) := by
    rw [encode, List.map_map]
    exact absent
  have inserted : insertRun (encode history) (encodeRun run) =
      .ok { encode history with runs := (encode history).runs ++ [encodeRun run] } := by
    unfold insertRun
    rw [if_neg (not_not_intro storable.row), if_neg]
    rintro (rejected | known)
    · exact rejected (encodeRun_checks run)
    · exact unknown known
  have valid := run.wellFormed
  obtain ⟨after, filled⟩ := insertCases_ok
    { encode history with runs := (encode history).runs ++ [encodeRun run] } run.runId 4 0
    (by simp [encodeRun]) valid.caseIds
    (by
      intro row member own
      obtain ⟨other, inside, listed⟩ := List.mem_flatMap.mp member
      obtain ⟨_, _, rfl⟩ := List.mem_map.mp listed
      exact absurd (List.mem_map.mpr ⟨other, inside, own⟩) absent)
    valid.results storable.caseRows
  have committed : transaction (fun _ => none) (encode history) run = .ok after := by
    unfold transaction
    rw [if_neg unknown]
    exact then_ok_iff.mpr ⟨rfl, then_ok_iff.mpr ⟨rfl, then_ok_iff.mpr ⟨rfl, then_ok_iff.mpr ⟨rfl,
      bind_ok_iff.mpr ⟨_, inserted, bind_ok_iff.mpr ⟨after, filled, then_ok_iff.mpr ⟨rfl, rfl⟩⟩⟩⟩⟩⟩⟩
  have validated : (UncheckedRun.typed run.modelDump).validate = .ok run :=
    BenchmarkRun.modelValidate_dump run
  have whole : ((UncheckedRun.typed run.modelDump).validate >>=
      transaction (fun _ => none) (encode history)) = .ok after :=
    bind_ok_iff.mpr ⟨run, validated, committed⟩
  rw [saveRun, whole, (transaction_value committed).2]

theorem insertRun_binds {tables after : Tables} {row : RunRow}
    (inserted : insertRun tables row = .ok after) : row.Binds := by
  unfold insertRun at inserted
  split at inserted
  · cases inserted
  · rename_i binds
    exact not_not.mp binds

theorem insertCases_binds {fault : Nat → Option PyError} {tables after : Tables} {runId : String}
    {position index : Nat} {results : List BenchmarkCaseResult}
    (inserted : insertCases fault runId position index results tables = .ok after) :
    ∀ row ∈ (results.zipIdx index).map fun entry => encodeCase runId entry.2 entry.1,
      row.Binds := by
  induction results generalizing position index tables with
  | nil => simp
  | cons result rest ih =>
    obtain ⟨_, inserted⟩ := then_ok_iff.mp inserted
    obtain ⟨held, first, inserted⟩ := bind_ok_iff.mp inserted
    rw [List.zipIdx_cons, List.map_cons, List.forall_mem_cons]
    refine ⟨?_, ih inserted⟩
    unfold insertCase at first
    split at first
    · cases first
    · rename_i binds
      exact not_not.mp binds

/-- A run that was saved is storable. -/
theorem storable_of_saved {fault : Nat → Option PyError} {tables after : Tables}
    (saved : saveRun fault tables (.typed run.modelDump) = (.ok (), after)) : Storable run := by
  unfold saveRun at saved
  split at saved
  · rename_i filled ran
    obtain ⟨other, validated, committed⟩ := bind_ok_iff.mp ran
    cases (BenchmarkRun.modelValidate_dump run).symm.trans validated
    obtain ⟨_, committed⟩ := then_ok_iff.mp committed
    obtain ⟨_, committed⟩ := then_ok_iff.mp committed
    obtain ⟨_, committed⟩ := then_ok_iff.mp committed
    split at committed
    · cases committed
    obtain ⟨_, committed⟩ := then_ok_iff.mp committed
    obtain ⟨inserted, first, committed⟩ := bind_ok_iff.mp committed
    obtain ⟨_, others, _⟩ := bind_ok_iff.mp committed
    exact ⟨insertRun_binds first, insertCases_binds others⟩
  · cases saved

end Accept

/-! ### Reading -/

section Read
variable {history : List BenchmarkRun} {run : BenchmarkRun}

theorem getRun_encode (distinct : (history.map (·.runId)).Nodup) (runId : String) :
    getRun (encode history) runId = .ok (history.find? (·.runId = runId)) := by
  have rows : (encode history).runs.find? (·.runId = runId) =
      (history.find? (·.runId = runId)).map encodeRun := by
    rw [encode, List.find?_map]
    rfl
  unfold getRun
  rw [rows]
  cases found : history.find? (·.runId = runId) with
  | some run =>
    simp [restoreRun_encode (List.mem_of_find?_eq_some found) distinct, Except.map]
  | none =>
    have orphanless : (encode history).cases.any (·.runId = runId) = false := by
      rw [List.any_eq_false]
      intro row member
      obtain ⟨run, inside, listed⟩ := List.mem_flatMap.mp member
      obtain ⟨_, _, rfl⟩ := List.mem_map.mp listed
      have other : run.runId ≠ runId := by simpa using List.find?_eq_none.mp found run inside
      simp [encodeCase, other]
    simp [orphanless]

/-- Sorting rows by their stored times is sorting runs by their instants. -/
private theorem sorted_rows {runs : List BenchmarkRun} (time : BenchmarkRun → Int)
    (range : ∀ run, Datetime.InRange (time run)) (column : RunRow → String)
    (stored : ∀ run, column (encodeRun run) = Timestamps.isoformat (time run)) :
    sortedBy (fun row => toLex (column row, row.runId)) (runs.map encodeRun) =
      (sortedBy (fun run => toLex (time run, run.runId)) runs).map encodeRun := by
  have alike : ∀ a ∈ runs, ∀ b ∈ runs,
      column (encodeRun a) ≤ column (encodeRun b) ↔ time a ≤ time b := by
    intro a _ b _
    rw [stored, stored, Timestamps.isoformat_le_iff (range a) (range b)]
  rw [sortedBy_map]
  exact congrArg (List.map encodeRun) (sortedBy_lex_congr alike)

theorem listMatchingRuns_encode (distinct : (history.map (·.runId)).Nodup) (scope : Scope) :
    listMatchingRuns (encode history) scope =
      .ok (sortedBy (fun run => toLex (run.finishedAt, run.runId))
        (history.filter fun run => (⟨run.provider, run.model, run.suiteId, run.suiteVersion,
          run.suiteFingerprint⟩ : Scope) = scope)) := by
  unfold listMatchingRuns
  have rows : (encode history).runs = history.map encodeRun := rfl
  rw [rows, List.filter_map]
  dsimp only
  rw [sorted_rows (·.finishedAt) (·.finishedRange) (·.finishedAt) fun _ => rfl]
  apply restoreRuns_encode _ distinct
  intro run member
  exact List.mem_of_mem_filter (mem_sortedBy.mp member)

theorem listRuns_encode (distinct : (history.map (·.runId)).Nodup) (filters : Filters)
    (low : 1 ≤ limit) (high : limit ≤ 100) :
    listRuns (encode history) limit filters =
      .ok ((sortedBy (fun run => toLex (run.startedAt, run.runId))
        (history.filter fun run =>
          filters.select run.provider run.model run.suiteId run.suiteVersion)).reverse.take
            limit.toNat) := by
  have orphanless : ((encode history).cases.any fun row =>
      row.runId ∉ (encode history).runs.map (·.runId)) = false := by
    rw [List.any_eq_false]
    intro row member
    obtain ⟨run, inside, listed⟩ := List.mem_flatMap.mp member
    obtain ⟨_, _, rfl⟩ := List.mem_map.mp listed
    have known : run.runId ∈ (encode history).runs.map (·.runId) := by
      rw [encode, List.map_map]
      exact List.mem_map_of_mem inside
    simpa [encodeCase] using known
  unfold listRuns
  rw [if_neg (by simp [low, high]), orphanless]
  have rows : (encode history).runs = history.map encodeRun := rfl
  rw [rows, List.filter_map]
  dsimp only
  rw [if_neg (by simp), sorted_rows (·.startedAt) (·.startedRange) (·.startedAt) fun _ => rfl,
    ← List.map_reverse, ← List.map_take]
  apply restoreRuns_encode _ distinct
  intro run member
  exact List.mem_of_mem_filter (mem_sortedBy.mp (List.mem_reverse.mp (List.mem_of_mem_take member)))

end Read

/-! ### Whole histories -/

/-- One call of `save_run`, with the faults its statements meet. -/
structure SaveCall where
  fault : Nat → Option PyError
  value : UncheckedRun

/-- The tables after a run of calls, and the values saved so far. -/
structure Journal where
  tables : Tables := {}
  saved : List BenchmarkRun := []

def Journal.save (journal : Journal) (call : SaveCall) : Journal :=
  match saveRun call.fault journal.tables call.value, call.value.validate with
  | (.ok (), after), .ok run => ⟨after, journal.saved ++ [run]⟩
  | (_, after), _ => { journal with tables := after }

def saveAll (calls : List SaveCall) : Journal := calls.foldl Journal.save {}

/-- The tables hold exactly the saved runs, each once. -/
structure Journal.Sound (journal : Journal) : Prop where
  tables : journal.tables = encode journal.saved
  distinct : (journal.saved.map (·.runId)).Nodup

theorem save_cases {journal : Journal} (sound : journal.Sound) (call : SaveCall) :
    (∃ error, saveRun call.fault journal.tables call.value = (.error error, journal.tables) ∧
      journal.save call = journal) ∨
    ∃ run, call.value.validate = .ok run ∧ run.runId ∉ journal.saved.map (·.runId) ∧
      saveRun call.fault journal.tables call.value =
        (.ok (), encode (journal.saved ++ [run])) ∧
      journal.save call = ⟨encode (journal.saved ++ [run]), journal.saved ++ [run]⟩ := by
  have cases := saveRun_cases call.fault journal.saved call.value
  rw [← sound.tables] at cases
  rcases cases with ⟨error, refused⟩ | ⟨run, validated, absent, stored⟩
  · refine .inl ⟨error, refused, ?_⟩
    rw [Journal.save, refused]
  · refine .inr ⟨run, validated, absent, stored, ?_⟩
    rw [Journal.save, stored, validated]

theorem save_sound {journal : Journal} (sound : journal.Sound) (call : SaveCall) :
    (journal.save call).Sound := by
  rcases save_cases sound call with ⟨_, _, same⟩ | ⟨run, _, absent, _, stored⟩
  · rw [same]
    exact sound
  · rw [stored]
    refine ⟨rfl, ?_⟩
    rw [List.map_append, List.map_singleton]
    exact List.nodup_append.mpr ⟨sound.distinct, List.nodup_singleton _, by
      rintro a inA b inB rfl
      exact absent (List.mem_singleton.mp inB ▸ inA)⟩

theorem foldl_save_sound {journal : Journal} (sound : journal.Sound) (calls : List SaveCall) :
    (calls.foldl Journal.save journal).Sound ∧
      journal.saved <+: (calls.foldl Journal.save journal).saved := by
  induction calls generalizing journal with
  | nil => exact ⟨sound, List.prefix_rfl⟩
  | cons call rest ih =>
    obtain ⟨later, grown⟩ := ih (save_sound sound call)
    refine ⟨later, List.IsPrefix.trans ?_ grown⟩
    rcases save_cases sound call with ⟨_, _, same⟩ | ⟨run, _, _, _, stored⟩
    · rw [same]
    · rw [stored]
      exact List.prefix_append _ _

theorem saveAll_sound (calls : List SaveCall) : (saveAll calls).Sound := by
  have empty : Journal.Sound {} := ⟨rfl, List.nodup_nil⟩
  exact (foldl_save_sound empty calls).1

/-- The benchmark history is an append-only map. After any calls: the next call
raises and changes nothing or adds exactly its run under a new identifier; what
was saved stays saved and is read back as it was; and every read succeeds with
the saved runs it names, in its order. -/
theorem store_is_append_only (calls : List SaveCall) :
    (saveAll calls).Sound ∧
    (∀ next : SaveCall,
      (∃ error, saveRun next.fault (saveAll calls).tables next.value =
        (.error error, (saveAll calls).tables) ∧ saveAll (calls ++ [next]) = saveAll calls) ∨
      ∃ run, next.value.validate = .ok run ∧ run.runId ∉ (saveAll calls).saved.map (·.runId) ∧
        saveRun next.fault (saveAll calls).tables next.value =
          (.ok (), encode ((saveAll calls).saved ++ [run])) ∧
        (saveAll (calls ++ [next])).saved = (saveAll calls).saved ++ [run]) ∧
    (∀ later, ∀ run ∈ (saveAll calls).saved,
      getRun (saveAll (calls ++ later)).tables run.runId = .ok (some run)) ∧
    (∀ runId, getRun (saveAll calls).tables runId =
      .ok ((saveAll calls).saved.find? (·.runId = runId))) ∧
    (∀ limit filters, 1 ≤ limit → limit ≤ 100 →
      listRuns (saveAll calls).tables limit filters =
        .ok ((sortedBy (fun run => toLex (run.startedAt, run.runId))
          ((saveAll calls).saved.filter fun run =>
            filters.select run.provider run.model run.suiteId run.suiteVersion)).reverse.take
              limit.toNat)) ∧
    (∀ scope, listMatchingRuns (saveAll calls).tables scope =
      .ok (sortedBy (fun run => toLex (run.finishedAt, run.runId))
        ((saveAll calls).saved.filter fun run => (⟨run.provider, run.model, run.suiteId,
          run.suiteVersion, run.suiteFingerprint⟩ : Scope) = scope))) := by
  have sound := saveAll_sound calls
  refine ⟨sound, fun next => ?_, fun later run saved => ?_, fun runId => ?_,
    fun limit filters low high => ?_, fun scope => ?_⟩
  · have step : saveAll (calls ++ [next]) = (saveAll calls).save next := by
      simp [saveAll, List.foldl_append]
    rw [step]
    rcases save_cases sound next with ⟨error, refused, same⟩ | ⟨run, validated, absent, stored, grown⟩
    · exact .inl ⟨error, refused, same⟩
    · exact .inr ⟨run, validated, absent, stored, by rw [grown]⟩
  · have extended : saveAll (calls ++ later) = later.foldl Journal.save (saveAll calls) := by
      simp [saveAll, List.foldl_append]
    obtain ⟨soundLater, grown⟩ := foldl_save_sound sound later
    rw [extended, soundLater.tables, getRun_encode soundLater.distinct]
    have inside := grown.subset saved
    congr 1
    cases found : (later.foldl Journal.save (saveAll calls)).saved.find?
        (·.runId = run.runId) with
    | none => simpa using List.find?_eq_none.mp found run inside
    | some other =>
      have same : other.runId = run.runId := by simpa using List.find?_some found
      rw [List.inj_on_of_nodup_map soundLater.distinct (List.mem_of_find?_eq_some found) inside
        same]
  · rw [sound.tables]
    exact getRun_encode sound.distinct runId
  · rw [sound.tables]
    exact listRuns_encode sound.distinct filters low high
  · rw [sound.tables]
    exact listMatchingRuns_encode sound.distinct scope

end ModelPilot.BenchmarkStore
