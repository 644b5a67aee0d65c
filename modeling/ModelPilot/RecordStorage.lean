import ModelPilot.AdapterOutcomes
import ModelPilot.AttemptRows
import ModelPilot.BenchmarkExecution
import ModelPilot.BenchmarkStoreProofs
import ModelPilot.MetricsWindow

/-! Which records fit their columns. Validation bounds a count only from below, and
SQLite bounds its integers from above; validation asks for a text, and SQLite measures
it up to its first NUL. A record in between is lost after its call was made. -/
namespace ModelPilot.RecordStorage

open BenchmarkStore (Binds FitsColumns LeadsWithNul SaveCall saveAll saveRun sqlLength_pos_iff)
open MetricsStore (AttemptRow Stored attemptFromRow encodeAttempt encodeAttempt_ok_iff insertAttempt
  recordAttempt rowOf)

section Attempts
variable {rows : List AttemptRow} {row : AttemptRow} {attempt : AttemptRecord}
  {outcome : ProviderOutcome} {requestId : String} {attemptIndex : Nat}
  {pricing : Option ModelPricing} {createdAt : Int}

/-- The CHECK constraints accept the row of an attempt whose pair SQLite can measure. -/
theorem rowOf_checks_iff (id : Nat) (attempt : AttemptRecord) : (rowOf id attempt).Checks ↔
    ¬ LeadsWithNul attempt.provider ∧ ¬ LeadsWithNul attempt.model := by
  have valid := attempt.valid
  simp only [AttemptFields.check, then_ok_iff, require_ok_iff] at valid
  obtain ⟨_, provider, model, latency, _⟩ := valid
  have count {tokens : Option Nat} : ∀ value ∈ tokens.map Int.ofNat, 0 ≤ value := by
    intro value held
    obtain ⟨natural, _, rfl⟩ := Option.map_eq_some_iff.mp held
    exact Int.natCast_nonneg natural
  have flag : (rowOf id attempt).success = 0 ∨ (rowOf id attempt).success = 1 := by
    cases success : attempt.success <;> simp [rowOf, success]
  simp only [AttemptRow.Checks, sqlLength_pos_iff]
  constructor
  · rintro ⟨_, ⟨_, visible⟩, ⟨_, named⟩, _⟩
    exact ⟨visible, named⟩
  · rintro ⟨visible, named⟩
    exact ⟨Int.natCast_nonneg _, ⟨provider, visible⟩, ⟨model, named⟩, latency, flag, count,
      count, count⟩

/-- Without a fault, an attempt under a new key is recorded exactly when its integers
bind, its pair can be measured and its times can be written. -/
theorem recordAttempt_ok_iff
    (fresh : ∀ row ∈ rows, ¬ (row.requestId = attempt.requestId ∧
      row.attemptIndex = attempt.attemptIndex)) :
    recordAttempt (fun _ => none) rows attempt =
        (.ok (), rows ++ [rowOf (rows.length + 1) attempt]) ↔
      Stored (rowOf (rows.length + 1) attempt) attempt ∧
        (rowOf (rows.length + 1) attempt).Binds ∧
        ¬ LeadsWithNul attempt.provider ∧ ¬ LeadsWithNul attempt.model := by
  rw [← rowOf_checks_iff (rows.length + 1)]
  constructor
  · intro recorded
    unfold recordAttempt at recorded
    split at recorded
    · rename_i after ran
      obtain ⟨_, ran⟩ := then_ok_iff.mp ran
      obtain ⟨row, encoded, ran⟩ := bind_ok_iff.mp ran
      obtain ⟨stored, id⟩ := encodeAttempt_ok_iff.mp encoded
      have same : row = rowOf (rows.length + 1) attempt := by rw [stored.row, id]
      subst same
      obtain ⟨_, ran⟩ := then_ok_iff.mp ran
      obtain ⟨inserted, added, _⟩ := bind_ok_iff.mp ran
      unfold insertAttempt at added
      split at added
      · cases added
      rename_i binds
      split at added
      · cases added
      · rename_i accepted
        exact ⟨stored, not_not.mp binds, not_not.mp (not_or.mp accepted).1⟩
    · cases recorded
  · rintro ⟨stored, binds, checks⟩
    have unknown : ¬ (rows.any fun other =>
        other.requestId = (rowOf (rows.length + 1) attempt).requestId &&
          other.attemptIndex = (rowOf (rows.length + 1) attempt).attemptIndex) = true := by
      rw [List.any_eq_true]
      rintro ⟨other, member, same⟩
      rw [Bool.and_eq_true, decide_eq_true_eq, decide_eq_true_eq] at same
      exact fresh other member same
    have added : insertAttempt rows (rowOf (rows.length + 1) attempt) =
        .ok (rows ++ [rowOf (rows.length + 1) attempt]) := by
      unfold insertAttempt
      rw [if_neg (not_not_intro binds), if_neg]
      rintro (rejected | known)
      · exact rejected checks
      · exact unknown known
    have ran : MetricsStore.attemptTransaction (fun _ => none) rows attempt =
        .ok (rows ++ [rowOf (rows.length + 1) attempt]) :=
      then_ok_iff.mpr ⟨rfl, bind_ok_iff.mpr ⟨_, encodeAttempt_ok_iff.mpr ⟨stored, rfl⟩,
        then_ok_iff.mpr ⟨rfl, bind_ok_iff.mpr ⟨_, added, then_ok_iff.mpr ⟨rfl, rfl⟩⟩⟩⟩⟩
    unfold recordAttempt
    rw [ran]

/-- The row of an outcome is derived, recorded, and read back as it was. -/
def AttemptKept (rows : List AttemptRow) (outcome : ProviderOutcome) (requestId : String)
    (attemptIndex : Nat) (pricing : Option ModelPricing) (createdAt : Int) : Prop :=
  ∃ attempt row, attemptFromOutcome outcome requestId attemptIndex pricing createdAt =
      .ok attempt ∧
    recordAttempt (fun _ => none) rows attempt = (.ok (), rows ++ [row]) ∧
    attemptFromRow row = .ok attempt

/-- The cost of the outcome stays in the range of `Decimal`, its integers in that of
SQLite, and SQLite measures its pair. -/
structure OutcomeFits (outcome : ProviderOutcome) (attemptIndex : Nat)
    (pricing : Option ModelPricing) : Prop where
  priced : ∃ cost, estimateCost pricing outcome.inputTokens outcome.outputTokens = .ok cost
  index : Binds attemptIndex
  tokens : ∀ count ∈ [outcome.inputTokens, outcome.outputTokens, outcome.totalTokens],
    ∀ value ∈ count, Binds value
  provider : ¬ LeadsWithNul outcome.provider
  model : ¬ LeadsWithNul outcome.model

/-- What an attempt takes from its outcome. -/
structure Derived (outcome : ProviderOutcome) (requestId : String) (attemptIndex : Nat)
    (createdAt : Int) (attempt : AttemptRecord) : Prop where
  requestId : attempt.requestId = requestId
  attemptIndex : attempt.attemptIndex = attemptIndex
  provider : attempt.provider = outcome.provider
  model : attempt.model = outcome.model
  startedAt : attempt.startedAt = outcome.startedAt
  finishedAt : attempt.finishedAt = outcome.finishedAt
  createdAt : attempt.createdAt = createdAt
  inputTokens : attempt.inputTokens = outcome.inputTokens
  outputTokens : attempt.outputTokens = outcome.outputTokens
  totalTokens : attempt.totalTokens = outcome.totalTokens

theorem attemptFromOutcome_derived
    (built : attemptFromOutcome outcome requestId attemptIndex pricing createdAt = .ok attempt) :
    Derived outcome requestId attemptIndex createdAt attempt ∧
      ∃ cost, estimateCost pricing outcome.inputTokens outcome.outputTokens = .ok cost := by
  obtain ⟨cost, estimated, validated⟩ := bind_ok_iff.mp built
  unfold AttemptRecord.modelValidate at validated
  split at validated
  · cases validated
    exact ⟨⟨rfl, rfl, rfl, rfl, rfl, rfl, rfl, rfl, rfl, rfl⟩, cost, estimated⟩
  · cases validated

theorem rowOf_binds_iff (id : Nat)
    (derived : Derived outcome requestId attemptIndex createdAt attempt) :
    (rowOf id attempt).Binds ↔ Binds attemptIndex ∧
      ∀ count ∈ [outcome.inputTokens, outcome.outputTokens, outcome.totalTokens],
        ∀ value ∈ count, Binds value := by
  have counts (tokens : Option Nat) : (∀ value ∈ tokens.map Int.ofNat, Binds value) ↔
      ∀ value ∈ tokens, Binds value := by
    cases tokens <;> simp
  simp only [AttemptRow.Binds, rowOf, List.forall_mem_cons, counts, derived.attemptIndex,
    derived.inputTokens, derived.outputTokens, derived.totalTokens]
  simp

/-- The attempt of a call is kept exactly when it fits. -/
theorem attemptKept_iff (named : requestId ≠ "") (started : Datetime.InRange outcome.startedAt)
    (finished : Datetime.InRange outcome.finishedAt) (created : Datetime.InRange createdAt)
    (fresh : ∀ row ∈ rows, ¬ (row.requestId = requestId ∧ row.attemptIndex = attemptIndex)) :
    AttemptKept rows outcome requestId attemptIndex pricing createdAt ↔
      OutcomeFits outcome attemptIndex pricing := by
  constructor
  · rintro ⟨attempt, row, built, recorded, read⟩
    obtain ⟨derived, priced⟩ := attemptFromOutcome_derived built
    have absent : ∀ row ∈ rows, ¬ (row.requestId = attempt.requestId ∧
        row.attemptIndex = attempt.attemptIndex) := by
      rw [derived.requestId, derived.attemptIndex]
      exact fresh
    rcases MetricsStore.recordAttempt_rows (fun _ => none) rows attempt with
      ⟨error, refused⟩ | ⟨other, added, stored, id⟩
    · rw [recorded] at refused
      cases refused
    · rw [stored.row, id] at added
      obtain ⟨_, binds, visible, named⟩ := (recordAttempt_ok_iff absent).mp added
      obtain ⟨index, tokens⟩ := (rowOf_binds_iff _ derived).mp binds
      exact ⟨priced, index, tokens, derived.provider ▸ visible, derived.model ▸ named⟩
  · rintro ⟨⟨cost, estimated⟩, index, tokens, visible, modelVisible⟩
    obtain ⟨attempt, built, _⟩ :=
      attemptFromOutcome_ok requestId attemptIndex createdAt named estimated
    obtain ⟨derived, _⟩ := attemptFromOutcome_derived built
    have absent : ∀ row ∈ rows, ¬ (row.requestId = attempt.requestId ∧
        row.attemptIndex = attempt.attemptIndex) := by
      rw [derived.requestId, derived.attemptIndex]
      exact fresh
    have stored : Stored (rowOf (rows.length + 1) attempt) attempt :=
      ⟨rfl, derived.startedAt ▸ started, derived.finishedAt ▸ finished,
        derived.createdAt ▸ created⟩
    have binds := (rowOf_binds_iff (rows.length + 1) derived).mpr ⟨index, tokens⟩
    exact ⟨attempt, _, built, (recordAttempt_ok_iff absent).mpr ⟨stored, binds,
      derived.provider ▸ visible, derived.model ▸ modelVisible⟩,
      MetricsStore.attemptFromRow_stored stored⟩

end Attempts

section Runs
variable {run : BenchmarkRun}

/-- The run is saved after these calls of `save_run`. -/
def RunKept (calls : List SaveCall) (run : BenchmarkRun) : Prop :=
  saveRun (fun _ => none) (saveAll calls).tables (.typed run.modelDump) =
    (.ok (), BenchmarkStore.encode ((saveAll calls).saved ++ [run]))

/-- A run under a new identifier is kept exactly when it fits. -/
theorem runKept_iff (calls : List SaveCall)
    (fresh : run.runId ∉ (saveAll calls).saved.map (·.runId)) :
    RunKept calls run ↔ FitsColumns run := by
  rw [← BenchmarkStore.storable_iff]
  refine ⟨fun kept => BenchmarkStore.storable_of_saved kept, fun storable => ?_⟩
  unfold RunKept
  rw [(BenchmarkStore.saveAll_sound calls).tables]
  exact BenchmarkStore.saveRun_stores fresh storable

/-- Which records are kept by a store without faults. The row of a call: exactly when its
cost can be estimated, its integers fit in 64 bits and neither name of its pair leads with a
NUL. A run under a new identifier: exactly when its integers fit. -/
theorem records_kept_iff (rows : List AttemptRow) (outcome : ProviderOutcome)
    (requestId : String) (attemptIndex : Nat) (pricing : Option ModelPricing) (createdAt : Int)
    (calls : List SaveCall) (run : BenchmarkRun) :
    (requestId ≠ "" → Datetime.InRange outcome.startedAt → Datetime.InRange outcome.finishedAt →
      Datetime.InRange createdAt →
      (∀ row ∈ rows, ¬ (row.requestId = requestId ∧ row.attemptIndex = attemptIndex)) →
      (AttemptKept rows outcome requestId attemptIndex pricing createdAt ↔
        OutcomeFits outcome attemptIndex pricing)) ∧
    (run.runId ∉ (saveAll calls).saved.map (·.runId) → (RunKept calls run ↔ FitsColumns run)) :=
  ⟨fun named started finished created fresh =>
    attemptKept_iff named started finished created fresh, runKept_iff calls⟩

end Runs

section Limits
open Adapter (answered completionBody forwardWorld greeting openAIAdapter)
open BenchmarkRunner (lateThenRefusing literalPlatform openaiTarget refusal twoCases)

/-- A count of 2 ^ 63. -/
def largeUsage : Json := .obj [("prompt_tokens", .int 9223372036854775808)]

/-- A model name of four characters, of which SQLite measures none. -/
def nulModel : String := "\x00gpt"

private theorem nul_call :
    (openAIAdapter.complete (fun message _ => message)
      (fun _ => .ok (answered 200 (completionBody .null))) forwardWorld greeting
      nulModel).toOption.map (fun outcome =>
        (outcome.startedAt, outcome.finishedAt, outcome.model)) =
      some (100000, 105000, nulModel) := by
  decide +kernel

private theorem large_call :
    (openAIAdapter.complete (fun message _ => message)
      (fun _ => .ok (answered 200 (completionBody largeUsage))) forwardWorld greeting
      "gpt-4o-mini").toOption.map (fun outcome =>
        (outcome.startedAt, outcome.finishedAt, outcome.inputTokens)) =
      some (100000, 105000, some 9223372036854775808) := by
  decide +kernel

private theorem large_config :
    BenchmarkRunConfig.check { maxCases := 9223372036854775808 } = .ok () := by
  decide +kernel

private theorem large_run :
    (BenchmarkRunner.run literalPlatform twoCases openaiTarget lateThenRefusing
      (some ⟨{ maxCases := 9223372036854775808 }, large_config⟩)
      ⟨.utc 1, .utc 2, "run-1"⟩).toOption.map (fun held => decide (FitsColumns held)) =
      some false := by
  decide +kernel

/-- A call with a count of 2 ^ 63 loses its row, so does a call for a model whose name leads
with a NUL, and a run with that many cases allowed is not saved. -/
theorem large_records_lost :
    (∃ outcome, openAIAdapter.complete (fun message _ => message)
        (fun _ => .ok (answered 200 (completionBody largeUsage))) forwardWorld greeting
        "gpt-4o-mini" = .ok outcome ∧ ¬ AttemptKept [] outcome "request-1" 0 none 105000) ∧
    (∃ outcome, openAIAdapter.complete (fun message _ => message)
        (fun _ => .ok (answered 200 (completionBody .null))) forwardWorld greeting nulModel =
        .ok outcome ∧ ¬ AttemptKept [] outcome "request-1" 0 none 105000) ∧
    ∃ run, BenchmarkRunner.run literalPlatform twoCases openaiTarget lateThenRefusing
        (some ⟨{ maxCases := 9223372036854775808 }, large_config⟩) ⟨.utc 1, .utc 2, "run-1"⟩ =
        .ok run ∧ ¬ RunKept [] run := by
  refine ⟨?_, ?_, ?_⟩
  · obtain ⟨outcome, ended, seen⟩ := Option.map_eq_some_iff.mp large_call
    simp only [Prod.mk.injEq] at seen
    obtain ⟨started, finished, counted⟩ := seen
    refine ⟨outcome, toOption_eq_some_iff.mp ended, fun kept => ?_⟩
    have fits := (attemptKept_iff (by decide) (by rw [started]; decide)
      (by rw [finished]; decide) (by decide) (by simp)).mp kept
    have input := fits.tokens outcome.inputTokens List.mem_cons_self 9223372036854775808
      (by rw [counted]; rfl)
    exact absurd input.2 (by decide)
  · obtain ⟨outcome, ended, seen⟩ := Option.map_eq_some_iff.mp nul_call
    simp only [Prod.mk.injEq] at seen
    obtain ⟨started, finished, named⟩ := seen
    refine ⟨outcome, toOption_eq_some_iff.mp ended, fun kept => ?_⟩
    have fits := (attemptKept_iff (by decide) (by rw [started]; decide)
      (by rw [finished]; decide) (by decide) (by simp)).mp kept
    apply fits.model
    rw [named]
    decide
  · obtain ⟨run, ended, seen⟩ := Option.map_eq_some_iff.mp large_run
    refine ⟨run, toOption_eq_some_iff.mp ended, fun kept => ?_⟩
    exact of_decide_eq_false seen ((runKept_iff [] (by simp [saveAll])).mp kept)

private theorem small_run :
    (BenchmarkRunner.run literalPlatform twoCases openaiTarget lateThenRefusing none
      ⟨.utc 1, .utc 2, "run-1"⟩).toOption.map (fun held => decide (FitsColumns held)) =
      some true := by
  decide +kernel

theorem small_records_kept :
    AttemptKept [] refusal "request-1" 0 none 200 ∧
    ∃ run, BenchmarkRunner.run literalPlatform twoCases openaiTarget lateThenRefusing none
        ⟨.utc 1, .utc 2, "run-1"⟩ = .ok run ∧ RunKept [] run := by
  obtain ⟨run, ended, seen⟩ := Option.map_eq_some_iff.mp small_run
  obtain ⟨attempts, runs⟩ := records_kept_iff [] refusal "request-1" 0 none 200 [] run
  constructor
  · refine (attempts (by decide) (by decide) (by decide) (by decide) (by simp)).mpr
      ⟨⟨none, rfl⟩, by decide, by simp [refusal], by decide, by decide⟩
  · exact ⟨run, toOption_eq_some_iff.mp ended,
      (runs (by simp [saveAll])).mpr (of_decide_eq_true seen)⟩

end Limits

end ModelPilot.RecordStorage
