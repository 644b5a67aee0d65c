import ModelPilot.GatewayCourse

/-! The attempt rows a call leaves: one for its outcome, unless the store fails or
the cost of the call leaves the range of `Decimal`. -/
namespace ModelPilot

section Costs

theorem Decimal.fix_nonneg (nonneg : 0 ≤ value) (fixed : Decimal.fix value = .ok result) :
    0 ≤ result := by
  unfold Decimal.fix at fixed
  split at fixed
  · cases fixed
    exact le_refl 0
  · dsimp only at fixed
    split at fixed
    · cases fixed
    · cases fixed
      have unit : (0 : ℚ) ≤ 10 ^ max (Int.log 10 |value| - 27) (-1000026) :=
        le_of_lt (zpow_pos (by norm_num) _)
      have rounded := roundHalfEven_nonneg (div_nonneg nonneg unit)
      exact mul_nonneg (by exact_mod_cast rounded) unit

/-- A cost is never negative. -/
theorem estimateCost_nonneg {pricing : Option ModelPricing}
    (estimated : estimateCost pricing inputTokens outputTokens = .ok cost) :
    ∀ value ∈ cost, 0 ≤ value := by
  unfold estimateCost at estimated
  split at estimated
  · rename_i pricing inputTokens outputTokens
    obtain ⟨input, inputFixed, estimated⟩ := bind_ok_iff.mp estimated
    obtain ⟨output, outputFixed, estimated⟩ := bind_ok_iff.mp estimated
    obtain ⟨total, totalFixed, estimated⟩ := bind_ok_iff.mp estimated
    obtain ⟨cost, costFixed, estimated⟩ := bind_ok_iff.mp estimated
    cases estimated
    have inputNonneg := Decimal.fix_nonneg
      (mul_nonneg (Nat.cast_nonneg inputTokens) pricing.nonneg.1) inputFixed
    have outputNonneg := Decimal.fix_nonneg
      (mul_nonneg (Nat.cast_nonneg outputTokens) pricing.nonneg.2) outputFixed
    have totalNonneg := Decimal.fix_nonneg (add_nonneg inputNonneg outputNonneg) totalFixed
    have costNonneg := Decimal.fix_nonneg (div_nonneg totalNonneg (by norm_num)) costFixed
    simpa using costNonneg
  · cases estimated
    simp

end Costs

/-- Whose call a row is about, and how it ended. -/
def AttemptRecord.about (row : AttemptRecord) : String × Nat × Key × Bool :=
  (row.requestId, row.attemptIndex, (row.provider, row.model), row.success)

/-- An outcome whose cost can be estimated has a row. -/
theorem attemptFromOutcome_ok {outcome : ProviderOutcome} {pricing : Option ModelPricing}
    {cost : Option ℚ} (requestId : String) (attemptIndex : Nat) (createdAt : Int)
    (named : requestId ≠ "")
    (estimated : estimateCost pricing outcome.inputTokens outcome.outputTokens = .ok cost) :
    ∃ row, attemptFromOutcome outcome requestId attemptIndex pricing createdAt = .ok row ∧
      row.about = (requestId, attemptIndex, outcome.key, outcome.success) := by
  unfold attemptFromOutcome
  rw [estimated]
  simp only [bind, Except.bind]
  unfold AttemptRecord.modelValidate
  split
  · exact ⟨_, rfl, rfl⟩
  · rename_i refused
    have nonneg := estimateCost_nonneg estimated
    have accepted : ∀ fields : AttemptFields, fields.requestId = requestId →
        fields.provider = outcome.provider → fields.model = outcome.model →
        fields.latencyMs = outcome.latencyMs → fields.estimatedCost = cost →
        fields.startedAt = outcome.startedAt → fields.finishedAt = outcome.finishedAt →
        fields.check = .ok () := by
      intro fields request provider model latency costs started finished
      simp only [AttemptFields.check, then_ok_iff, require_ok_iff, checkSome_ok_iff, request,
        provider, model, latency, costs, started, finished]
      exact ⟨named, outcome.named.1, outcome.named.2, outcome.latency, nonneg, outcome.timed⟩
    rw [accepted _ rfl rfl rfl rfl rfl rfl rfl] at refused
    cases refused

theorem about_of_attemptFromOutcome {outcome : ProviderOutcome} {pricing : Option ModelPricing}
    {row : AttemptRecord}
    (built : attemptFromOutcome outcome requestId attemptIndex pricing createdAt = .ok row) :
    row.about = (requestId, attemptIndex, outcome.key, outcome.success) := by
  obtain ⟨_, _, validated⟩ := bind_ok_iff.mp built
  unfold AttemptRecord.modelValidate at validated
  split at validated
  · cases validated
    rfl
  · cases validated

namespace GatewayService

/-- The outcome of a call that gave one. -/
def outcome? : CallResult → Option ProviderOutcome
  | .outcome outcome => some outcome
  | _ => none

/-- The cost of the call's outcome leaves the range of `Decimal`. -/
def CostOverflows (world : AttemptWorld) : Prop :=
  ∃ outcome error, world.result = .outcome outcome ∧
    estimateCost world.getPricing.toOption.join outcome.inputTokens outcome.outputTokens =
      .error error

variable {service : GatewayService} {requestId : String} {world : AttemptWorld}

/-- A call leaves at most one row, which is about its outcome. -/
theorem rowAt_cases (service : GatewayService) (world : AttemptWorld) (requestId : String)
    (index : Nat) : service.rowAt world requestId index = [] ∨
      ∃ row outcome, service.rowAt world requestId index = [row] ∧
        world.result = .outcome outcome ∧
        row.about = (requestId, index, outcome.key, outcome.success) := by
  unfold rowAt recordResult
  split
  · rename_i outcome ended
    unfold recordProviderAttempt
    split
    · exact .inl rfl
    · dsimp only
      split
      · exact .inl rfl
      · rename_i row built
        split
        · exact .inl rfl
        · exact .inr ⟨row, outcome, rfl, ended, about_of_attemptFromOutcome built⟩
  · exact .inl rfl

/-- With a working store the row of an outcome is missing exactly when its cost
overflows. -/
theorem rowAt_recorded (index : Nat) (metrics : service.metrics = true)
    (works : world.recordAttempt = none) (named : requestId ≠ "") {outcome : ProviderOutcome}
    (ended : world.result = .outcome outcome) :
    service.rowAt world requestId index = [] ↔ CostOverflows world := by
  unfold rowAt recordResult
  rw [ended]
  simp only [recordProviderAttempt, metrics, works, Option.isSome_none, not_true_eq_false,
    Bool.false_eq_true, if_false]
  cases estimated : estimateCost world.getPricing.toOption.join outcome.inputTokens
      outcome.outputTokens with
  | error error =>
    have refused : attemptFromOutcome outcome requestId index world.getPricing.toOption.join
        world.createdAt = .error error := by
      rw [attemptFromOutcome, estimated]
      rfl
    rw [refused]
    exact ⟨fun _ => ⟨outcome, error, ended, estimated⟩, fun _ => rfl⟩
  | ok cost =>
    obtain ⟨row, built, _⟩ := attemptFromOutcome_ok requestId index world.createdAt named estimated
    rw [built]
    refine ⟨fun empty => ?_, ?_⟩
    · cases empty
    · rintro ⟨other, error, same, overflows⟩
      rw [ended] at same
      cases same
      rw [estimated] at overflows
      cases overflows

end GatewayService
end ModelPilot
