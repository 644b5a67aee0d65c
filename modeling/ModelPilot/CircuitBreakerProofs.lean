import ModelPilot.CircuitBreaker

/-! What one transition of the circuit breaker can do. Every re-validation of a
new record passes, so a transition is refused only for a stale time, for an
outcome against a circuit whose cooldown still runs, or for a deadline beyond
the datetime range. -/
namespace ModelPilot

namespace ProviderHealth

/-- The record is `OPEN` and its cooldown has ended by `at_`. -/
def Expired (health : ProviderHealth) (at_ : Int) : Prop :=
  health.state = .opened ∧ health.cooldownUntil.any (· ≤ at_) = true

/-- The record is `OPEN` and its cooldown still runs at `at_`. -/
def Blocked (health : ProviderHealth) (at_ : Int) : Prop :=
  health.state = .opened ∧ health.cooldownUntil.any (at_ < ·) = true

instance (health : ProviderHealth) (at_ : Int) : Decidable (health.Expired at_) :=
  inferInstanceAs (Decidable (_ ∧ _))

instance (health : ProviderHealth) (at_ : Int) : Decidable (health.Blocked at_) :=
  inferInstanceAs (Decidable (_ ∧ _))

/-- The record is `HALF_OPEN`, or will be once it is advanced to `at_`. -/
def Recovering (health : ProviderHealth) (at_ : Int) : Prop :=
  health.state = .halfOpen ∨ health.Expired at_

instance (health : ProviderHealth) (at_ : Int) : Decidable (health.Recovering at_) :=
  inferInstanceAs (Decidable (_ ∨ _))

theorem ext_fields {left right : ProviderHealth}
    (same : left.toHealthFields = right.toHealthFields) : left = right := by
  cases left
  cases right
  cases same
  rfl

theorem wellFormed (health : ProviderHealth) : health.toHealthFields.Valid :=
  (HealthFields.check_ok_iff _).mp health.valid

theorem modelValidate_valid (valid : fields.Valid) :
    ∃ health, modelValidate fields = .ok health ∧ health.toHealthFields = fields := by
  have accepted := (HealthFields.check_ok_iff fields).mpr valid
  exact ⟨⟨fields, accepted⟩, validated_ok (ProviderHealth.mk fields) accepted, rfl⟩

/-- A non-`CLOSED` record has its window, in order. -/
theorem window_of_active (health : ProviderHealth) (active : health.state ≠ .closed) :
    ∃ opened until_, health.openedAt = some opened ∧ health.cooldownUntil = some until_ ∧
      opened ≤ until_ :=
  health.wellFormed.window active

theorem blocked_or_expired (health : ProviderHealth) (opened : health.state = .opened)
    (at_ : Int) : health.Blocked at_ ∨ health.Expired at_ := by
  obtain ⟨_, until_, _, deadline, _⟩ := health.window_of_active (by simp [opened])
  by_cases late : until_ ≤ at_
  · exact .inr ⟨opened, by simp [deadline, late]⟩
  · exact .inl ⟨opened, by simp [deadline, Int.not_le.mp late]⟩

theorem not_expired_of_blocked {health : ProviderHealth} (blocked : health.Blocked at_) :
    ¬ health.Expired at_ := by
  rintro ⟨opened, expired⟩
  obtain ⟨_, until_, _, deadline, _⟩ := health.window_of_active (by simp [opened])
  have early : at_ < until_ := by simpa [deadline] using blocked.2
  have late : until_ ≤ at_ := by simpa [deadline] using expired
  omega

/-- Recovery does not end by the passing of time. -/
theorem Recovering.later {health : ProviderHealth} (recovering : health.Recovering early)
    (passed : early ≤ late) : health.Recovering late := by
  rcases recovering with half | ⟨opened, expired⟩
  · exact .inl half
  · obtain ⟨_, until_, _, deadline, _⟩ := health.window_of_active (by simp [opened])
    have ended : until_ ≤ early := by simpa [deadline] using expired
    exact .inr ⟨opened, by simpa [deadline] using Int.le_trans ended passed⟩

theorem not_blocked_of_recovering {health : ProviderHealth} (recovering : health.Recovering at_) :
    ¬ health.Blocked at_ := by
  rintro blocked
  rcases recovering with half | expired
  · rw [blocked.1] at half
    cases half
  · exact not_expired_of_blocked blocked expired

theorem active_of_recovering {health : ProviderHealth} (recovering : health.Recovering at_) :
    health.state ≠ .closed := by
  rcases recovering with half | ⟨opened, _⟩
  · simp [half]
  · simp [opened]

theorem blocked_or_recovering (health : ProviderHealth) (active : health.state ≠ .closed)
    (at_ : Int) : health.Blocked at_ ∨ health.Recovering at_ := by
  cases state : health.state with
  | closed => exact absurd state active
  | halfOpen => exact .inr (.inl state)
  | opened => exact (health.blocked_or_expired state at_).imp_right .inr

/-- The field values `advance` gives at a time that is not stale. -/
def advancedFields (health : ProviderHealth) (at_ : Int) : HealthFields :=
  if health.Expired at_ then
    { health.toHealthFields with state := .halfOpen, updatedAt := at_ }
  else health.toHealthFields

theorem transitionTime_fresh {health : ProviderHealth} (converted : now.inUtc = .ok at_)
    (fresh : health.updatedAt ≤ at_) : health.transitionTime now = .ok at_ := by
  simp [transitionTime, converted, bind, Except.bind, Int.not_lt.mpr fresh]

theorem transitionTime_stale {health : ProviderHealth} (converted : now.inUtc = .ok at_)
    (stale : at_ < health.updatedAt) :
    health.transitionTime now = .error (.value "now must not be earlier than updated_at") := by
  simp [transitionTime, converted, bind, Except.bind, stale]

private theorem valid_halfOpen {health : ProviderHealth} (fresh : health.updatedAt ≤ at_)
    (opened : health.state = .opened) :
    HealthFields.Valid { health.toHealthFields with state := .halfOpen, updatedAt := at_ } where
  provider := health.wellFormed.provider
  model := health.wellFormed.model
  closed := by simp
  window := fun _ => health.window_of_active (by simp [opened])
  openedBy := fun t h => Int.le_trans (health.wellFormed.openedBy t h) fresh
  failedBy := fun t h => Int.le_trans (health.wellFormed.failedBy t h) fresh
  succeededBy := fun t h => Int.le_trans (health.wellFormed.succeededBy t h) fresh

/-- At a time that is not stale `advance` succeeds: it moves an expired `OPEN`
record to `HALF_OPEN` and returns every other record unchanged. -/
theorem advance_fresh {health : ProviderHealth} (converted : now.inUtc = .ok at_)
    (fresh : health.updatedAt ≤ at_) :
    ∃ current, health.advance now = .ok current ∧
      current.toHealthFields = health.advancedFields at_ := by
  rw [advance, transitionTime_fresh converted fresh]
  by_cases expired : health.Expired at_
  · obtain ⟨current, accepted, fields⟩ := modelValidate_valid (valid_halfOpen fresh expired.1)
    refine ⟨current, ?_, by rw [fields, advancedFields, if_pos expired]⟩
    simpa [bind, Except.bind, expired.1, expired.2] using accepted
  · refine ⟨health, ?_, by rw [advancedFields, if_neg expired]⟩
    have same : (health.state = .opened && health.cooldownUntil.any (· ≤ at_)) = false := by
      simpa [Expired] using expired
    simp only [bind, Except.bind, same]
    rfl

/-- The state `advance` reports at a time that is not stale. -/
theorem advancedFields_state (health : ProviderHealth) (at_ : Int) :
    (health.advancedFields at_).state =
      if health.Expired at_ then .halfOpen else health.state := by
  unfold advancedFields
  split <;> rfl

/-- What a recorded success makes of a record. -/
def succeededFields (health : ProviderHealth) (at_ : Int) : HealthFields :=
  { health.toHealthFields with
    state := .closed
    consecutiveFailures := 0
    openedAt := none
    cooldownUntil := none
    lastSuccessAt := some at_
    updatedAt := at_ }

/-- What a counted failure makes of a record when it opens the circuit. -/
def trippedFields (health : ProviderHealth) (cooldown : Int) (at_ : Int) : HealthFields :=
  { health.toHealthFields with
    state := .opened
    consecutiveFailures := health.consecutiveFailures + 1
    openedAt := some at_
    cooldownUntil := some (at_ + cooldown)
    lastFailureAt := some at_
    updatedAt := at_ }

/-- What a counted failure below the threshold makes of a record. -/
def countedFields (health : ProviderHealth) (at_ : Int) : HealthFields :=
  { health.toHealthFields with
    consecutiveFailures := health.consecutiveFailures + 1
    lastFailureAt := some at_
    updatedAt := at_ }

/-- A counted failure opens the circuit at `at_`. -/
def Trips (health : ProviderHealth) (failureThreshold : Int) (at_ : Int) : Prop :=
  health.state = .halfOpen ∨ health.Expired at_ ∨
    failureThreshold ≤ (health.consecutiveFailures + 1 : Nat)

instance (health : ProviderHealth) (failureThreshold : Int) (at_ : Int) :
    Decidable (health.Trips failureThreshold at_) :=
  inferInstanceAs (Decidable (_ ∨ _ ∨ _))

private theorem valid_succeeded {health : ProviderHealth} (fresh : health.updatedAt ≤ at_) :
    (health.succeededFields at_).Valid where
  provider := health.wellFormed.provider
  model := health.wellFormed.model
  closed := fun _ => ⟨rfl, rfl⟩
  window := by simp [succeededFields]
  openedBy := by simp [succeededFields]
  failedBy := fun t h => Int.le_trans (health.wellFormed.failedBy t h) fresh
  succeededBy := by simp [succeededFields]

private theorem valid_tripped (health : ProviderHealth) (fresh : health.updatedAt ≤ at_)
    (nonneg : 0 ≤ cooldown) : (health.trippedFields cooldown at_).Valid where
  provider := health.wellFormed.provider
  model := health.wellFormed.model
  closed := by simp [trippedFields]
  window := fun _ => ⟨at_, at_ + cooldown, rfl, rfl, by omega⟩
  openedBy := by simp [trippedFields]
  failedBy := by simp [trippedFields]
  succeededBy := fun t h => Int.le_trans (health.wellFormed.succeededBy t h) fresh

private theorem valid_counted (health : ProviderHealth) (fresh : health.updatedAt ≤ at_) :
    (health.countedFields at_).Valid where
  provider := health.wellFormed.provider
  model := health.wellFormed.model
  closed := health.wellFormed.closed
  window := health.wellFormed.window
  openedBy := fun t h => Int.le_trans (health.wellFormed.openedBy t h) fresh
  failedBy := by simp [countedFields]
  succeededBy := fun t h => Int.le_trans (health.wellFormed.succeededBy t h) fresh

theorem recordSuccess_stale {health : ProviderHealth} (converted : now.inUtc = .ok at_)
    (stale : at_ < health.updatedAt) :
    health.recordSuccess now = .error (.value "now must not be earlier than updated_at") := by
  rw [recordSuccess, transitionTime_stale converted stale]
  rfl

theorem recordSuccess_blocked {health : ProviderHealth} (converted : now.inUtc = .ok at_)
    (fresh : health.updatedAt ≤ at_) (blocked : health.Blocked at_) :
    health.recordSuccess now =
      .error (.value "cannot record an outcome while the circuit is open") := by
  obtain ⟨current, advanced, fields⟩ := advance_fresh (Datetime.inUtc_utc at_) fresh
  rw [advancedFields, if_neg (not_expired_of_blocked blocked)] at fields
  rw [recordSuccess, transitionTime_fresh converted fresh]
  simp [bind, Except.bind, advanced, fields, blocked.1]

theorem recordSuccess_accepted {health : ProviderHealth} (converted : now.inUtc = .ok at_)
    (fresh : health.updatedAt ≤ at_) (free : ¬ health.Blocked at_) :
    ∃ updated, health.recordSuccess now = .ok updated ∧
      updated.toHealthFields = health.succeededFields at_ := by
  obtain ⟨current, advanced, fields⟩ := advance_fresh (Datetime.inUtc_utc at_) fresh
  obtain ⟨updated, accepted, result⟩ := modelValidate_valid (valid_succeeded fresh)
  refine ⟨updated, ?_, result⟩
  have notOpen : current.state ≠ .opened := by
    rw [fields, advancedFields_state]
    split
    · simp
    · rename_i running
      exact fun opened => (blocked_or_expired health opened at_).elim free running
  have replaced : { current.toHealthFields with
      state := .closed
      consecutiveFailures := 0
      openedAt := none
      cooldownUntil := none
      lastSuccessAt := some at_
      updatedAt := at_ } = health.succeededFields at_ := by
    rw [fields, succeededFields, advancedFields]
    split <;> rfl
  rw [recordSuccess, transitionTime_fresh converted fresh]
  simp only [bind, Except.bind, advanced, if_neg notOpen, replaced, accepted]

section Failure
variable {health : ProviderHealth} (latest : Option Int) {errorType : ProviderErrorType}
  {failureThreshold : Int} {cooldown : Int}

theorem recordFailure_stale (policy : validatePolicy failureThreshold cooldown = .ok ())
    (converted : now.inUtc = .ok at_) (stale : at_ < health.updatedAt) :
    health.recordFailure latest errorType failureThreshold cooldown now =
      .error (.value "now must not be earlier than updated_at") := by
  rw [recordFailure, policy, transitionTime_stale converted stale]
  rfl

/-- A failure that does not count only lets time advance. -/
theorem recordFailure_ignored (policy : validatePolicy failureThreshold cooldown = .ok ())
    (converted : now.inUtc = .ok at_) (fresh : health.updatedAt ≤ at_)
    (ignored : countsAsCircuitFailure errorType = false) :
    ∃ updated, health.recordFailure latest errorType failureThreshold cooldown now = .ok updated ∧
      updated.toHealthFields = health.advancedFields at_ := by
  obtain ⟨current, advanced, fields⟩ := advance_fresh (Datetime.inUtc_utc at_) fresh
  refine ⟨current, ?_, fields⟩
  rw [recordFailure, policy, transitionTime_fresh converted fresh]
  simp [bind, Except.bind, advanced, ignored]

theorem recordFailure_blocked (policy : validatePolicy failureThreshold cooldown = .ok ())
    (converted : now.inUtc = .ok at_) (fresh : health.updatedAt ≤ at_)
    (counted : countsAsCircuitFailure errorType = true) (blocked : health.Blocked at_) :
    health.recordFailure latest errorType failureThreshold cooldown now =
      .error (.value "cannot record an outcome while the circuit is open") := by
  obtain ⟨current, advanced, fields⟩ := advance_fresh (Datetime.inUtc_utc at_) fresh
  rw [advancedFields, if_neg (not_expired_of_blocked blocked)] at fields
  rw [recordFailure, policy, transitionTime_fresh converted fresh]
  simp [bind, Except.bind, advanced, counted, fields, blocked.1]

/-- The part of `record_failure` behind its guards, when the circuit opens. -/
private theorem recordFailure_tripping (policy : validatePolicy failureThreshold cooldown = .ok ())
    (converted : now.inUtc = .ok at_) (fresh : health.updatedAt ≤ at_)
    (counted : countsAsCircuitFailure errorType = true) (free : ¬ health.Blocked at_)
    (trips : health.Trips failureThreshold at_) :
    health.recordFailure latest errorType failureThreshold cooldown now =
      (Datetime.add latest at_ cooldown).bind fun deadline =>
        modelValidate { health.trippedFields cooldown at_ with cooldownUntil := some deadline } := by
  obtain ⟨current, advanced, fields⟩ := advance_fresh (Datetime.inUtc_utc at_) fresh
  have failures : current.consecutiveFailures = health.consecutiveFailures := by
    rw [fields, advancedFields]
    split <;> rfl
  have notOpen : current.state ≠ .opened := by
    rw [fields, advancedFields_state]
    split
    · simp
    · rename_i running
      exact fun opened => (blocked_or_expired health opened at_).elim free running
  have opens : (current.state = .halfOpen ||
      failureThreshold ≤ (current.consecutiveFailures + 1 : Nat)) = true := by
    rw [failures, fields, advancedFields_state]
    rcases trips with half | expired | reached
    · split <;> simp [half]
    · simp [expired]
    · simp only [decide_eq_true reached, Bool.or_true]
  have replaced : ∀ deadline, { current.toHealthFields with
      state := .opened
      consecutiveFailures := current.consecutiveFailures + 1
      openedAt := some at_
      cooldownUntil := some deadline
      lastFailureAt := some at_
      updatedAt := at_ } =
      { health.trippedFields cooldown at_ with cooldownUntil := some deadline } := by
    intro deadline
    rw [failures, fields, trippedFields, advancedFields]
    split <;> rfl
  rw [recordFailure, policy, transitionTime_fresh converted fresh]
  simp only [bind, Except.bind, advanced, counted, Bool.not_true, Bool.false_eq_true, if_false,
    if_neg notOpen, opens, if_true, replaced]

theorem recordFailure_trips (policy : validatePolicy failureThreshold cooldown = .ok ())
    (nonneg : 0 ≤ cooldown) (converted : now.inUtc = .ok at_) (fresh : health.updatedAt ≤ at_)
    (counted : countsAsCircuitFailure errorType = true) (free : ¬ health.Blocked at_)
    (trips : health.Trips failureThreshold at_) (fits : Datetime.Fits latest at_ cooldown) :
    ∃ updated, health.recordFailure latest errorType failureThreshold cooldown now = .ok updated ∧
      updated.toHealthFields = health.trippedFields cooldown at_ := by
  obtain ⟨updated, accepted, fields⟩ :=
    modelValidate_valid (valid_tripped health fresh nonneg)
  refine ⟨updated, ?_, fields⟩
  rw [recordFailure_tripping latest policy converted fresh counted free trips,
    Datetime.add_of_fits fits]
  exact accepted

/-- A deadline beyond the datetime range escapes as `OverflowError`. -/
theorem recordFailure_overflows (policy : validatePolicy failureThreshold cooldown = .ok ())
    (converted : now.inUtc = .ok at_) (fresh : health.updatedAt ≤ at_)
    (counted : countsAsCircuitFailure errorType = true) (free : ¬ health.Blocked at_)
    (trips : health.Trips failureThreshold at_) (beyond : ¬ Datetime.Fits latest at_ cooldown) :
    health.recordFailure latest errorType failureThreshold cooldown now = .error .overflow := by
  rw [recordFailure_tripping latest policy converted fresh counted free trips,
    Datetime.add_of_not_fits beyond]
  rfl

theorem recordFailure_counts (policy : validatePolicy failureThreshold cooldown = .ok ())
    (converted : now.inUtc = .ok at_) (fresh : health.updatedAt ≤ at_)
    (counted : countsAsCircuitFailure errorType = true) (free : ¬ health.Blocked at_)
    (below : ¬ health.Trips failureThreshold at_) :
    ∃ updated, health.recordFailure latest errorType failureThreshold cooldown now = .ok updated ∧
      updated.toHealthFields = health.countedFields at_ := by
  obtain ⟨current, advanced, fields⟩ := advance_fresh (Datetime.inUtc_utc at_) fresh
  obtain ⟨notHalf, running, few⟩ : health.state ≠ .halfOpen ∧ ¬ health.Expired at_ ∧
      ¬ failureThreshold ≤ (health.consecutiveFailures + 1 : Nat) := by
    simpa only [Trips, not_or] using below
  rw [advancedFields, if_neg running] at fields
  have notOpen : health.state ≠ .opened :=
    fun opened => (blocked_or_expired health opened at_).elim free running
  obtain ⟨updated, accepted, result⟩ := modelValidate_valid (valid_counted health fresh)
  refine ⟨updated, ?_, result⟩
  rw [recordFailure, policy, transitionTime_fresh converted fresh]
  simp only [countedFields] at accepted
  simp only [bind, Except.bind, advanced, counted, Bool.not_true, Bool.false_eq_true, if_false,
    fields, if_neg notOpen, notHalf, few, decide_false, Bool.or_false, accepted]

end Failure
end ProviderHealth

namespace ProviderOutcome

/-- A failure of a type that counts toward the circuit. -/
def CountedFailure (outcome : ProviderOutcome) : Prop :=
  outcome.success = false ∧ ∃ error, outcome.errorType = some error ∧
    countsAsCircuitFailure error = true

/-- A failure that does not count: an authentication failure. -/
def IgnoredFailure (outcome : ProviderOutcome) : Prop :=
  outcome.success = false ∧ ∃ error, outcome.errorType = some error ∧
    countsAsCircuitFailure error = false

/-- An outcome is a success, a counted failure or an ignored one. -/
theorem classified (outcome : ProviderOutcome) :
    outcome.success = true ∨ outcome.CountedFailure ∨ outcome.IgnoredFailure := by
  cases succeeded : outcome.success with
  | true => exact .inl rfl
  | false =>
    obtain ⟨error, typed⟩ := outcome.errorType_of_failure succeeded
    cases counted : countsAsCircuitFailure error with
    | true => exact .inr (.inl ⟨succeeded, error, typed, counted⟩)
    | false => exact .inr (.inr ⟨succeeded, error, typed, counted⟩)

theorem not_ignored_of_success {outcome : ProviderOutcome} (succeeded : outcome.success = true) :
    ¬ outcome.IgnoredFailure := by
  simp [IgnoredFailure, succeeded]

theorem not_counted_of_success {outcome : ProviderOutcome} (succeeded : outcome.success = true) :
    ¬ outcome.CountedFailure := by
  simp [CountedFailure, succeeded]

theorem not_ignored_of_counted {outcome : ProviderOutcome} (counted : outcome.CountedFailure) :
    ¬ outcome.IgnoredFailure := by
  rintro ⟨_, other, named, ignored⟩
  obtain ⟨_, error, typed, counts⟩ := counted
  rw [typed, Option.some.injEq] at named
  subst named
  simp [counts] at ignored

end ProviderOutcome

namespace ProviderHealthManager
open ProviderHealth

/-- Everything one outcome can do to a stored record, with the condition under
which it does so. -/
inductive Transition (latest : Option Int) (manager : ProviderHealthManager)
    (health : ProviderHealth) (outcome : ProviderOutcome) :
    Except PyError ProviderHealth → Prop where
  | stale (early : outcome.finishedAt < health.updatedAt) :
      Transition latest manager health outcome
        (.error (.value "now must not be earlier than updated_at"))
  | blocked (fresh : health.updatedAt ≤ outcome.finishedAt)
      (running : health.Blocked outcome.finishedAt) (decisive : ¬ outcome.IgnoredFailure) :
      Transition latest manager health outcome
        (.error (.value "cannot record an outcome while the circuit is open"))
  | overflow (fresh : health.updatedAt ≤ outcome.finishedAt) (counted : outcome.CountedFailure)
      (free : ¬ health.Blocked outcome.finishedAt)
      (trips : health.Trips manager.failureThreshold outcome.finishedAt)
      (beyond : ¬ Datetime.Fits latest outcome.finishedAt manager.cooldown) :
      Transition latest manager health outcome (.error .overflow)
  | success (fresh : health.updatedAt ≤ outcome.finishedAt) (succeeded : outcome.success = true)
      (free : ¬ health.Blocked outcome.finishedAt) (updated : ProviderHealth)
      (fields : updated.toHealthFields = health.succeededFields outcome.finishedAt) :
      Transition latest manager health outcome (.ok updated)
  | ignored (fresh : health.updatedAt ≤ outcome.finishedAt) (failed : outcome.IgnoredFailure)
      (updated : ProviderHealth)
      (fields : updated.toHealthFields = health.advancedFields outcome.finishedAt) :
      Transition latest manager health outcome (.ok updated)
  | tripped (fresh : health.updatedAt ≤ outcome.finishedAt) (counted : outcome.CountedFailure)
      (free : ¬ health.Blocked outcome.finishedAt)
      (trips : health.Trips manager.failureThreshold outcome.finishedAt)
      (fits : Datetime.Fits latest outcome.finishedAt manager.cooldown) (updated : ProviderHealth)
      (fields : updated.toHealthFields =
        health.trippedFields manager.cooldown outcome.finishedAt) :
      Transition latest manager health outcome (.ok updated)
  | counted (fresh : health.updatedAt ≤ outcome.finishedAt) (counted : outcome.CountedFailure)
      (free : ¬ health.Blocked outcome.finishedAt)
      (below : ¬ health.Trips manager.failureThreshold outcome.finishedAt)
      (updated : ProviderHealth)
      (fields : updated.toHealthFields = health.countedFields outcome.finishedAt) :
      Transition latest manager health outcome (.ok updated)

theorem policy_bounds (manager : ProviderHealthManager) :
    1 ≤ manager.failureThreshold ∧ 0 ≤ manager.cooldown := by
  have policy := manager.policy
  unfold validatePolicy at policy
  split at policy
  · cases policy
  rename_i threshold
  split at policy
  · cases policy
  rename_i cooldown
  omega

/-- The transition of a stored record is exactly one of the listed cases. -/
theorem transition_cases (latest : Option Int) (manager : ProviderHealthManager)
    (health : ProviderHealth) (outcome : ProviderOutcome) :
    Transition latest manager health outcome
      (manager.transition latest (some health) outcome) := by
  have converted := Datetime.inUtc_utc outcome.finishedAt
  have policy := manager.policy
  by_cases stale : outcome.finishedAt < health.updatedAt
  · have refused : manager.transition latest (some health) outcome =
        .error (.value "now must not be earlier than updated_at") := by
      rcases outcome.classified with succeeded | ⟨failed, error, typed, _⟩ |
        ⟨failed, error, typed, _⟩
      · simpa [transition, bind, Except.bind, succeeded] using recordSuccess_stale converted stale
      all_goals
        simpa [transition, bind, Except.bind, failed, typed] using
          recordFailure_stale latest policy converted stale
    rw [refused]
    exact .stale stale
  have fresh : health.updatedAt ≤ outcome.finishedAt := Int.not_lt.mp stale
  rcases outcome.classified with succeeded | counted | ignored
  · have step : manager.transition latest (some health) outcome =
        health.recordSuccess (.utc outcome.finishedAt) := by
      simp [transition, bind, Except.bind, succeeded]
    rw [step]
    by_cases running : health.Blocked outcome.finishedAt
    · rw [recordSuccess_blocked converted fresh running]
      exact .blocked fresh running (ProviderOutcome.not_ignored_of_success succeeded)
    · obtain ⟨updated, accepted, fields⟩ := recordSuccess_accepted converted fresh running
      rw [accepted]
      exact .success fresh succeeded running updated fields
  · obtain ⟨failed, error, typed, counts⟩ := id counted
    have step : manager.transition latest (some health) outcome =
        health.recordFailure latest error manager.failureThreshold manager.cooldown
          (.utc outcome.finishedAt) := by
      simp [transition, bind, Except.bind, failed, typed]
    rw [step]
    by_cases running : health.Blocked outcome.finishedAt
    · rw [recordFailure_blocked latest policy converted fresh counts running]
      exact .blocked fresh running (ProviderOutcome.not_ignored_of_counted counted)
    by_cases trips : health.Trips manager.failureThreshold outcome.finishedAt
    · by_cases fits : Datetime.Fits latest outcome.finishedAt manager.cooldown
      · obtain ⟨updated, accepted, fields⟩ := recordFailure_trips latest policy
          manager.policy_bounds.2 converted fresh counts running trips fits
        rw [accepted]
        exact .tripped fresh counted running trips fits updated fields
      · rw [recordFailure_overflows latest policy converted fresh counts running trips fits]
        exact .overflow fresh counted running trips fits
    · obtain ⟨updated, accepted, fields⟩ :=
        recordFailure_counts latest policy converted fresh counts running trips
      rw [accepted]
      exact .counted fresh counted running trips updated fields
  · obtain ⟨failed, error, typed, ignores⟩ := id ignored
    have step : manager.transition latest (some health) outcome =
        health.recordFailure latest error manager.failureThreshold manager.cooldown
          (.utc outcome.finishedAt) := by
      simp [transition, bind, Except.bind, failed, typed]
    obtain ⟨updated, accepted, fields⟩ :=
      recordFailure_ignored latest policy converted fresh ignores
    rw [step, accepted]
    exact .ignored fresh ignored updated fields

/-- An accepted outcome leaves a record that is not updated later than the
outcome. -/
theorem transition_updatedAt {latest : Option Int} {manager : ProviderHealthManager}
    {health updated : ProviderHealth} {outcome : ProviderOutcome}
    (accepted : manager.transition latest (some health) outcome = .ok updated) :
    updated.updatedAt ≤ outcome.finishedAt := by
  have cases := manager.transition_cases latest health outcome
  rw [accepted] at cases
  cases cases with
  | success _ _ _ _ fields => simp [fields, succeededFields]
  | ignored fresh _ _ fields =>
    rw [fields, advancedFields]
    split
    · exact Int.le_refl _
    · exact fresh
  | tripped _ _ _ _ _ _ fields => simp [fields, trippedFields]
  | counted _ _ _ _ _ fields => simp [fields, countedFields]

/-- What an outcome makes of a record in recovery. -/
inductive Recovery (manager : ProviderHealthManager) (health : ProviderHealth)
    (outcome : ProviderOutcome) (updated : ProviderHealth) : Prop where
  | success (succeeded : outcome.success = true)
      (fields : updated.toHealthFields = health.succeededFields outcome.finishedAt)
  | counted (counted : outcome.CountedFailure)
      (fields : updated.toHealthFields = health.trippedFields manager.cooldown outcome.finishedAt)
  | ignored (failed : outcome.IgnoredFailure)
      (fields : updated.toHealthFields = health.advancedFields outcome.finishedAt)

/-- A record in recovery accepts every outcome whose deadline fits. -/
theorem transition_recovery {latest : Option Int} {manager : ProviderHealthManager}
    {health : ProviderHealth} {outcome : ProviderOutcome}
    (fresh : health.updatedAt ≤ outcome.finishedAt)
    (recovering : health.Recovering outcome.finishedAt)
    (fits : outcome.CountedFailure → Datetime.Fits latest outcome.finishedAt manager.cooldown) :
    ∃ updated, manager.transition latest (some health) outcome = .ok updated ∧
      Recovery manager health outcome updated := by
  have free := not_blocked_of_recovering recovering
  have cases := manager.transition_cases latest health outcome
  generalize manager.transition latest (some health) outcome = result at cases
  cases cases with
  | stale early => exact absurd fresh (by omega)
  | blocked _ running => exact absurd running free
  | overflow _ counted _ _ beyond => exact absurd (fits counted) beyond
  | success _ succeeded _ updated fields => exact ⟨updated, rfl, .success succeeded fields⟩
  | ignored _ failed updated fields => exact ⟨updated, rfl, .ignored failed fields⟩
  | tripped _ counted _ _ _ updated fields => exact ⟨updated, rfl, .counted counted fields⟩
  | counted _ _ _ below =>
    rcases recovering with half | expired
    · exact absurd (.inl half) below
    · exact absurd (.inr (.inl expired)) below

/-- An accepted failure of a record in recovery restarts a cooldown that fits. -/
theorem fits_of_recovery {latest : Option Int} {manager : ProviderHealthManager}
    {health updated : ProviderHealth} {outcome : ProviderOutcome}
    (recovering : health.Recovering outcome.finishedAt) (counted : outcome.CountedFailure)
    (accepted : manager.transition latest (some health) outcome = .ok updated) :
    Datetime.Fits latest outcome.finishedAt manager.cooldown := by
  have cases := manager.transition_cases latest health outcome
  rw [accepted] at cases
  cases cases with
  | success _ succeeded => exact absurd counted (ProviderOutcome.not_counted_of_success succeeded)
  | ignored _ failed => exact absurd failed (ProviderOutcome.not_ignored_of_counted counted)
  | tripped _ _ _ _ fits => exact fits
  | counted _ _ _ below =>
    rcases recovering with half | expired
    · exact absurd (.inl half) below
    · exact absurd (.inr (.inl expired)) below

/-- The fields of the record a first outcome starts from. -/
def initialFields (outcome : ProviderOutcome) : HealthFields :=
  { provider := outcome.provider, model := outcome.model, updatedAt := outcome.finishedAt }

/-- Without a stored record the transition starts from a fresh `CLOSED` one. -/
theorem transition_first (latest : Option Int) (manager : ProviderHealthManager)
    (outcome : ProviderOutcome) :
    ∃ fresh : ProviderHealth, fresh.toHealthFields = initialFields outcome ∧
      manager.transition latest none outcome = manager.transition latest (some fresh) outcome := by
  have valid : (initialFields outcome).Valid :=
    { provider := outcome.named.1, model := outcome.named.2, closed := fun _ => ⟨rfl, rfl⟩,
      window := by simp [initialFields], openedBy := by simp [initialFields],
      failedBy := by simp [initialFields], succeededBy := by simp [initialFields] }
  obtain ⟨fresh, accepted, fields⟩ := modelValidate_valid valid
  have started : ProviderHealth.initial outcome.provider outcome.model (.utc outcome.finishedAt) =
      .ok fresh := by
    simpa [ProviderHealth.initial, initialFields, bind, Except.bind] using accepted
  exact ⟨fresh, fields, by simp [transition, bind, Except.bind, started]⟩

/-- The outcome opens the circuit for a cooldown that ends beyond the datetime
range. -/
structure Overflows (latest : Option Int) (manager : ProviderHealthManager)
    (health : ProviderHealth) (outcome : ProviderOutcome) : Prop where
  fresh : health.updatedAt ≤ outcome.finishedAt
  counted : outcome.CountedFailure
  free : ¬ health.Blocked outcome.finishedAt
  trips : health.Trips manager.failureThreshold outcome.finishedAt
  beyond : ¬ Datetime.Fits latest outcome.finishedAt manager.cooldown

theorem transition_overflow_iff {latest : Option Int} {manager : ProviderHealthManager}
    {health : ProviderHealth} {outcome : ProviderOutcome} :
    manager.transition latest (some health) outcome = .error .overflow ↔
      Overflows latest manager health outcome := by
  have cases := manager.transition_cases latest health outcome
  generalize manager.transition latest (some health) outcome = result at cases
  constructor
  · rintro rfl
    cases cases with
    | overflow fresh counted free trips beyond => exact ⟨fresh, counted, free, trips, beyond⟩
  · intro overflows
    cases cases with
    | stale early => exact absurd overflows.fresh (by omega)
    | blocked _ running => exact absurd running overflows.free
    | overflow => rfl
    | success _ succeeded =>
      exact absurd overflows.counted (ProviderOutcome.not_counted_of_success succeeded)
    | ignored _ failed =>
      exact absurd failed (ProviderOutcome.not_ignored_of_counted overflows.counted)
    | tripped _ _ _ _ fits => exact absurd fits overflows.beyond
    | counted _ _ _ below => exact absurd overflows.trips below

/-- A refused outcome raises a `ValueError`, or its cooldown overflows. -/
theorem transition_error {latest : Option Int} {manager : ProviderHealthManager}
    {health : ProviderHealth} {outcome : ProviderOutcome}
    (refused : manager.transition latest (some health) outcome = .error error) :
    (∃ message, error = .value message) ∨ error = .overflow := by
  have cases := manager.transition_cases latest health outcome
  rw [refused] at cases
  cases cases with
  | stale => exact .inl ⟨_, rfl⟩
  | blocked => exact .inl ⟨_, rfl⟩
  | overflow => exact .inr rfl

/-- The record an outcome is applied to: the stored one, or a fresh one. -/
def Begins (stored : Option ProviderHealth) (outcome : ProviderOutcome) (health : ProviderHealth) :
    Prop :=
  stored = some health ∨ stored = none ∧ health.toHealthFields = initialFields outcome

theorem begins_exists (latest : Option Int) (manager : ProviderHealthManager)
    (stored : Option ProviderHealth) (outcome : ProviderOutcome) :
    ∃ health, Begins stored outcome health ∧
      manager.transition latest stored outcome =
        manager.transition latest (some health) outcome := by
  cases stored with
  | none =>
    obtain ⟨fresh, fields, same⟩ := manager.transition_first latest outcome
    exact ⟨fresh, .inr ⟨rfl, fields⟩, same⟩
  | some health => exact ⟨health, .inl rfl, rfl⟩

theorem begins_unique {stored : Option ProviderHealth} {outcome : ProviderOutcome}
    {first second : ProviderHealth} (one : Begins stored outcome first)
    (two : Begins stored outcome second) : first = second := by
  rcases one with rfl | ⟨rfl, fields⟩
  · rcases two with same | ⟨absent, _⟩
    · exact Option.some.inj same
    · cases absent
  · rcases two with same | ⟨_, others⟩
    · cases same
    · exact ProviderHealth.ext_fields (fields.trans others.symm)

/-- With a working store `update` is the transition of the stored record. -/
theorem update_stored (latest : Option Int) (manager : ProviderHealthManager)
    (stored : Option ProviderHealth) (outcome : ProviderOutcome) :
    manager.update latest { getHealth := .ok stored } outcome =
      manager.transition latest stored outcome := by
  unfold update
  dsimp only
  cases manager.transition latest stored outcome <;> rfl

private theorem transition_same_key (latest : Option Int) (manager : ProviderHealthManager)
    (health : ProviderHealth) (outcome : ProviderOutcome)
    (accepted : manager.transition latest (some health) outcome = .ok updated) :
    updated.key = health.key := by
  have cases := manager.transition_cases latest health outcome
  rw [accepted] at cases
  cases cases with
  | success _ _ _ _ fields => simp [HealthFields.key, fields, succeededFields]
  | ignored _ _ _ fields =>
    rw [HealthFields.key, fields, advancedFields]
    split <;> rfl
  | tripped _ _ _ _ _ _ fields => simp [HealthFields.key, fields, trippedFields]
  | counted _ _ _ _ _ fields => simp [HealthFields.key, fields, countedFields]

/-- The record an outcome leads to is about the outcome's own pair. -/
theorem transition_key (own : ∀ health, stored = some health → health.key = outcome.key)
    (accepted : transition latest manager stored outcome = .ok updated) :
    updated.key = outcome.key := by
  cases stored with
  | none =>
    obtain ⟨first, fields, started⟩ := manager.transition_first latest outcome
    rw [started] at accepted
    rw [transition_same_key latest manager first outcome accepted]
    simp [HealthFields.key, fields, initialFields, ProviderOutcome.key]
  | some health =>
    rw [transition_same_key latest manager health outcome accepted]
    exact own health rfl

end ProviderHealthManager
end ModelPilot
