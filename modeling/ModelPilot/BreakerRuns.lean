import ModelPilot.CircuitBreakerProofs
import ModelPilot.ReferenceBreaker

/-! Runs of the stored circuit breaker refine the reference automaton. A store
returns the record last upserted; any sequence of outcomes, of any pairs and
with any finish times, is fed to the manager. Time is unbounded here. -/
namespace ModelPilot.BreakerRuns
open ReferenceBreaker (Breaker Event Kind Phase History)

/-- The store during a run, with the outcomes `update` accepted, oldest first. -/
structure Journal where
  records : HealthRecords := .empty
  accepted : List ProviderOutcome := []

/-- One `ProviderHealthManager.update` against the store. -/
def update (manager : ProviderHealthManager) (records : HealthRecords)
    (outcome : ProviderOutcome) : Except PyError ProviderHealth :=
  manager.update none { getHealth := .ok (records.getHealth outcome.key) } outcome

def Journal.feed (manager : ProviderHealthManager) (journal : Journal)
    (outcome : ProviderOutcome) : Journal :=
  match update manager journal.records outcome with
  | .ok updated =>
    { records := journal.records.upsertHealth updated
      accepted := journal.accepted ++ [outcome] }
  | .error _ => journal

def run (manager : ProviderHealthManager) (outcomes : List ProviderOutcome) : Journal :=
  outcomes.foldl (Journal.feed manager) {}

/-- The outcome as the automaton sees it. -/
def kind (outcome : ProviderOutcome) : Kind :=
  if outcome.success then .success
  else if outcome.errorType.any countsAsCircuitFailure then .counted
  else .ignored

def event (outcome : ProviderOutcome) : Event Int := ⟨kind outcome, outcome.finishedAt⟩

def policy (manager : ProviderHealthManager) : ReferenceBreaker.Policy Int :=
  ⟨manager.failureThreshold.toNat, manager.cooldown⟩

theorem kind_success {outcome : ProviderOutcome} :
    kind outcome = .success ↔ outcome.success = true := by
  unfold kind
  split
  · simp [*]
  · split <;> simp [*]

theorem kind_counted {outcome : ProviderOutcome} :
    kind outcome = .counted ↔ outcome.CountedFailure := by
  unfold kind ProviderOutcome.CountedFailure
  cases outcome.success with
  | true => simp
  | false => cases typed : outcome.errorType <;> simp

theorem kind_ignored {outcome : ProviderOutcome} :
    kind outcome = .ignored ↔ outcome.IgnoredFailure := by
  unfold kind ProviderOutcome.IgnoredFailure
  cases succeeded : outcome.success with
  | true => simp
  | false =>
    obtain ⟨error, typed⟩ := outcome.errorType_of_failure succeeded
    simp [typed]

theorem policy_positive (manager : ProviderHealthManager) : 0 < (policy manager).threshold := by
  have bounds := manager.policy_bounds
  simp only [policy]
  omega

/-- The stored record carries exactly the breaker's count, time and phase; an
active record dates its window from the failure that opened it. -/
def Refines (manager : ProviderHealthManager) (health : ProviderHealth)
    (breaker : Breaker Int) : Prop :=
  health.consecutiveFailures = breaker.failures ∧ health.updatedAt = breaker.updated ∧
  match breaker.phase with
  | .closed => health.state = .closed
  | .opened since => health.state = .opened ∧ health.openedAt = some since ∧
    health.lastFailureAt = some since ∧ health.cooldownUntil = some (since + manager.cooldown)
  | .probing since => health.state = .halfOpen ∧ health.openedAt = some since ∧
    health.lastFailureAt = some since ∧ health.cooldownUntil = some (since + manager.cooldown)

section Simulation
variable {manager : ProviderHealthManager} {health : ProviderHealth} {breaker : Breaker Int}

theorem refines_blocked (refines : Refines manager health breaker) (at_ : Int) :
    ReferenceBreaker.running (policy manager) breaker at_ = true ↔ health.Blocked at_ := by
  obtain ⟨_, _, phase⟩ := refines
  unfold ReferenceBreaker.running ProviderHealth.Blocked
  cases shape : breaker.phase with
  | closed => simp [show health.state = .closed by simpa [shape] using phase]
  | opened since =>
    obtain ⟨opened, _, _, deadline⟩ : health.state = .opened ∧ health.openedAt = some since ∧
      health.lastFailureAt = some since ∧
      health.cooldownUntil = some (since + manager.cooldown) := by simpa [shape] using phase
    simp only [opened, deadline, policy, Option.any_some, true_and, decide_eq_true_eq]
    exact decide_eq_true_iff
  | probing since =>
    have probing : health.state = .halfOpen := by
      simp only [shape] at phase
      exact phase.1
    simp [probing]

/-- Letting time pass does the same on both sides. -/
theorem refines_advanced (refines : Refines manager health breaker)
    (fields : updated.toHealthFields = health.advancedFields at_) :
    Refines manager updated (ReferenceBreaker.elapse (policy manager) breaker at_) := by
  have blocked := refines_blocked refines at_
  obtain ⟨failures, time, phase⟩ := refines
  unfold ReferenceBreaker.elapse
  unfold ReferenceBreaker.running at blocked
  cases shape : breaker.phase with
  | closed =>
    have closed : health.state = .closed := by simpa [shape] using phase
    have same : updated.toHealthFields = health.toHealthFields := by
      rw [fields, ProviderHealth.advancedFields, if_neg (by simp [ProviderHealth.Expired, closed])]
    simp [Refines, same, failures, time, closed, shape]
  | opened since =>
    obtain ⟨opened, openedAt, failedAt, deadline⟩ : health.state = .opened ∧
      health.openedAt = some since ∧ health.lastFailureAt = some since ∧
      health.cooldownUntil = some (since + manager.cooldown) := by simpa [shape] using phase
    by_cases early : at_ < since + manager.cooldown
    · have waiting : ¬ health.Expired at_ := by
        simp [ProviderHealth.Expired, deadline, early]
      rw [ProviderHealth.advancedFields, if_neg waiting] at fields
      simp [Refines, policy, early, fields, failures, time, shape, opened, openedAt, failedAt,
        deadline]
    · have expired : health.Expired at_ :=
        ⟨opened, by simpa [deadline] using Int.not_lt.mp early⟩
      rw [ProviderHealth.advancedFields, if_pos expired] at fields
      simp [Refines, policy, early, fields, failures, openedAt, failedAt, deadline]
  | probing since =>
    obtain ⟨probing, openedAt, failedAt, deadline⟩ : health.state = .halfOpen ∧
      health.openedAt = some since ∧ health.lastFailureAt = some since ∧
      health.cooldownUntil = some (since + manager.cooldown) := by simpa [shape] using phase
    have same : updated.toHealthFields = health.toHealthFields := by
      rw [fields, ProviderHealth.advancedFields, if_neg (by simp [ProviderHealth.Expired, probing])]
    simp [Refines, same, failures, time, probing, openedAt, failedAt, deadline, shape]

theorem refines_trips (refines : Refines manager health breaker)
    (free : ¬ health.Blocked at_) :
    health.Trips manager.failureThreshold at_ ↔
      ¬ (breaker.phase = .closed ∧ breaker.failures + 1 < (policy manager).threshold) := by
  have bounds := manager.policy_bounds
  obtain ⟨failures, _, phase⟩ := refines
  unfold ProviderHealth.Trips
  cases shape : breaker.phase with
  | closed =>
    have closed : health.state = .closed := by simpa [shape] using phase
    simp only [closed, ProviderHealth.Expired, failures, policy, reduceCtorEq, false_and, false_or,
      true_and]
    omega
  | opened since =>
    have opened : health.state = .opened := by
      simp only [shape] at phase
      exact phase.1
    have expired := (health.blocked_or_expired opened at_).resolve_left free
    simp [expired]
  | probing since =>
    have probing : health.state = .halfOpen := by
      simp only [shape] at phase
      exact phase.1
    simp [probing]

/-- One update and one step of the automaton refuse together, or both accept
and agree afterwards. -/
theorem transition_simulates (refines : Refines manager health breaker)
    (outcome : ProviderOutcome) :
    (∃ error, manager.transition none (some health) outcome = .error error ∧
      ReferenceBreaker.step (policy manager) breaker (event outcome) = none) ∨
    (∃ updated after, manager.transition none (some health) outcome = .ok updated ∧
      ReferenceBreaker.step (policy manager) breaker (event outcome) = some after ∧
      Refines manager updated after) := by
  have blocked := refines_blocked refines outcome.finishedAt
  have time : health.updatedAt = breaker.updated := refines.2.1
  have cases := manager.transition_cases none health outcome
  generalize manager.transition none (some health) outcome = result at cases
  unfold ReferenceBreaker.step
  cases cases with
  | stale early => exact .inl ⟨_, rfl, by simp [event, ← time, early]⟩
  | blocked fresh running decisive =>
    refine .inl ⟨_, rfl, ?_⟩
    have halted := blocked.mpr running
    have notIgnored : kind outcome ≠ .ignored := fun same => decisive (kind_ignored.mp same)
    cases named : kind outcome <;> simp_all [event]
  | overflow fresh counted free trips beyond => exact absurd (by simp [Datetime.Fits]) beyond
  | success fresh succeeded free updated fields =>
    have halted : ReferenceBreaker.running (policy manager) breaker outcome.finishedAt = false :=
      Bool.eq_false_iff.mpr (mt blocked.mp free)
    refine .inr ⟨updated, ⟨.closed, 0, outcome.finishedAt⟩, rfl, ?_, ?_⟩
    · simp only [event, kind_success.mpr succeeded, ← time, if_neg (Int.not_lt.mpr fresh), halted]
      rfl
    · simp [Refines, fields, ProviderHealth.succeededFields]
  | ignored fresh failed updated fields =>
    refine .inr ⟨updated, ReferenceBreaker.elapse (policy manager) breaker outcome.finishedAt,
      rfl, ?_, refines_advanced refines fields⟩
    simp only [event, kind_ignored.mpr failed, ← time, if_neg (Int.not_lt.mpr fresh)]
  | tripped fresh counted free trips fits updated fields =>
    have halted : ReferenceBreaker.running (policy manager) breaker outcome.finishedAt = false :=
      Bool.eq_false_iff.mpr (mt blocked.mp free)
    refine .inr ⟨updated, ReferenceBreaker.fail (policy manager) breaker outcome.finishedAt,
      rfl, ?_, ?_⟩
    · simp only [event, kind_counted.mpr counted, ← time, if_neg (Int.not_lt.mpr fresh), halted]
      rfl
    · rw [ReferenceBreaker.fail, if_neg ((refines_trips refines free).mp trips)]
      simp [Refines, fields, ProviderHealth.trippedFields, refines.1]
  | counted fresh counted free below updated fields =>
    have halted : ReferenceBreaker.running (policy manager) breaker outcome.finishedAt = false :=
      Bool.eq_false_iff.mpr (mt blocked.mp free)
    have stays := not_not.mp (mt (refines_trips refines free).mpr below)
    have closed : health.state = .closed := by
      have phase := refines.2.2
      simpa only [stays.1] using phase
    refine .inr ⟨updated, ReferenceBreaker.fail (policy manager) breaker outcome.finishedAt,
      rfl, ?_, ?_⟩
    · simp only [event, kind_counted.mpr counted, ← time, if_neg (Int.not_lt.mpr fresh), halted]
      rfl
    · rw [ReferenceBreaker.fail, if_pos stays]
      simp [Refines, fields, ProviderHealth.countedFields, refines.1, closed]

end Simulation

/-- What the store holds for one pair, against the automaton's history of the
pair's own events. -/
structure Related (manager : ProviderHealthManager) (key : Key) (journal : Journal)
    (history : History Int) : Prop where
  record : match journal.records.getHealth key, history.breaker with
    | none, none => True
    | some health, some breaker => Refines manager health breaker
    | _, _ => False
  accepted : (journal.accepted.filter (·.key = key)).map event = history.accepted

theorem initial_refines (manager : ProviderHealthManager) (outcome : ProviderOutcome)
    (fields : first.toHealthFields = ProviderHealthManager.initialFields outcome) :
    Refines manager first (ReferenceBreaker.fresh outcome.finishedAt) := by
  simp [Refines, ReferenceBreaker.fresh, fields, ProviderHealthManager.initialFields]

/-- `update` at the store is the transition of the stored record, or of a
fresh one. -/
theorem update_current (related : Related manager outcome.key journal history) :
    ∃ current, Refines manager current
        (history.breaker.getD (ReferenceBreaker.fresh (event outcome).at_)) ∧
      update manager journal.records outcome = manager.transition none (some current) outcome := by
  have record := related.record
  rw [update, ProviderHealthManager.update_stored]
  cases stored : journal.records.getHealth outcome.key with
  | none =>
    obtain ⟨first, fields, started⟩ := manager.transition_first none outcome
    have unstarted : history.breaker = none := by
      rw [stored] at record
      cases known : history.breaker with
      | none => rfl
      | some breaker => simp [known] at record
    refine ⟨first, ?_, started⟩
    rw [unstarted]
    exact initial_refines manager outcome fields
  | some health =>
    cases known : history.breaker with
    | none => simp [stored, known] at record
    | some breaker => exact ⟨health, by simpa [stored, known] using record, rfl⟩

theorem update_key (accepted : update manager records outcome = .ok updated) :
    updated.key = outcome.key := by
  rw [update, ProviderHealthManager.update_stored] at accepted
  exact ProviderHealthManager.transition_key
    (fun health stored => records.keyed outcome.key health stored) accepted

/-- Feeding an outcome feeds its event to its own pair's automaton and leaves
every other pair alone. -/
theorem feed_related (related : Related manager key journal history) (outcome : ProviderOutcome) :
    Related manager key (journal.feed manager outcome)
      (if outcome.key = key then history.feed (policy manager) (event outcome) else history) := by
  unfold Journal.feed
  by_cases own : outcome.key = key
  · subst own
    rw [if_pos rfl]
    obtain ⟨current, refines, updates⟩ := update_current related
    unfold History.feed
    rcases transition_simulates refines outcome with ⟨error, refused, stuck⟩ |
      ⟨updated, after, accepted, stepped, refined⟩
    · rw [updates, refused, stuck]
      exact related
    · have place := update_key (updates.trans accepted)
      rw [updates, accepted, stepped]
      constructor
      · rw [← place, HealthRecords.getHealth_upsert_self]
        exact refined
      · simp [List.filter_append, ← related.accepted]
  · rw [if_neg own]
    cases result : update manager journal.records outcome with
    | error error => exact related
    | ok updated =>
      have place := update_key result
      constructor
      · rw [HealthRecords.getHealth_upsert_ne _ _ (by rw [place]; exact Ne.symm own)]
        exact related.record
      · simp [List.filter_append, own, related.accepted]

/-- Every run of the store refines, pair by pair, the automaton's run on the
pair's own events. -/
theorem run_related (manager : ProviderHealthManager) (outcomes : List ProviderOutcome)
    (key : Key) :
    Related manager key (run manager outcomes)
      (ReferenceBreaker.run (policy manager)
        ((outcomes.filter (·.key = key)).map event)) := by
  have from_any : ∀ journal history, Related manager key journal history →
      Related manager key (outcomes.foldl (Journal.feed manager) journal)
        (((outcomes.filter (·.key = key)).map event).foldl
          (History.feed (policy manager)) history) := by
    induction outcomes with
    | nil => exact fun _ _ related => related
    | cons outcome rest ih =>
      intro journal history related
      have next := feed_related related outcome
      by_cases own : outcome.key = key
      · rw [if_pos own] at next
        simpa [own] using ih _ _ next
      · rw [if_neg own] at next
        simpa [own] using ih _ _ next
  exact from_any {} {} ⟨trivial, rfl⟩

/-- What a stored record says about the outcomes its pair had accepted. -/
structure RecordAgrees (manager : ProviderHealthManager) (accepted : List ProviderOutcome)
    (health : ProviderHealth) : Prop where
  closed : health.state = .closed ↔ (health.consecutiveFailures : Int) < manager.failureThreshold
  failures : health.consecutiveFailures =
    ReferenceBreaker.failuresSinceSuccess (accepted.map event)
  window : health.state ≠ .closed → ∃ opened, health.openedAt = some opened ∧
    health.lastFailureAt = some opened ∧ health.cooldownUntil = some (opened + manager.cooldown)

/-- `update` refuses an outcome older than the record, and a success or a
counted failure while the cooldown runs. -/
def Refused (records : HealthRecords) (outcome : ProviderOutcome) : Prop :=
  ∃ health, records.getHealth outcome.key = some health ∧
    (outcome.finishedAt < health.updatedAt ∨
      health.state = .opened ∧
      (∃ deadline, health.cooldownUntil = some deadline ∧ outcome.finishedAt < deadline) ∧
      (outcome.success = true ∨ outcome.CountedFailure))

/-- What an ignored failure may change: an ended cooldown makes the record
`HALF_OPEN`, and nothing else moves. -/
structure IgnoredStep (outcome : ProviderOutcome) (health later : ProviderHealth) : Prop where
  failures : later.consecutiveFailures = health.consecutiveFailures
  openedAt : later.openedAt = health.openedAt
  cooldownUntil : later.cooldownUntil = health.cooldownUntil
  lastFailureAt : later.lastFailureAt = health.lastFailureAt
  lastSuccessAt : later.lastSuccessAt = health.lastSuccessAt
  state : later.state = health.state ∨
    health.state = .opened ∧ later.state = .halfOpen ∧
      ∃ deadline, health.cooldownUntil = some deadline ∧ deadline ≤ outcome.finishedAt

/-- What feeding one outcome does to the store. -/
structure StepAgrees (manager : ProviderHealthManager) (before after : Journal)
    (outcome : ProviderOutcome) : Prop where
  time : ∀ key health, before.records.getHealth key = some health →
    ∃ later, after.records.getHealth key = some later ∧ health.updatedAt ≤ later.updatedAt
  raises : (∃ error, update manager before.records outcome = .error error) ↔
    Refused before.records outcome
  unchanged : Refused before.records outcome → after = before
  ignored : outcome.IgnoredFailure → ∀ key health later,
    before.records.getHealth key = some health → after.records.getHealth key = some later →
      IgnoredStep outcome health later

theorem refines_closed (refines : Refines manager health breaker) :
    health.state = .closed ↔ breaker.phase = .closed := by
  obtain ⟨_, _, phase⟩ := refines
  cases shape : breaker.phase with
  | closed => simpa [shape] using phase
  | opened since =>
    simp only [shape] at phase
    simp [phase.1]
  | probing since =>
    simp only [shape] at phase
    simp [phase.1]

/-- A related record agrees with the accepted outcomes of its pair, because
the automaton does with its events. -/
theorem related_agrees (related : Related manager key journal history)
    (sound : ReferenceBreaker.Sound (policy manager) history)
    (stored : journal.records.getHealth key = some health) :
    RecordAgrees manager (journal.accepted.filter (·.key = key)) health := by
  have record := related.record
  cases known : history.breaker with
  | none => simp [stored, known] at record
  | some breaker =>
    have refines : Refines manager health breaker := by simpa [stored, known] using record
    have bounds := manager.policy_bounds
    constructor
    · rw [refines_closed refines, refines.1]
      have consistent := sound.consistent breaker known
      simp only [ReferenceBreaker.Consistent, policy] at consistent
      rw [consistent]
      omega
    · rw [refines.1, sound.counted breaker known, related.accepted]
    · intro active
      have phase := refines.2.2
      cases shape : breaker.phase with
      | closed => exact absurd ((refines_closed refines).mpr shape) active
      | opened since =>
        simp only [shape] at phase
        exact ⟨since, phase.2⟩
      | probing since =>
        simp only [shape] at phase
        exact ⟨since, phase.2⟩

/-- A pair's first outcome is always accepted. -/
theorem first_accepted (manager : ProviderHealthManager) (outcome : ProviderOutcome) :
    ∃ updated, manager.transition none none outcome = .ok updated := by
  obtain ⟨first, fields, started⟩ := manager.transition_first none outcome
  rw [started]
  have cases := manager.transition_cases none first outcome
  generalize manager.transition none (some first) outcome = result at cases
  have state : first.state = .closed := by rw [fields]; rfl
  have time : first.updatedAt = outcome.finishedAt := by rw [fields]; rfl
  cases cases with
  | stale early => omega
  | blocked _ running _ => simp [ProviderHealth.Blocked, state] at running
  | overflow _ _ _ _ beyond => simp [Datetime.Fits] at beyond
  | success _ _ _ updated _ => exact ⟨updated, rfl⟩
  | ignored _ _ updated _ => exact ⟨updated, rfl⟩
  | tripped _ _ _ _ _ updated _ => exact ⟨updated, rfl⟩
  | counted _ _ _ _ updated _ => exact ⟨updated, rfl⟩

theorem update_raises_iff (manager : ProviderHealthManager) (records : HealthRecords)
    (outcome : ProviderOutcome) :
    (∃ error, update manager records outcome = .error error) ↔ Refused records outcome := by
  rw [update, ProviderHealthManager.update_stored]
  cases stored : records.getHealth outcome.key with
  | none =>
    obtain ⟨updated, accepted⟩ := first_accepted manager outcome
    simp [Refused, stored, accepted]
  | some health =>
    have window := health.window_of_active
    have cases := manager.transition_cases none health outcome
    generalize manager.transition none (some health) outcome = result at cases
    have free_decisive : ¬ health.Blocked outcome.finishedAt ∨ outcome.IgnoredFailure →
        health.updatedAt ≤ outcome.finishedAt → ¬ Refused records outcome := by
      rintro allowed fresh ⟨same, found, early | ⟨opened, ⟨deadline, until_, early⟩, decisive⟩⟩
      · rw [stored, Option.some.injEq] at found
        subst found
        omega
      · rw [stored, Option.some.injEq] at found
        subst found
        rcases allowed with free | ignored
        · exact free ⟨opened, by simp [until_, early]⟩
        · rcases decisive with succeeded | counted
          · exact ProviderOutcome.not_ignored_of_success succeeded ignored
          · exact ProviderOutcome.not_ignored_of_counted counted ignored
    cases cases with
    | stale early => simpa using ⟨health, stored, .inl early⟩
    | blocked fresh running decisive =>
      obtain ⟨_, deadline, _, until_, _⟩ := window (by simp [running.1])
      have kinds := outcome.classified
      rw [← or_assoc] at kinds
      simpa using ⟨health, stored, .inr ⟨running.1,
        ⟨deadline, until_, by simpa [until_] using running.2⟩, kinds.resolve_right decisive⟩⟩
    | overflow _ _ _ _ beyond => simp [Datetime.Fits] at beyond
    | success fresh _ free _ _ => simpa using free_decisive (.inl free) fresh
    | ignored fresh failed _ _ => simpa using free_decisive (.inr failed) fresh
    | tripped fresh _ free _ _ _ _ => simpa using free_decisive (.inl free) fresh
    | counted fresh _ free _ _ _ => simpa using free_decisive (.inl free) fresh

section Accepted
variable {manager : ProviderHealthManager} {health updated : ProviderHealth}
  {outcome : ProviderOutcome}

/-- An accepted outcome never moves the record's time back. -/
theorem transition_time (accepted : manager.transition none (some health) outcome = .ok updated) :
    health.updatedAt ≤ updated.updatedAt := by
  have cases := manager.transition_cases none health outcome
  rw [accepted] at cases
  cases cases with
  | success fresh _ _ _ fields => simpa [fields, ProviderHealth.succeededFields] using fresh
  | ignored fresh _ _ fields =>
    rw [fields, ProviderHealth.advancedFields]
    split
    · exact fresh
    · exact Int.le_refl _
  | tripped fresh _ _ _ _ _ fields => simpa [fields, ProviderHealth.trippedFields] using fresh
  | counted fresh _ _ _ _ fields => simpa [fields, ProviderHealth.countedFields] using fresh

theorem ignored_step (failed : outcome.IgnoredFailure)
    (accepted : manager.transition none (some health) outcome = .ok updated) :
    IgnoredStep outcome health updated := by
  have cases := manager.transition_cases none health outcome
  rw [accepted] at cases
  cases cases with
  | success _ succeeded => exact absurd failed (ProviderOutcome.not_ignored_of_success succeeded)
  | tripped _ counted => exact absurd failed (ProviderOutcome.not_ignored_of_counted counted)
  | counted _ counted => exact absurd failed (ProviderOutcome.not_ignored_of_counted counted)
  | ignored _ _ _ fields =>
    rw [ProviderHealth.advancedFields] at fields
    split at fields
    · rename_i expired
      obtain ⟨_, deadline, _, until_, _⟩ := health.window_of_active (by simp [expired.1])
      constructor <;> rw [fields]
      exact .inr ⟨expired.1, rfl, deadline, until_, by simpa [until_] using expired.2⟩
    · constructor <;> rw [fields]
      exact .inl rfl

end Accepted

/-- One feed, from any store. -/
theorem feed_agrees (manager : ProviderHealthManager) (journal : Journal)
    (outcome : ProviderOutcome) :
    StepAgrees manager journal (journal.feed manager outcome) outcome := by
  have raises := update_raises_iff manager journal.records outcome
  refine ⟨fun key health stored => ?_, raises, fun refused => ?_,
    fun failed key health later stored found => ?_⟩
  · unfold Journal.feed
    cases result : update manager journal.records outcome with
    | error error => exact ⟨health, stored, Int.le_refl _⟩
    | ok updated =>
      by_cases own : key = updated.key
      · subst own
        refine ⟨updated, HealthRecords.getHealth_upsert_self _ _, ?_⟩
        rw [update_key result] at stored
        rw [update, ProviderHealthManager.update_stored, stored] at result
        exact transition_time result
      · exact ⟨health, (HealthRecords.getHealth_upsert_ne _ _ own).trans stored, Int.le_refl _⟩
  · obtain ⟨error, raised⟩ := raises.mpr refused
    simp [Journal.feed, raised]
  · unfold Journal.feed at found
    have same : later = health → IgnoredStep outcome health later := by
      rintro rfl
      exact ⟨rfl, rfl, rfl, rfl, rfl, .inl rfl⟩
    cases result : update manager journal.records outcome with
    | error error =>
      simp only [result] at found
      exact same (Option.some.inj (found.symm.trans stored))
    | ok updated =>
      simp only [result] at found
      by_cases own : key = updated.key
      · subst own
        rw [HealthRecords.getHealth_upsert_self, Option.some.injEq] at found
        subst found
        rw [update_key result] at stored
        rw [update, ProviderHealthManager.update_stored, stored] at result
        exact ignored_step failed result
      · rw [HealthRecords.getHealth_upsert_ne _ _ own, stored, Option.some.injEq] at found
        exact same found.symm

/-- After any run, and for any next outcome: each pair's record refines the
automaton of its own events, its state and count agree with what the pair had
accepted, and the next update raises exactly when the automaton refuses. -/
theorem breaker_runs_refine_reference (manager : ProviderHealthManager)
    (outcomes : List ProviderOutcome) (next : ProviderOutcome) :
    (∀ key, Related manager key (run manager outcomes)
      (ReferenceBreaker.run (policy manager) ((outcomes.filter (·.key = key)).map event))) ∧
    (∀ key health, (run manager outcomes).records.getHealth key = some health →
      RecordAgrees manager ((run manager outcomes).accepted.filter (·.key = key)) health) ∧
    run manager (outcomes ++ [next]) = (run manager outcomes).feed manager next ∧
    StepAgrees manager (run manager outcomes) (run manager (outcomes ++ [next])) next := by
  have extended : run manager (outcomes ++ [next]) = (run manager outcomes).feed manager next := by
    simp [run, List.foldl_append]
  refine ⟨run_related manager outcomes, fun key health stored => ?_, extended, ?_⟩
  · exact related_agrees (run_related manager outcomes key)
      (ReferenceBreaker.run_sound (policy_positive manager) _) stored
  · rw [extended]
    exact feed_agrees manager (run manager outcomes) next

end ModelPilot.BreakerRuns
