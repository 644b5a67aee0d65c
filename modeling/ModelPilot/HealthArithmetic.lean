import ModelPilot.GatewayCourse
import ModelPilot.RecoveryRuns

/-! Health updates over whole runs, under a policy that `Settings` accepts. Every
exception of a transition is caught below the gateway but one: the deadline of a
circuit that opens may lie beyond the last `datetime`. -/
namespace ModelPilot

/-- The circuit policy of `Settings`, with its field bounds. -/
structure CircuitSettings where
  circuitFailureThreshold : Int := 3
  circuitCooldownSeconds : Int := 60
  threshold : 1 ≤ circuitFailureThreshold := by decide
  cooldown : 0 ≤ circuitCooldownSeconds := by decide

/-- `timedelta(seconds=seconds)`, which holds at most 999999999 days. -/
def timedelta (seconds : Int) : Except PyError Int :=
  if (seconds / 86400).natAbs ≤ 999999999 then .ok (seconds * 1000000) else .error .overflow

/-- The constructor of the manager. -/
def ProviderHealthManager.build (failureThreshold cooldown : Int) :
    Except PyError ProviderHealthManager :=
  match policy : ProviderHealth.validatePolicy failureThreshold cooldown with
  | .ok () => .ok ⟨failureThreshold, cooldown, policy⟩
  | .error error => .error error

namespace CircuitSettings

/-- The manager that `create_app` builds. -/
def manager (settings : CircuitSettings) : Except PyError ProviderHealthManager := do
  let cooldown ← timedelta settings.circuitCooldownSeconds
  ProviderHealthManager.build settings.circuitFailureThreshold cooldown

variable {settings : CircuitSettings} {manager : ProviderHealthManager}

theorem policy_valid (settings : CircuitSettings) :
    ProviderHealth.validatePolicy settings.circuitFailureThreshold
      (settings.circuitCooldownSeconds * 1000000) = .ok () := by
  have threshold := settings.threshold
  have cooldown := settings.cooldown
  rw [ProviderHealth.validatePolicy, if_neg (by omega), if_neg (by omega)]

/-- An accepted policy has a manager exactly when `timedelta` holds its cooldown. -/
theorem manager_ok_iff : settings.manager = .ok manager ↔
    settings.circuitCooldownSeconds ≤ 86399999999999 ∧
      manager.failureThreshold = settings.circuitFailureThreshold ∧
      manager.cooldown = settings.circuitCooldownSeconds * 1000000 := by
  have cooldown := settings.cooldown
  rw [CircuitSettings.manager, bind_ok_iff, timedelta]
  by_cases held : (settings.circuitCooldownSeconds / 86400).natAbs ≤ 999999999
  · have bound : settings.circuitCooldownSeconds ≤ 86399999999999 := by omega
    simp only [if_pos held, Except.ok.injEq, bound, true_and, exists_eq_left']
    unfold ProviderHealthManager.build
    split
    · rw [Except.ok.injEq]
      constructor
      · rintro rfl
        exact ⟨rfl, rfl⟩
      · rintro ⟨threshold, cooldown⟩
        cases manager
        cases threshold
        cases cooldown
        rfl
    · rename_i refused
      rw [settings.policy_valid] at refused
      cases refused
  · have bound : ¬ settings.circuitCooldownSeconds ≤ 86399999999999 := by omega
    simp [if_neg held, bound]

/-- The outcome opens the circuit for a cooldown that ends after the last
`datetime`. -/
structure OpensBeyond (settings : CircuitSettings) (health : ProviderHealth)
    (outcome : ProviderOutcome) : Prop where
  fresh : health.updatedAt ≤ outcome.finishedAt
  counted : outcome.CountedFailure
  free : ¬ health.Blocked outcome.finishedAt
  trips : health.Trips settings.circuitFailureThreshold outcome.finishedAt
  beyond : Datetime.maxUtc < outcome.finishedAt + settings.circuitCooldownSeconds * 1000000

theorem overflows_iff (built : settings.manager = .ok manager) :
    ProviderHealthManager.Overflows (some Datetime.maxUtc) manager health outcome ↔
      settings.OpensBeyond health outcome := by
  obtain ⟨_, threshold, cooldown⟩ := manager_ok_iff.mp built
  have fits : ¬ Datetime.Fits (some Datetime.maxUtc) outcome.finishedAt manager.cooldown ↔
      Datetime.maxUtc < outcome.finishedAt + settings.circuitCooldownSeconds * 1000000 := by
    rw [cooldown]
    simp [Datetime.Fits]
  constructor
  · rintro ⟨fresh, counted, free, trips, beyond⟩
    exact ⟨fresh, counted, free, threshold ▸ trips, fits.mp beyond⟩
  · rintro ⟨fresh, counted, free, trips, beyond⟩
    exact ⟨fresh, counted, free, threshold ▸ trips, fits.mpr beyond⟩

end CircuitSettings

namespace GatewayRuns
open CandidateCalls ProviderHealthManager GatewayService

/-- The health update at the end of a call returns: the call ends with its outcome,
and the records have the transition's result, or are as they were. -/
def HealthReturns (manager : ProviderHealthManager) (before : Machine) (event : Event)
    (after : Machine) : Prop :=
  ∀ id outcome readFault writeFault reading,
    event = .finish id (.outcome outcome) readFault writeFault reading →
    ∃ written, updateProviderHealth (some manager)
        (before.managerStore readFault writeFault outcome.key) outcome = .ok written ∧
      afterCall (some manager) (before.managerStore readFault writeFault) (.outcome outcome) =
        (written, .outcome outcome) ∧
      (after.records = before.records ∨ ∃ updated,
        manager.transition (some Datetime.maxUtc) (before.records.getHealth outcome.key) outcome =
          .ok updated ∧
        after.records = before.records.upsertHealth updated)

/-- A call ends with an outcome that opens the circuit of its pair for a cooldown
beyond the last `datetime`, while the record can be read. -/
def EndsBeyond (settings : CircuitSettings) (before : Machine) (event : Event) : Prop :=
  ∃ id outcome writeFault reading health,
    event = .finish id (.outcome outcome) none writeFault reading ∧
    Begins (before.records.getHealth outcome.key) outcome health ∧
    settings.OpensBeyond health outcome

variable {settings : CircuitSettings} {manager : ProviderHealthManager}
  {first before after : Machine} {event : Event} {events : List Event}
  {transitions : List (Machine × Event × Machine)}

/-- What a call's health update reads, when it reads. -/
theorem read_of_managerStore {readFault writeFault : Fault} {stored : Option ProviderHealth}
    (read : (before.managerStore readFault writeFault key).getHealth = .ok stored) :
    readFault = none ∧ stored = before.records.getHealth key := by
  cases readFault with
  | some error => cases read
  | none =>
    cases read
    exact ⟨rfl, rfl⟩

/-- One end of a call: its health update returns unless it ends beyond time. -/
theorem health_returns_iff (built : settings.manager = .ok manager)
    (taken : step (some manager) before event = some after) :
    HealthReturns manager before event after ↔ ¬ EndsBeyond settings before event := by
  constructor
  · rintro returns ⟨id, outcome, writeFault, reading, health, rfl, begins, beyond⟩
    obtain ⟨written, returned, _⟩ := returns _ _ _ _ _ rfl
    have overflows : UpdateOverflows manager (before.managerStore none writeFault outcome.key)
        outcome := ⟨_, health, rfl, begins, (CircuitSettings.overflows_iff built).mpr beyond⟩
    have ends := updateProviderHealth_ends manager
      (before.managerStore none writeFault outcome.key) outcome
    rw [returned] at ends
    cases ends with
    | unchanged contained => exact contained overflows
    | stored contained => exact contained overflows
  · rintro contained id outcome readFault writeFault reading rfl
    have records := (step_finish taken).1
    have ends := updateProviderHealth_ends manager
      (before.managerStore readFault writeFault outcome.key) outcome
    generalize same : updateProviderHealth (some manager)
      (before.managerStore readFault writeFault outcome.key) outcome = result at ends
    have ended {written : Option ProviderHealth} (returned : result = .ok written) :
        afterCall (some manager) (before.managerStore readFault writeFault) (.outcome outcome) =
          (written, .outcome outcome) := by
      rw [afterCall, same, returned]
    cases ends with
    | unchanged => exact ⟨none, rfl, ended rfl, .inl (by rw [records, ended rfl]; rfl)⟩
    | @stored _ updated _ read turned =>
      obtain ⟨_, rfl⟩ := read_of_managerStore read
      exact ⟨some updated, rfl, ended rfl, .inr ⟨updated, turned, by rw [records, ended rfl]; rfl⟩⟩
    | overflow overflows =>
      obtain ⟨stored, health, read, begins, beyond⟩ := overflows
      obtain ⟨rfl, rfl⟩ := read_of_managerStore read
      exact absurd ⟨id, outcome, writeFault, reading, health, rfl, begins,
        (CircuitSettings.overflows_iff built).mp beyond⟩ contained

/-- Along every run each health update returns exactly when no outcome opens a
circuit beyond the last `datetime`. -/
theorem health_updates_return_iff (built : settings.manager = .ok manager)
    (ran : Runs.trace (step (some manager)) first events = some transitions) :
    (∀ before event after, (before, event, after) ∈ transitions →
      HealthReturns manager before event after) ↔
    ∀ before event after, (before, event, after) ∈ transitions →
      ¬ EndsBeyond settings before event := by
  constructor
  · intro returns before event after member
    exact (health_returns_iff built (Runs.step_of_mem_trace ran member)).mp
      (returns before event after member)
  · intro contained before event after member
    exact (health_returns_iff built (Runs.step_of_mem_trace ran member)).mpr
      (contained before event after member)

section Timeouts

/-- A first timeout opens a circuit for over 31688 years. -/
def longSettings : CircuitSettings where
  circuitFailureThreshold := 1
  circuitCooldownSeconds := 1000000000000

def longManager : ProviderHealthManager := ⟨1, 1000000000000000000, rfl⟩

def defaultManager : ProviderHealthManager := ⟨3, 60000000, rfl⟩

/-- Request 0 calls the pair, which times out in the year 2025. -/
def timeoutEvents : List Event :=
  [.arrive 0 [("p", "m")] (fun _ => none) (.utc 1750000000000000),
    .probe 0 (fun _ => none) (.utc 1750000000000000),
    .finish 0 (.outcome (timedOutAt 1750000000000000)) none none (.utc 1750000000000000)]

def timeoutRun (manager : ProviderHealthManager) : List (Machine × Event × Machine) :=
  (Runs.trace (step (some manager)) blank timeoutEvents).getD []

/-- Under the default policy the health updates of the run return. -/
theorem default_timeout_returns :
    ({} : CircuitSettings).manager = .ok defaultManager ∧
    Runs.trace (step (some defaultManager)) blank timeoutEvents =
      some (timeoutRun defaultManager) ∧
    ∀ before event after, (before, event, after) ∈ timeoutRun defaultManager →
      HealthReturns defaultManager before event after := by
  have built : ({} : CircuitSettings).manager = .ok defaultManager := rfl
  have ran : Runs.trace (step (some defaultManager)) blank timeoutEvents =
      some (timeoutRun defaultManager) := rfl
  refine ⟨built, ran, (health_updates_return_iff built ran).mpr ?_⟩
  rintro before event after member ⟨_, outcome, _, _, _, rfl, _, beyond⟩
  have late := beyond.beyond
  have inside : outcome = timedOutAt 1750000000000000 := by
    rcases List.mem_cons.mp member with same | member
    · cases same
    rcases List.mem_cons.mp member with same | member
    · cases same
    · cases List.mem_singleton.mp member
      rfl
  subst inside
  exact absurd late (by decide)

/-- An accepted policy and a first timeout: the health update raises. -/
theorem long_cooldown_raises :
    longSettings.manager = .ok longManager ∧
    Runs.trace (step (some longManager)) blank timeoutEvents = some (timeoutRun longManager) ∧
    updateProviderHealth (some longManager) (blank.managerStore none none ("p", "m"))
      (timedOutAt 1750000000000000) = .error .overflow ∧
    ¬ ∀ before event after, (before, event, after) ∈ timeoutRun longManager →
      HealthReturns longManager before event after := by
  refine ⟨rfl, rfl, rfl, fun returns => ?_⟩
  have last := returns _ _ _ (List.mem_of_getElem? (i := 2) rfl)
  obtain ⟨written, returned, _⟩ := last _ _ _ _ _ rfl
  cases returned

end Timeouts

end GatewayRuns
end ModelPilot
