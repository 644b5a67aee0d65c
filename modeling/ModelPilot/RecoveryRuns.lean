import ModelPilot.ProbeRuns

/-! Recovery over whole runs. While a pair's record is not `CLOSED`, the calls
without the lease should not move it; but the manager sees only outcomes, so a
call admitted before the circuit opened can still decide the recovery when it
ends late. Runs without such an end are exactly those in which the probe decides. -/
namespace ModelPilot.GatewayRuns
open CandidateCalls ProviderHealthManager

/-- A reading of a clock that does not go back. -/
def Machine.OnTime (machine : Machine) (reading : Datetime) : Prop :=
  ∃ at_, reading.toUtc = some at_ ∧ machine.clock ≤ at_

/-- Store operations succeed, the clock does not go back, and an outcome is
finished when the clock is read at the end of its call. -/
def Orderly (machine : Machine) : Event → Prop
  | .arrive _ _ faults reading => (∀ key, faults key = none) ∧ machine.OnTime reading
  | .probe _ faults reading => (∀ key, faults key = none) ∧ machine.OnTime reading
  | .finish _ result readFault writeFault reading =>
    readFault = none ∧ writeFault = none ∧ machine.OnTime reading ∧
      ∀ outcome, result = .outcome outcome → reading.toUtc = some outcome.finishedAt
  | .releaseAgain lease => Stale machine lease

/-- The call of the request holds the lease of the pair. -/
def Machine.Holds (machine : Machine) (id : Nat) (key : Key) : Prop :=
  ∃ lease, machine.InFlight id key (some lease)

/-- The parts of a record that steer admission are the same. -/
structure SameCircuit (health updated : ProviderHealth) : Prop where
  state : updated.state = health.state
  failures : updated.consecutiveFailures = health.consecutiveFailures
  cooldown : updated.cooldownUntil = health.cooldownUntil

/-- Only the probe decides recovery, in one step: without an outcome of the
lease holder a record that is not `CLOSED` keeps its circuit, and the outcome of
the lease holder is accepted. -/
structure ProbeDecides (manager : ProviderHealthManager) (before : Machine) (event : Event)
    (after : Machine) : Prop where
  others : ∀ key health, before.records.getHealth key = some health → health.state ≠ .closed →
    (∀ id outcome readFault writeFault reading,
      event = .finish id (.outcome outcome) readFault writeFault reading →
      outcome.key = key → ¬ before.Holds id key) →
    ∃ updated, after.records.getHealth key = some updated ∧ SameCircuit health updated
  probe : ∀ id outcome readFault writeFault reading,
    event = .finish id (.outcome outcome) readFault writeFault reading →
    before.Holds id outcome.key →
    ∃ updated, manager.update (some Datetime.maxUtc)
        (before.managerStore readFault writeFault outcome.key) outcome = .ok updated ∧
      after.records.getHealth outcome.key = some updated ∧
      (outcome.success = true → updated.state = .closed ∧ updated.consecutiveFailures = 0) ∧
      (outcome.CountedFailure → updated.state = .opened ∧
        updated.cooldownUntil = some (outcome.finishedAt + manager.cooldown))

/-- The cooldown of a failure ends within the datetime range. -/
def CooldownFits (manager : ProviderHealthManager) (outcome : ProviderOutcome) : Prop :=
  Datetime.Fits (some Datetime.maxUtc) outcome.finishedAt manager.cooldown

/-- An outcome that cannot move a record in recovery: it does not count against a
stored `HALF_OPEN`, or its cooldown overflows. -/
def Idle (manager : ProviderHealthManager) (health : ProviderHealth) (outcome : ProviderOutcome) :
    Prop :=
  (health.state = .halfOpen ∧ outcome.IgnoredFailure) ∨
    (outcome.CountedFailure ∧ ¬ CooldownFits manager outcome)

/-- An outcome for a record in recovery is idle, or it is the lease holder's, and
then its cooldown does not overflow. -/
def LeaseDecides (manager : ProviderHealthManager) (machine : Machine) : Event → Prop
  | .finish id (.outcome outcome) _ _ _ => ∀ health,
    machine.records.getHealth outcome.key = some health → health.Recovering outcome.finishedAt →
    (machine.Holds id outcome.key → outcome.CountedFailure → CooldownFits manager outcome) ∧
    (¬ machine.Holds id outcome.key → Idle manager health outcome)
  | _ => True

variable {manager : ProviderHealthManager} {before after machine : Machine} {event : Event}
  {id : Nat} {key : Key} {health updated : ProviderHealth} {outcome : ProviderOutcome}
  {result : CallResult} {reading : Datetime}

section Steps

/-- What the end of a call does to the records and the clock. -/
theorem step_finish {readFault writeFault : Fault}
    (taken : step (some manager) before (.finish id result readFault writeFault reading) =
      some after) :
    after.records = (afterCall (some manager) (before.managerStore readFault writeFault)
        result).1.elim before.records before.records.upsertHealth ∧
      after.clock = reading.toUtc.getD before.clock := by
  simp only [step] at taken
  split at taken
  · cases taken
    unfold Machine.finish
    split
    rename_i written ended settled
    rw [settled]
    split
    · exact ⟨rfl, rfl⟩
    · exact ⟨rfl, rfl⟩
  · cases taken

/-- What the clock shows after an event. -/
def Event.shown (clock : Int) : Event → Int
  | .arrive _ _ _ reading => reading.toUtc.getD clock
  | .probe _ _ reading => reading.toUtc.getD clock
  | .finish _ _ _ _ reading => reading.toUtc.getD clock
  | .releaseAgain _ => clock

theorem step_clock (taken : step (some manager) before event = some after) :
    after.clock = event.shown before.clock := by
  cases event with
  | arrive id candidates faults reading =>
    simp only [step] at taken
    split at taken
    · cases taken
    cases taken
    simp only [Machine.arrive, Event.shown]
    split <;> rfl
  | probe id faults reading =>
    simp only [step] at taken
    split at taken
    · cases taken
      simp only [Machine.probe, Event.shown]
      split
      · rfl
      · split <;> rfl
    · cases taken
  | finish id result readFault writeFault reading => exact (step_finish taken).2
  | releaseAgain lease =>
    cases taken
    rfl

theorem clock_le (orderly : Orderly before event)
    (taken : step (some manager) before event = some after) : before.clock ≤ after.clock := by
  rw [step_clock taken]
  cases event with
  | arrive _ _ _ reading =>
    obtain ⟨_, at_, aware, later⟩ := orderly
    simpa [Event.shown, aware] using later
  | probe _ _ reading =>
    obtain ⟨_, at_, aware, later⟩ := orderly
    simpa [Event.shown, aware] using later
  | finish _ _ _ _ reading =>
    obtain ⟨_, _, ⟨at_, aware, later⟩, _⟩ := orderly
    simpa [Event.shown, aware] using later
  | releaseAgain _ => exact Int.le_refl _

/-- With a working store the record written is the transition of the stored one. -/
theorem written_working (machine : Machine) (outcome : ProviderOutcome) :
    (afterCall (some manager) (machine.managerStore none none) (.outcome outcome)).1 =
      (manager.transition (some Datetime.maxUtc) (machine.records.getHealth outcome.key)
        outcome).toOption := by
  have stored : machine.managerStore none none outcome.key =
      { getHealth := .ok (machine.records.getHealth outcome.key) } := rfl
  simp only [afterCall, updateProviderHealth, stored, update_stored]
  cases manager.transition (some Datetime.maxUtc) (machine.records.getHealth outcome.key)
      outcome with
  | ok updated => rfl
  | error error => cases error <;> rfl

/-- An orderly step leaves the record of a pair alone, or ends a call whose
outcome is accepted. -/
inductive RecordEffect (manager : ProviderHealthManager) (before : Machine) (event : Event)
    (after : Machine) (key : Key) : Prop where
  | kept (same : after.records.getHealth key = before.records.getHealth key)
  | accepted {id : Nat} {outcome : ProviderOutcome} {reading : Datetime} {updated : ProviderHealth}
      (ends : event = .finish id (.outcome outcome) none none reading) (own : outcome.key = key)
      (turned : manager.transition (some Datetime.maxUtc) (before.records.getHealth key) outcome =
        .ok updated)
      (stored : after.records.getHealth key = some updated)

/-- An accepted outcome writes the record of its pair and no other. -/
theorem getHealth_accepted
    (taken : step (some manager) before (.finish id (.outcome outcome) none none reading) =
      some after)
    (turned : manager.transition (some Datetime.maxUtc)
      (before.records.getHealth outcome.key) outcome = .ok updated) (key : Key) :
    after.records.getHealth key =
      if key = outcome.key then some updated else before.records.getHealth key := by
  have own := transition_key (fun health found => before.records.keyed _ health found) turned
  rw [(step_finish taken).1, written_working, turned, ← own]
  rfl

theorem step_record (orderly : Orderly before event)
    (taken : step (some manager) before event = some after) (key : Key) :
    RecordEffect manager before event after key := by
  cases step_effect taken with
  | quiet _ records _ => exact .kept (by rw [records])
  | started _ _ _ records _ => exact .kept (by rw [records])
  | releasedAgain _ records _ => exact .kept (by rw [records])
  | @finished id _ _ result readFault writeFault reading _ _ _ records _ =>
    obtain ⟨rfl, rfl, _, _⟩ := orderly
    cases result with
    | legacy _ => exact .kept (by rw [records]; rfl)
    | raised _ => exact .kept (by rw [records]; rfl)
    | cancelled => exact .kept (by rw [records]; rfl)
    | outcome outcome =>
      cases turned : manager.transition (some Datetime.maxUtc)
          (before.records.getHealth outcome.key) outcome with
      | error error =>
        rw [written_working, turned] at records
        exact .kept (by rw [records]; rfl)
      | ok updated =>
        have stored := getHealth_accepted taken turned key
        by_cases same : key = outcome.key
        · subst same
          exact .accepted rfl rfl turned (by rw [stored, if_pos rfl])
        · exact .kept (by rw [stored, if_neg same])

end Steps

section Invariants

/-- Records are not updated after the clock, leases and calls agree, and the pair
of each call that holds a lease is in recovery. -/
structure Settled (machine : Machine) : Prop where
  owned : Owned machine
  past : ∀ key health, machine.records.getHealth key = some health →
    health.updatedAt ≤ machine.clock

/-- The pair of each call that holds a lease is in recovery. -/
def LeasedRecover (machine : Machine) : Prop :=
  ∀ id key, machine.Holds id key →
    ∃ health, machine.records.getHealth key = some health ∧ health.Recovering machine.clock

/-- A gateway that starts with records from the past. -/
def StartsInOrder (machine : Machine) : Prop :=
  Starts machine ∧ ∀ key health, machine.records.getHealth key = some health →
    health.updatedAt ≤ machine.clock

theorem updatedAt_of_turned
    (turned : manager.transition latest stored outcome = .ok updated) :
    updated.updatedAt ≤ outcome.finishedAt := by
  cases stored with
  | none =>
    obtain ⟨fresh, _, same⟩ := manager.transition_first latest outcome
    exact transition_updatedAt (same ▸ turned)
  | some health => exact transition_updatedAt turned

theorem orderly_stale (orderly : Orderly before event) (lease : ProbeLease)
    (again : event = .releaseAgain lease) : Stale before lease := by
  subst again
  exact orderly

/-- The outcome of an orderly step is finished when the clock shows it. -/
theorem clock_finished (orderly : Orderly before event)
    (taken : step (some manager) before event = some after)
    (ends : event = .finish id (.outcome outcome) readFault writeFault reading) :
    after.clock = outcome.finishedAt := by
  rw [step_clock taken]
  subst ends
  obtain ⟨_, _, _, finished⟩ := orderly
  simp [Event.shown, finished outcome rfl]

theorem step_settled (settled : Settled before) (orderly : Orderly before event)
    (taken : step (some manager) before event = some after) : Settled after := by
  refine ⟨step_owned settled.owned (orderly_stale orderly) taken, fun key health found => ?_⟩
  cases step_record orderly taken key with
  | kept same =>
    rw [same] at found
    exact Int.le_trans (settled.past key health found) (clock_le orderly taken)
  | accepted ends _ turned stored =>
    rw [stored, Option.some.injEq] at found
    subst found
    rw [clock_finished orderly taken ends]
    exact updatedAt_of_turned turned

/-- One pair has one lease, so a call holding it excludes the others. -/
theorem Owned.holds_unique (owned : Owned machine) (one : machine.Holds id key)
    (two : machine.Holds other key) : id = other := by
  obtain ⟨first, calling⟩ := one
  obtain ⟨second, again⟩ := two
  have held := (owned.held key first).mpr ⟨id, calling⟩
  rw [(owned.held key second).mpr ⟨other, again⟩, Option.some.injEq] at held
  exact owned.apart id key first other key second calling again (by rw [held])

/-- An idle outcome that is accepted leaves the record as it was. -/
theorem same_of_idle (idle : Idle manager health outcome)
    (fresh : health.updatedAt ≤ outcome.finishedAt)
    (recovering : health.Recovering outcome.finishedAt)
    (turned : manager.transition (some Datetime.maxUtc) (some health) outcome = .ok updated) :
    updated = health := by
  rcases idle with ⟨halfOpen, ignored⟩ | ⟨counted, beyond⟩
  · have uncounted : ¬ outcome.CountedFailure :=
      fun counted => ProviderOutcome.not_ignored_of_counted counted ignored
    obtain ⟨same, accepted, recovery⟩ :=
      transition_recovery fresh recovering (fun counted => absurd counted uncounted)
    rw [turned] at accepted
    cases accepted
    cases recovery with
    | success succeeded => exact absurd ignored (ProviderOutcome.not_ignored_of_success succeeded)
    | counted counted => exact absurd counted uncounted
    | ignored _ fields =>
      apply ProviderHealth.ext_fields
      rw [fields, ProviderHealth.advancedFields, if_neg]
      rintro ⟨opened, _⟩
      rw [halfOpen] at opened
      cases opened
  · exact absurd (fits_of_recovery recovering counted turned) beyond

/-- A call that starts with a lease found its pair in recovery. -/
theorem recovering_of_started {admission : Admission} {probes : HalfOpenProbeCoordinator}
    {faults : Key → Fault} {lease : ProbeLease} (succeed : faults key = none)
    (aware : reading.toUtc = some at_)
    (admitted : admitProbe (some (machine.reads faults)) machine.probes reading key =
      .ok (admission, probes)) (got : admission.lease = some lease) :
    ∃ health, machine.records.getHealth key = some health ∧ health.Recovering at_ := by
  have needed : (healthVerdict (some (machine.reads faults)) reading key).NeedsProbe := by
    rcases admitProbe_cases admitted with ⟨_, none, _⟩ | ⟨_, _, _, none, _⟩ | ⟨_, needed, _⟩
    · rw [got] at none
      cases none
    · rw [got] at none
      cases none
    · exact needed
  have halfOpen := (healthVerdict_read aware (reads_stored machine succeed)).1
  rw [needed.2] at halfOpen
  cases found : machine.records.getHealth key with
  | none =>
    rw [found] at halfOpen
    cases halfOpen
  | some health =>
    have reached : health.Reached reading := by
      by_contra unreached
      rw [found, effectiveState_unreached unreached] at halfOpen
      cases halfOpen
    obtain ⟨other, converted, fresh⟩ := reached
    cases aware.symm.trans (Datetime.toUtc_of_inUtc converted)
    rw [found, effectiveState_fresh converted fresh] at halfOpen
    refine ⟨health, rfl, ?_⟩
    split at halfOpen
    · rename_i expired
      exact .inr expired
    · exact .inl (Option.some.inj halfOpen).symm

theorem step_leased (settled : Settled before) (leased : LeasedRecover before)
    (orderly : Orderly before event) (decides : LeaseDecides manager before event)
    (taken : step (some manager) before event = some after) : LeasedRecover after := by
  have later := clock_le orderly taken
  have kept : after.records = before.records → ∀ other key, before.Holds other key →
      ∃ health, after.records.getHealth key = some health ∧ health.Recovering after.clock := by
    intro same other key holds
    obtain ⟨health, found, recovering⟩ := leased other key holds
    exact ⟨health, by rw [same, found], recovering.later later⟩
  cases step_effect taken with
  | quiet _ records calls =>
    rintro other key ⟨lease, calling⟩
    exact kept records other key ⟨lease, (calls _ _ _).mp calling⟩
  | releasedAgain _ records calls =>
    rintro other key ⟨lease, calling⟩
    exact kept records other key ⟨lease, (calls _ _ _).mp calling⟩
  | started _ admitted _ records calls =>
    rintro other key ⟨lease, calling⟩
    rcases (calls _ _ _).mp calling with ⟨_, rfl, got⟩ | ⟨_, older⟩
    · obtain ⟨succeed, at_, aware, _⟩ := orderly
      rw [records, step_clock taken, Event.shown, aware, Option.getD_some]
      exact recovering_of_started (succeed key) aware admitted got.symm
    · exact kept records other key ⟨lease, older⟩
  | @finished id _ _ _ _ _ _ _ _ _ _ calls =>
    rintro other key ⟨lease, calling⟩
    obtain ⟨different, older⟩ := (calls _ _ _).mp calling
    obtain ⟨health, found, recovering⟩ := leased other key ⟨lease, older⟩
    have recovers := recovering.later later
    cases step_record orderly taken key with
    | kept same => exact ⟨health, by rw [same, found], recovers⟩
    | accepted ends own turned stored =>
      have finished := clock_finished orderly taken ends
      cases ends
      subst own
      rw [finished] at recovers later
      have unheld : ¬ before.Holds id _ :=
        fun held => different (settled.owned.holds_unique ⟨lease, older⟩ held)
      have idle := (decides health found recovers).2 unheld
      rw [found] at turned
      have fresh := Int.le_trans (settled.past _ health found) later
      have same := same_of_idle idle fresh recovers turned
      exact ⟨health, by rw [stored, same], by rwa [finished]⟩

end Invariants

section Decision

/-- In recovery only the lease holder's outcomes move the record. -/
theorem others_of_decides (settled : Settled before) (orderly : Orderly before event)
    (decides : LeaseDecides manager before event)
    (taken : step (some manager) before event = some after)
    (found : before.records.getHealth key = some health) (active : health.state ≠ .closed)
    (unheld : ∀ id outcome readFault writeFault reading,
      event = .finish id (.outcome outcome) readFault writeFault reading →
      outcome.key = key → ¬ before.Holds id key) :
    ∃ updated, after.records.getHealth key = some updated ∧ SameCircuit health updated := by
  cases step_record orderly taken key with
  | kept same => exact ⟨health, by rw [same, found], rfl, rfl, rfl⟩
  | @accepted id outcome reading updated ends own turned stored =>
    have finished := clock_finished orderly taken ends
    have fresh := Int.le_trans (settled.past key health found) (clock_le orderly taken)
    have free := unheld _ _ _ _ _ ends own
    subst own ends
    rw [finished] at fresh
    rw [found] at turned
    by_cases recovering : health.Recovering outcome.finishedAt
    · have idle := (decides health found recovering).2 free
      have same := same_of_idle idle fresh recovering turned
      exact ⟨health, by rw [stored, same], rfl, rfl, rfl⟩
    · refine ⟨updated, stored, ?_⟩
      have blocked :=
        (health.blocked_or_recovering active outcome.finishedAt).resolve_right recovering
      have cases := manager.transition_cases (some Datetime.maxUtc) health outcome
      rw [turned] at cases
      cases cases with
      | success _ _ free => exact absurd blocked free
      | tripped _ _ free => exact absurd blocked free
      | counted _ _ free => exact absurd blocked free
      | ignored _ _ _ fields =>
        rw [ProviderHealth.advancedFields,
          if_neg (ProviderHealth.not_expired_of_blocked blocked)] at fields
        exact ⟨by rw [fields], by rw [fields], by rw [fields]⟩

/-- The outcome of a lease holder is accepted. -/
theorem probe_of_decides (settled : Settled before) (leased : LeasedRecover before)
    (orderly : Orderly before (.finish id (.outcome outcome) readFault writeFault reading))
    (decides : LeaseDecides manager before
      (.finish id (.outcome outcome) readFault writeFault reading))
    (taken : step (some manager) before
      (.finish id (.outcome outcome) readFault writeFault reading) = some after)
    (holds : before.Holds id outcome.key) :
    ∃ updated, manager.update (some Datetime.maxUtc)
        (before.managerStore readFault writeFault outcome.key) outcome = .ok updated ∧
      after.records.getHealth outcome.key = some updated ∧
      (outcome.success = true → updated.state = .closed ∧ updated.consecutiveFailures = 0) ∧
      (outcome.CountedFailure → updated.state = .opened ∧
        updated.cooldownUntil = some (outcome.finishedAt + manager.cooldown)) := by
  obtain ⟨health, found, recovering⟩ := leased id outcome.key holds
  have later := clock_le orderly taken
  have finished := clock_finished orderly taken rfl
  rw [finished] at later
  have recovers := recovering.later later
  have fresh := Int.le_trans (settled.past _ health found) later
  obtain ⟨updated, turned, recovery⟩ :=
    transition_recovery fresh recovers ((decides health found recovers).1 holds)
  obtain ⟨rfl, rfl, _, _⟩ := orderly
  have stored := getHealth_accepted taken (found ▸ turned) outcome.key
  rw [if_pos rfl] at stored
  refine ⟨updated, ?_, stored, fun succeeded => ?_, fun counted => ?_⟩
  · have working : before.managerStore none none outcome.key =
        { getHealth := .ok (before.records.getHealth outcome.key) } := rfl
    rw [working, update_stored, found, turned]
  · cases recovery with
    | success _ fields => exact ⟨by rw [fields]; rfl, by rw [fields]; rfl⟩
    | counted counted =>
      exact absurd counted (ProviderOutcome.not_counted_of_success succeeded)
    | ignored ignored =>
      exact absurd ignored (ProviderOutcome.not_ignored_of_success succeeded)
  · cases recovery with
    | success succeeded =>
      exact absurd counted (ProviderOutcome.not_counted_of_success succeeded)
    | counted _ fields => exact ⟨by rw [fields]; rfl, by rw [fields]; rfl⟩
    | ignored ignored =>
      exact absurd ignored (ProviderOutcome.not_ignored_of_counted counted)

/-- In a run in order the probe decides a step exactly when its lease does. -/
theorem decides_of_probe (settled : Settled before) (orderly : Orderly before event)
    (taken : step (some manager) before event = some after)
    (probe : ProbeDecides manager before event after) : LeaseDecides manager before event := by
  cases event with
  | arrive _ _ _ _ => trivial
  | probe _ _ _ => trivial
  | releaseAgain _ => trivial
  | finish id result readFault writeFault reading =>
  cases result with
  | legacy _ => trivial
  | raised _ => trivial
  | cancelled => trivial
  | outcome outcome =>
  intro health found recovering
  have finished := clock_finished orderly taken rfl
  have later := clock_le orderly taken
  have working := orderly
  obtain ⟨rfl, rfl, _, _⟩ := working
  constructor
  · intro holds counted
    obtain ⟨updated, accepted, _⟩ := probe.probe _ _ _ _ _ rfl holds
    have working : before.managerStore none none outcome.key =
        { getHealth := .ok (before.records.getHealth outcome.key) } := rfl
    rw [working, update_stored, found] at accepted
    exact fits_of_recovery recovering counted accepted
  · intro unheld
    by_contra decisive
    obtain ⟨cool, moves⟩ := not_or.mp decisive
    have fits : outcome.CountedFailure → CooldownFits manager outcome := by
      intro counted
      by_contra beyond
      exact moves ⟨counted, beyond⟩
    have fresh := Int.le_trans (settled.past _ health found) later
    rw [finished] at fresh
    obtain ⟨updated, turned, recovery⟩ := transition_recovery fresh recovering fits
    have stored := getHealth_accepted taken (found ▸ turned) outcome.key
    rw [if_pos rfl] at stored
    have active := ProviderHealth.active_of_recovering recovering
    obtain ⟨other, again, circuit⟩ := probe.others _ health found active (by
      rintro _ _ _ _ _ ⟨⟩ _
      exact unheld)
    rw [stored, Option.some.injEq] at again
    subst again
    cases recovery with
    | success _ fields =>
      have state := circuit.state
      rw [fields] at state
      exact active state.symm
    | counted _ fields =>
      have failures := circuit.failures
      rw [fields] at failures
      exact absurd failures (by simp [ProviderHealth.trippedFields])
    | ignored ignored fields =>
      have state := circuit.state
      rw [fields, ProviderHealth.advancedFields_state] at state
      rcases recovering with halfOpen | expired
      · exact cool ⟨halfOpen, ignored⟩
      · rw [if_pos expired, expired.1] at state
        cases state

/-- Recovery along a whole run in order: the probe decides every step exactly when
every outcome for a pair in recovery is its lease holder's or is idle. -/
theorem recovery_decided_iff (manager : ProviderHealthManager) {origin : Machine}
    {events : List Event} {transitions : List (Machine × Event × Machine)}
    (starts : StartsInOrder origin)
    (ran : Runs.trace (step (some manager)) origin events = some transitions)
    (orderly : ∀ before event after, (before, event, after) ∈ transitions →
      Orderly before event) :
    (∀ before event after, (before, event, after) ∈ transitions →
      ProbeDecides manager before event after) ↔
    ∀ before event after, (before, event, after) ∈ transitions →
      LeaseDecides manager before event := by
  have settled : ∀ before event after, (before, event, after) ∈ transitions → Settled before :=
    fun before event after member => Runs.before_of_mem_trace
      ⟨starts_owned starts.1, starts.2⟩ ran (fun before event after inside settled =>
        step_settled settled (orderly _ _ _ inside) (Runs.step_of_mem_trace ran inside)) member
  constructor
  · intro probes before event after member
    exact decides_of_probe (settled _ _ _ member) (orderly _ _ _ member)
      (Runs.step_of_mem_trace ran member) (probes _ _ _ member)
  · intro decides
    have idle : LeasedRecover origin := by
      rintro id key ⟨lease, ranked, calling⟩
      rw [starts.1.2] at calling
      cases calling
    have leased : ∀ before event after, (before, event, after) ∈ transitions →
        LeasedRecover before :=
      fun before event after member => Runs.before_of_mem_trace idle ran
        (fun before event after inside leased => step_leased (settled _ _ _ inside) leased
          (orderly _ _ _ inside) (decides _ _ _ inside) (Runs.step_of_mem_trace ran inside)) member
    intro before event after member
    have taken := Runs.step_of_mem_trace ran member
    refine ⟨fun key health found active unheld => others_of_decides (settled _ _ _ member)
      (orderly _ _ _ member) (decides _ _ _ member) taken found active unheld, ?_⟩
    rintro id outcome readFault writeFault reading rfl holds
    exact probe_of_decides (settled _ _ _ member) (leased _ _ _ member) (orderly _ _ _ member)
      (decides _ _ _ member) taken holds

end Decision

/-- One failure opens a circuit for 10. -/
def quick : ProviderHealthManager := ⟨1, 10, rfl⟩

def servedAt (at_ : Int) : ProviderOutcome where
  provider := "p"
  model := "m"
  success := true
  response := some .empty
  startedAt := at_
  finishedAt := at_
  latencyMs := 0
  named := by decide
  timed := Int.le_refl _
  latency := Rat.le_refl
  statusRange := by simp
  shape := by simp

def timedOutAt (at_ : Int) : ProviderOutcome where
  provider := "p"
  model := "m"
  success := false
  errorType := some .timeout
  startedAt := at_
  finishedAt := at_
  latencyMs := 0
  named := by decide
  timed := Int.le_refl _
  latency := Rat.le_refl
  statusRange := by simp
  shape := by simp

/-- A gateway without records. -/
def blank : Machine where
  records := .empty
  clock := 0

theorem blank_starts : StartsInOrder blank :=
  ⟨⟨rfl, rfl⟩, by rintro _ _ ⟨⟩⟩

/-- Request 0 calls the pair and times out at 2, which opens the circuit until 12;
at 13 request 1 starts the probe, which succeeds at 14. -/
def probeEvents : List Event :=
  [.arrive 0 [("p", "m")] (fun _ => none) (.utc 1), .probe 0 (fun _ => none) (.utc 1),
    .finish 0 (.outcome (timedOutAt 2)) none none (.utc 2),
    .arrive 1 [("p", "m")] (fun _ => none) (.utc 13), .probe 1 (fun _ => none) (.utc 13),
    .finish 1 (.outcome (servedAt 14)) none none (.utc 14)]

/-- Requests 0 and 1 call the pair while it is `CLOSED`; request 1 times out at 3,
which opens the circuit until 13; at 14 request 2 starts the probe; request 0,
without a lease, succeeds at 15. -/
def lateEvents : List Event :=
  [.arrive 0 [("p", "m")] (fun _ => none) (.utc 1), .probe 0 (fun _ => none) (.utc 1),
    .arrive 1 [("p", "m")] (fun _ => none) (.utc 2), .probe 1 (fun _ => none) (.utc 2),
    .finish 1 (.outcome (timedOutAt 3)) none none (.utc 3),
    .arrive 2 [("p", "m")] (fun _ => none) (.utc 14), .probe 2 (fun _ => none) (.utc 14),
    .finish 0 (.outcome (servedAt 15)) none none (.utc 15)]

def transitionsOf (events : List Event) : List (Machine × Event × Machine) :=
  (Runs.trace (step (some quick)) blank events).getD []

theorem orderly_arrive (id : Nat) (candidates : List Key) (later : machine.clock ≤ at_) :
    Orderly machine (.arrive id candidates (fun _ => none) (.utc at_)) :=
  ⟨fun _ => rfl, at_, Datetime.toUtc_utc at_, later⟩

theorem orderly_probe (id : Nat) (later : machine.clock ≤ at_) :
    Orderly machine (.probe id (fun _ => none) (.utc at_)) :=
  ⟨fun _ => rfl, at_, Datetime.toUtc_utc at_, later⟩

theorem orderly_finish (id : Nat) (outcome : ProviderOutcome)
    (later : machine.clock ≤ outcome.finishedAt) :
    Orderly machine (.finish id (.outcome outcome) none none (.utc outcome.finishedAt)) := by
  refine ⟨rfl, rfl, ⟨_, Datetime.toUtc_utc _, later⟩, ?_⟩
  rintro _ ⟨⟩
  exact Datetime.toUtc_utc _

private theorem forall_transitions {holds : Machine → Event → Prop}
    {transitions : List (Machine × Event × Machine)}
    (each : transitions.Forall fun taken => holds taken.1 taken.2.1) (before : Machine)
    (event : Event) (after : Machine) (member : (before, event, after) ∈ transitions) :
    holds before event :=
  List.forall_iff_forall_mem.mp each _ member

theorem late_orderly : ∀ before event after,
    (before, event, after) ∈ transitionsOf lateEvents → Orderly before event := by
  apply forall_transitions
  exact And.intro (orderly_arrive 0 _ (by decide)) <| And.intro (orderly_probe 0 (by decide)) <|
    And.intro (orderly_arrive 1 _ (by decide)) <| And.intro (orderly_probe 1 (by decide)) <|
    And.intro (orderly_finish 1 (timedOutAt 3) (by decide)) <|
    And.intro (orderly_arrive 2 _ (by decide)) <| And.intro (orderly_probe 2 (by decide)) <|
    orderly_finish 0 (servedAt 15) (by decide)

theorem probe_orderly : ∀ before event after,
    (before, event, after) ∈ transitionsOf probeEvents → Orderly before event := by
  apply forall_transitions
  exact And.intro (orderly_arrive 0 _ (by decide)) <| And.intro (orderly_probe 0 (by decide)) <|
    And.intro (orderly_finish 0 (timedOutAt 2) (by decide)) <|
    And.intro (orderly_arrive 1 _ (by decide)) <| And.intro (orderly_probe 1 (by decide)) <|
    orderly_finish 1 (servedAt 14) (by decide)

theorem probe_leased : ∀ before event after,
    (before, event, after) ∈ transitionsOf probeEvents → LeaseDecides quick before event := by
  apply forall_transitions
  refine And.intro trivial <| And.intro trivial <| And.intro ?_ <| And.intro trivial <|
    And.intro trivial ?_
  · rintro health ⟨⟩
  · refine fun health found recovering => ⟨fun _ counted => ?_, fun unheld => ?_⟩
    · exact absurd counted (ProviderOutcome.not_counted_of_success rfl)
    · exact absurd ⟨⟨"p", "m", 0⟩, [], rfl⟩ unheld

/-- A probe that is left alone decides the recovery of its pair. -/
theorem probe_decides :
    Runs.trace (step (some quick)) blank probeEvents = some (transitionsOf probeEvents) ∧
      ∀ before event after, (before, event, after) ∈ transitionsOf probeEvents →
        ProbeDecides quick before event after := by
  have ran : Runs.trace (step (some quick)) blank probeEvents =
      some (transitionsOf probeEvents) := rfl
  exact ⟨ran, (recovery_decided_iff quick blank_starts ran probe_orderly).mpr probe_leased⟩

/-- In an orderly run a late success without a lease closes the circuit while the
probe is in flight. -/
theorem late_success_decides :
    StartsInOrder blank ∧
    Runs.trace (step (some quick)) blank lateEvents = some (transitionsOf lateEvents) ∧
    (∀ before event after, (before, event, after) ∈ transitionsOf lateEvents →
      Orderly before event) ∧
    ¬ ∀ before event after, (before, event, after) ∈ transitionsOf lateEvents →
      ProbeDecides quick before event after := by
  refine ⟨blank_starts, rfl, late_orderly, fun probes => ?_⟩
  have last := probes _ _ _ (List.mem_of_getElem? (i := 7) rfl)
  obtain ⟨updated, stored, circuit⟩ := last.others ("p", "m") _ rfl (by decide) (by
    rintro _ _ _ _ _ ⟨⟩ _ ⟨lease, ranked, calling⟩
    cases calling)
  cases stored
  cases circuit.state

end ModelPilot.GatewayRuns
