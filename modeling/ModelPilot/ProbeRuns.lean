import ModelPilot.GatewayRuns
import ModelPilot.ProbeAdmissionProofs

/-! Recovery probes over whole runs: the lease map is exactly what the calls in
flight hold, however requests interleave and however calls end. -/
namespace ModelPilot.GatewayRuns
open CandidateCalls

/-- What a step does to the records, the leases and the calls in flight. -/
inductive Effect (manager : Option ProviderHealthManager) (before : Machine) :
    Event → Machine → Prop where
  /-- A ranking, or an admission that starts no call. -/
  | quiet (probes : after.probes = before.probes) (records : after.records = before.records)
      (calls : ∀ id key lease, after.InFlight id key lease ↔ before.InFlight id key lease) :
      Effect manager before event after
  /-- An admission that starts a call. -/
  | started {id : Nat} {key : Key} {ranked : List Key} {admission : Admission}
      {faults : Key → Fault} {reading : Datetime} {after : Machine}
      (waiting : before.requests.get? id = some (.ready (key :: ranked)))
      (admitted : admitProbe (some (before.reads faults)) before.probes reading key =
        .ok (admission, after.probes))
      (eligible : admission.evidence.eligible = true) (records : after.records = before.records)
      (calls : ∀ other otherKey lease, after.InFlight other otherKey lease ↔
        (other = id ∧ otherKey = key ∧ lease = admission.lease) ∨
        (other ≠ id ∧ before.InFlight other otherKey lease)) :
      Effect manager before (.probe id faults reading) after
  /-- The end of a call. -/
  | finished {id : Nat} {key : Key} {lease : Option ProbeLease} {result : CallResult}
      {readFault writeFault : Fault} {reading : Datetime} {after : Machine}
      (calling : before.InFlight id key lease)
      (probes : after.probes = lease.elim before.probes before.probes.release)
      (records : after.records = ((afterCall manager (before.managerStore readFault writeFault)
        result).1.elim before.records before.records.upsertHealth))
      (calls : ∀ other otherKey held, after.InFlight other otherKey held ↔
        other ≠ id ∧ before.InFlight other otherKey held) :
      Effect manager before (.finish id result readFault writeFault reading) after
  /-- Another release of some lease. -/
  | releasedAgain (probes : after.probes = before.probes.release lease)
      (records : after.records = before.records)
      (calls : ∀ id key held, after.InFlight id key held ↔ before.InFlight id key held) :
      Effect manager before (.releaseAgain lease) after

variable {manager : Option ProviderHealthManager} {before after machine : Machine} {event : Event}
  {id other : Nat} {key : Key} {lease : Option ProbeLease} {ranked : List Key}

section Requests

theorem inFlight_resume :
    (machine.resume id ranked).InFlight other key lease ↔
      other ≠ id ∧ machine.InFlight other key lease := by
  unfold Machine.InFlight Machine.resume
  split
  · simp only [Dict.get?_erase]
    by_cases same : id = other
    · simp [same]
    · simp [same, Ne.symm same]
  · simp only [Dict.get?_set]
    by_cases same : id = other
    · simp [same]
    · simp [same, Ne.symm same]

theorem inFlight_close :
    (machine.close id).InFlight other key lease ↔
      other ≠ id ∧ machine.InFlight other key lease := by
  unfold Machine.InFlight Machine.close
  simp only [Dict.get?_erase]
  by_cases same : id = other
  · simp [same]
  · simp [same, Ne.symm same]

theorem inFlight_start {probes : HalfOpenProbeCoordinator} {clock : Int} :
    Machine.InFlight ⟨machine.records, probes,
        machine.requests.set id (.calling key lease ranked), clock⟩ other otherKey held ↔
      (other = id ∧ otherKey = key ∧ held = lease) ∨
        (other ≠ id ∧ machine.InFlight other otherKey held) := by
  unfold Machine.InFlight
  simp only [Dict.get?_set]
  by_cases same : id = other
  · subst same
    simp only [if_true, Option.some.injEq, Request.calling.injEq, true_and, ne_eq, not_true,
      false_and, or_false]
    constructor
    · rintro ⟨_, rfl, rfl, _⟩
      exact ⟨rfl, rfl⟩
    · rintro ⟨rfl, rfl⟩
      exact ⟨ranked, rfl, rfl, rfl⟩
  · simp [same, Ne.symm same]

/-- A request that is not calling has no call in flight. -/
theorem not_inFlight (idle : ∀ key lease ranked,
    machine.requests.get? id ≠ some (.calling key lease ranked)) :
    ¬ machine.InFlight id key lease := by
  rintro ⟨ranked, calling⟩
  exact idle key lease ranked calling

theorem inFlight_unique (first : machine.InFlight id key lease)
    (second : machine.InFlight id otherKey otherLease) : key = otherKey ∧ lease = otherLease := by
  obtain ⟨_, calling⟩ := first
  obtain ⟨_, again⟩ := second
  rw [calling] at again
  cases again
  exact ⟨rfl, rfl⟩

end Requests

private theorem calls_of_idle {machine : Machine}
    (idle : ∀ key lease ranked, before.requests.get? id ≠ some (.calling key lease ranked))
    (calls : ∀ other key lease, machine.InFlight other key lease ↔
      other ≠ id ∧ before.InFlight other key lease) (other : Nat) (key : Key)
    (lease : Option ProbeLease) :
    machine.InFlight other key lease ↔ before.InFlight other key lease := by
  rw [calls]
  constructor
  · exact fun held => held.2
  · intro calling
    refine ⟨?_, calling⟩
    rintro rfl
    exact not_inFlight idle calling

theorem step_effect (taken : step manager before event = some after) :
    Effect manager before event after := by
  cases event with
  | arrive id candidates faults reading =>
    simp only [step] at taken
    split at taken
    · cases taken
    rename_i absent
    have idle : ∀ key lease ranked, before.requests.get? id ≠ some (.calling key lease ranked) := by
      intro key lease ranked calling
      simp [calling] at absent
    cases taken
    unfold Machine.arrive
    split
    · exact .quiet rfl rfl fun _ _ _ => Iff.rfl
    · exact .quiet rfl rfl (calls_of_idle idle fun _ _ _ => inFlight_resume)
  | probe id faults reading =>
    simp only [step] at taken
    split at taken
    · rename_i key ranked waiting
      have idle : ∀ key lease ranked,
          before.requests.get? id ≠ some (.calling key lease ranked) := by
        intro key lease ranked calling
        rw [waiting] at calling
        cases calling
      cases taken
      unfold Machine.probe
      split
      · exact .quiet rfl rfl (calls_of_idle idle fun _ _ _ => inFlight_close)
      · rename_i admission probes admitted
        split
        · rename_i eligible
          exact .started waiting admitted eligible rfl fun _ _ _ => inFlight_start
        · rename_i refused
          have same : probes = before.probes := by
            rcases admitProbe_cases admitted with ⟨_, _, same⟩ | ⟨_, eligible, _⟩ | ⟨eligible, _⟩
            · exact same
            · exact absurd eligible refused
            · exact absurd eligible refused
          exact .quiet same rfl (calls_of_idle idle fun _ _ _ => inFlight_resume)
    · cases taken
  | finish id result readFault writeFault reading =>
    simp only [step] at taken
    split at taken
    · rename_i key lease ranked calling
      cases taken
      unfold Machine.finish
      split
      rename_i written ended settled
      split
      · exact .finished ⟨ranked, calling⟩ rfl (by rw [settled]; rfl) fun _ _ _ => inFlight_resume
      · exact .finished ⟨ranked, calling⟩ rfl (by rw [settled]; rfl) fun _ _ _ => inFlight_close
    · cases taken
  | releaseAgain lease =>
    cases taken
    exact .releasedAgain rfl rfl fun _ _ _ => Iff.rfl

/-- Leases and calls agree: a lease is in the map exactly while the one call
that got it is in flight. -/
structure Owned (machine : Machine) : Prop where
  held : ∀ key lease, machine.probes.leases.get? key = some lease ↔
    ∃ id, machine.InFlight id key (some lease)
  own : ∀ id key lease, machine.InFlight id key (some lease) →
    lease.key = key ∧ lease.identity < machine.probes.nextIdentity
  apart : ∀ id key lease other otherKey otherLease, machine.InFlight id key (some lease) →
    machine.InFlight other otherKey (some otherLease) →
    lease.identity = otherLease.identity → id = other

/-- A release is stale when no call in flight holds that object. -/
def Stale (machine : Machine) (lease : ProbeLease) : Prop :=
  ∀ id key held, machine.InFlight id key (some held) → held.identity ≠ lease.identity

theorem Owned.release_stale {lease : ProbeLease} (owned : Owned machine)
    (stale : Stale machine lease) : machine.probes.release lease = machine.probes := by
  apply HalfOpenProbeCoordinator.release_stale
  intro held found
  obtain ⟨id, calling⟩ := (owned.held lease.key held).mp found
  exact stale id lease.key held calling

/-- Agreement is about the leases and the calls that hold one. -/
theorem Owned.transfer (owned : Owned before) (probes : after.probes = before.probes)
    (calls : ∀ id key lease, after.InFlight id key (some lease) ↔
      before.InFlight id key (some lease)) : Owned after := by
  refine ⟨fun key lease => ?_, fun id key lease calling => ?_, ?_⟩
  · simp only [probes, calls, owned.held]
  · rw [probes]
    exact owned.own id key lease ((calls id key lease).mp calling)
  · intro id key lease other otherKey otherLease first second
    exact owned.apart id key lease other otherKey otherLease ((calls _ _ _).mp first)
      ((calls _ _ _).mp second)

theorem starts_owned (starts : Starts machine) : Owned machine := by
  obtain ⟨probes, requests⟩ := starts
  have idle : ∀ id key lease, ¬ machine.InFlight id key lease := by
    rintro id key lease ⟨ranked, calling⟩
    rw [requests] at calling
    cases calling
  refine ⟨fun key lease => ?_, fun id key lease calling => absurd calling (idle _ _ _),
    fun id key lease _ _ _ calling => absurd calling (idle _ _ _)⟩
  rw [probes]
  constructor
  · intro found
    cases found
  · rintro ⟨id, calling⟩
    exact absurd calling (idle _ _ _)

/-- A new lease joins the map together with its call. -/
private theorem owned_acquired {lease : ProbeLease} (owned : Owned before)
    (idle : ∀ key held, ¬ before.InFlight id key held)
    (free : before.probes.leases.get? key = none) (own : lease.key = key)
    (fresh : lease.identity = before.probes.nextIdentity)
    (probes : after.probes = ⟨before.probes.leases.set key lease, before.probes.nextIdentity + 1⟩)
    (calls : ∀ other otherKey held, after.InFlight other otherKey held ↔
      (other = id ∧ otherKey = key ∧ held = some lease) ∨
      (other ≠ id ∧ before.InFlight other otherKey held)) : Owned after := by
  refine ⟨fun probe held => ?_, fun other otherKey held calling => ?_, ?_⟩
  · rw [probes, Dict.get?_set]
    by_cases same : key = probe
    · subst same
      rw [if_pos rfl, Option.some.injEq]
      constructor
      · rintro rfl
        exact ⟨id, (calls _ _ _).mpr (.inl ⟨rfl, rfl, rfl⟩)⟩
      · rintro ⟨other, calling⟩
        rcases (calls _ _ _).mp calling with ⟨_, _, same⟩ | ⟨_, older⟩
        · exact (Option.some.inj same).symm
        · have known := (owned.held key held).mpr ⟨other, older⟩
          rw [free] at known
          cases known
    · rw [if_neg same, owned.held]
      constructor
      · rintro ⟨other, older⟩
        refine ⟨other, (calls _ _ _).mpr (.inr ⟨?_, older⟩)⟩
        rintro rfl
        exact idle _ _ older
      · rintro ⟨other, calling⟩
        rcases (calls _ _ _).mp calling with ⟨_, other, _⟩ | ⟨_, older⟩
        · exact absurd other.symm same
        · exact ⟨other, older⟩
  · rw [probes]
    rcases (calls _ _ _).mp calling with ⟨_, rfl, same⟩ | ⟨_, older⟩
    · rw [Option.some.inj same]
      exact ⟨own, by rw [fresh]; exact Nat.lt_succ_self _⟩
    · obtain ⟨named, issued⟩ := owned.own other otherKey held older
      exact ⟨named, Nat.lt_succ_of_lt issued⟩
  · intro one oneKey oneLease two twoKey twoLease first second same
    rcases (calls _ _ _).mp first with ⟨rfl, _, newOne⟩ | ⟨_, olderOne⟩ <;>
      rcases (calls _ _ _).mp second with ⟨rfl, _, newTwo⟩ | ⟨_, olderTwo⟩
    · rfl
    · have issued := (owned.own two twoKey twoLease olderTwo).2
      have latest : oneLease.identity = before.probes.nextIdentity := by
        rw [Option.some.inj newOne, fresh]
      omega
    · have issued := (owned.own one oneKey oneLease olderOne).2
      have latest : twoLease.identity = before.probes.nextIdentity := by
        rw [Option.some.inj newTwo, fresh]
      omega
    · exact owned.apart one oneKey oneLease two twoKey twoLease olderOne olderTwo same

/-- A lease leaves the map together with its call. -/
private theorem owned_released {lease : ProbeLease} (owned : Owned before)
    (calling : before.InFlight id key (some lease))
    (probes : after.probes = before.probes.release lease)
    (calls : ∀ other otherKey held, after.InFlight other otherKey held ↔
      other ≠ id ∧ before.InFlight other otherKey held) : Owned after := by
  obtain ⟨named, _⟩ := owned.own id key lease calling
  have inside := (owned.held key lease).mpr ⟨id, calling⟩
  have held : before.probes.leases.get? lease.key = some lease := named ▸ inside
  refine ⟨fun probe other => ?_, fun other otherKey otherLease still => ?_, ?_⟩
  · rw [probes, HalfOpenProbeCoordinator.release_held held, named]
    by_cases same : key = probe
    · subst same
      simp only [if_true, reduceCtorEq, false_iff]
      rintro ⟨another, still⟩
      obtain ⟨different, older⟩ := (calls _ _ _).mp still
      have both := (owned.held key other).mpr ⟨another, older⟩
      rw [inside, Option.some.injEq] at both
      exact different (owned.apart another key other id key lease older calling (by rw [both]))
    · rw [if_neg same, owned.held]
      constructor
      · rintro ⟨another, older⟩
        refine ⟨another, (calls _ _ _).mpr ⟨?_, older⟩⟩
        rintro rfl
        exact same (inFlight_unique calling older).1
      · rintro ⟨another, still⟩
        exact ⟨another, ((calls _ _ _).mp still).2⟩
  · rw [probes, HalfOpenProbeCoordinator.release_nextIdentity]
    exact owned.own other otherKey otherLease ((calls _ _ _).mp still).2
  · intro one oneKey oneLease two twoKey twoLease first second same
    exact owned.apart one oneKey oneLease two twoKey twoLease ((calls _ _ _).mp first).2
      ((calls _ _ _).mp second).2 same

/-- Every step keeps leases and calls in agreement, if extra releases are
stale. -/
theorem step_owned (owned : Owned before)
    (stale : ∀ lease, event = .releaseAgain lease → Stale before lease)
    (taken : step manager before event = some after) : Owned after := by
  cases step_effect taken with
  | quiet probes _ calls => exact owned.transfer probes fun id key lease => calls id key lease
  | releasedAgain probes _ calls =>
    rw [owned.release_stale (stale _ rfl)] at probes
    exact owned.transfer probes fun id key lease => calls id key lease
  | @started id key ranked admission faults reading _ waiting admitted eligible _ calls =>
    have idle : ∀ key held, ¬ before.InFlight id key held := by
      intro key held
      apply not_inFlight
      intro key lease ranked calling
      rw [waiting] at calling
      cases calling
    rcases admitProbe_cases admitted with ⟨refused, _⟩ | ⟨_, _, _, leaseless, probes⟩ |
      ⟨_, _, free, lease, got, own, fresh, probes⟩
    · rw [eligible] at refused
      cases refused
    · refine owned.transfer probes fun other otherKey held => ?_
      rw [calls, leaseless]
      constructor
      · rintro (⟨_, _, absent⟩ | ⟨_, older⟩)
        · cases absent
        · exact older
      · intro older
        refine .inr ⟨?_, older⟩
        rintro rfl
        exact idle _ _ older
    · rw [got] at calls
      exact owned_acquired owned idle free own fresh probes calls
  | @finished id key lease result readFault writeFault reading _ calling probes _ calls =>
    cases lease with
    | some lease => exact owned_released owned calling probes calls
    | none =>
      refine owned.transfer probes fun other otherKey held => ?_
      rw [calls]
      constructor
      · exact fun still => still.2
      · intro older
        refine ⟨?_, older⟩
        rintro rfl
        cases (inFlight_unique calling older).2

/-- Health reads succeed; nothing is assumed of clocks, writes or call results. -/
def ReadsSucceed : Event → Prop
  | .arrive _ _ faults _ => ∀ key, faults key = none
  | .probe _ faults _ => ∀ key, faults key = none
  | _ => True

/-- Reads succeed, and only old leases are released again. -/
def ProbeGuard (machine : Machine) (event : Event) : Prop :=
  ReadsSucceed event ∧ ∀ lease, event = .releaseAgain lease → Stale machine lease

theorem reachable_owned
    (reached : Runs.Reachable (step manager) ProbeGuard Starts machine) : Owned machine :=
  reached.invariant (fun _ => starts_owned)
    fun _ _ _ owned allowed taken => step_owned owned allowed.2 taken

theorem reads_stored (machine : Machine) {faults : Key → Fault} (succeed : faults key = none) :
    machine.reads faults key = .ok (machine.records.getHealth key) := by
  simp [Machine.reads, succeed]

/-- A call that starts without a lease starts in an effective state other than
`HALF_OPEN`. -/
theorem started_holds {admission : Admission} {probes : HalfOpenProbeCoordinator}
    {faults : Key → Fault} {reading : Datetime} (succeed : faults key = none)
    (admitted : admitProbe (some (machine.reads faults)) machine.probes reading key =
      .ok (admission, probes)) (eligible : admission.evidence.eligible = true)
    (halfOpen : effectiveState (machine.records.getHealth key) reading = some .halfOpen) :
    ∃ lease : ProbeLease, admission.lease = some lease ∧ lease.key = key ∧
      probes.leases.get? key = some lease := by
  rcases admitProbe_cases admitted with ⟨refused, _⟩ | ⟨verdict, _, unneeded, _⟩ |
    ⟨_, _, _, lease, got, own, _, rfl⟩
  · rw [eligible] at refused
    cases refused
  · cases aware : reading.toUtc with
    | none =>
      rw [admitProbe, evaluateHealth_naive aware] at admitted
      cases admitted
    | some at_ =>
      have evaluated := (healthVerdict_read aware (reads_stored machine succeed)).1
      rw [halfOpen, ← verdict] at evaluated
      exact absurd ⟨eligible, evaluated⟩ unneeded
  · exact ⟨lease, got, own, Dict.get?_set_self _ _ _⟩

/-- Probes are single-flight and no lease leaks. In every state reached by
requests interleaved in any way, with calls ending in any way and old leases
released again at any time: a pair has at most one call in flight that holds its
lease; the lease map is exactly the leases of the calls in flight; a call that
starts for a pair whose effective state at its admission is `HALF_OPEN` holds
the lease of the pair; and releasing a lease that no call in flight holds changes
nothing. -/
theorem probes_single_flight (manager : Option ProviderHealthManager)
    (reached : Runs.Reachable (step manager) ProbeGuard Starts machine) :
    (∀ id other key first second, machine.InFlight id key (some first) →
      machine.InFlight other key (some second) → id = other ∧ first = second) ∧
    (∀ key lease, machine.probes.leases.get? key = some lease ↔
      lease.key = key ∧ ∃ id, machine.InFlight id key (some lease)) ∧
    ((∀ id key lease, ¬ machine.InFlight id key lease) → machine.probes.leases.entries = []) ∧
    (∀ event after, ProbeGuard machine event → step manager machine event = some after →
      ∀ id key lease, after.InFlight id key lease → ¬ machine.InFlight id key lease →
      ∃ faults reading, event = .probe id faults reading ∧
        (effectiveState (machine.records.getHealth key) reading = some .halfOpen →
          ∃ held : ProbeLease, lease = some held ∧ held.key = key ∧
            after.probes.leases.get? key = some held)) ∧
    (∀ lease, Stale machine lease → machine.probes.release lease = machine.probes) := by
  have owned := reachable_owned reached
  refine ⟨fun id other key first second one two => ?_, fun key lease => ?_, fun idle => ?_,
    fun event after allowed taken id key lease calling fresh => ?_,
    fun lease => owned.release_stale⟩
  · have held := (owned.held key first).mpr ⟨id, one⟩
    rw [(owned.held key second).mpr ⟨other, two⟩, Option.some.injEq] at held
    subst held
    exact ⟨owned.apart id key second other key second one two rfl, rfl⟩
  · rw [owned.held]
    constructor
    · rintro ⟨id, calling⟩
      exact ⟨(owned.own id key lease calling).1, id, calling⟩
    · exact fun held => held.2
  · rw [List.eq_nil_iff_forall_not_mem]
    rintro ⟨key, lease⟩ member
    obtain ⟨id, calling⟩ := (owned.held key lease).mp (Dict.get?_eq_some_iff.mpr member)
    exact idle id key _ calling
  · cases step_effect taken with
    | quiet _ _ calls => exact absurd ((calls id key lease).mp calling) fresh
    | releasedAgain _ _ calls => exact absurd ((calls id key lease).mp calling) fresh
    | finished _ _ _ calls => exact absurd ((calls id key lease).mp calling).2 fresh
    | @started other _ _ admission faults reading _ _ admitted eligible _ calls =>
      rcases (calls id key lease).mp calling with ⟨rfl, rfl, rfl⟩ | ⟨_, older⟩
      · exact ⟨faults, reading, rfl, started_holds (allowed.1 key) admitted eligible⟩
      · exact absurd older fresh

/-- A stored record whose probe is due, and a run that starts the probe. -/
def halfOpenRecord : ProviderHealth where
  provider := "p"
  model := "m"
  state := .halfOpen
  consecutiveFailures := 3
  openedAt := some 0
  cooldownUntil := some 10
  updatedAt := 10
  valid := by decide

def recovering : Machine where
  records := HealthRecords.empty.upsertHealth halfOpenRecord
  clock := 10

def probing : Machine :=
  (recovering.arrive 0 [("p", "m")] (fun _ => none) (.utc 10)).probe 0 ("p", "m") []
    (fun _ => none) (.utc 11)

theorem probing_reached : Runs.Reachable (step none) ProbeGuard Starts probing := by
  have arrived : step none recovering (.arrive 0 [("p", "m")] (fun _ => none) (.utc 10)) =
      some (recovering.arrive 0 [("p", "m")] (fun _ => none) (.utc 10)) := rfl
  have admitted : step none (recovering.arrive 0 [("p", "m")] (fun _ => none) (.utc 10))
      (.probe 0 (fun _ => none) (.utc 11)) = some probing := rfl
  refine .step (.step (.start ⟨rfl, rfl⟩) ?_ arrived) ?_ admitted
  · exact ⟨fun _ => rfl, by simp⟩
  · exact ⟨fun _ => rfl, by simp⟩

theorem probing_lease_held : probing.probes.leases.get? ("p", "m") = some ⟨"p", "m", 0⟩ :=
  ((probes_single_flight none probing_reached).2.1 _ _).mpr ⟨rfl, 0, [], by rfl⟩

end ModelPilot.GatewayRuns
