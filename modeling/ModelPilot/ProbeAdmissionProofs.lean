import ModelPilot.CircuitBreakerProofs
import ModelPilot.ProbeAdmission

/-! What a health verdict says about the stored record, and what an admission
can do to the leases. -/
namespace ModelPilot

section Verdict
variable {healthStore : Option HealthReads} {reads : HealthReads} {now : Datetime} {key : Key}
  {health : ProviderHealth} {candidates : List Key}

/-- The state a record `advance`s to at a clock reading, when it does. A missing
record counts as `CLOSED`. -/
def effectiveState (health : Option ProviderHealth) (now : Datetime) : Option CircuitState :=
  match health with
  | none => some .closed
  | some health => (health.advance now).toOption.map (·.state)

theorem effectiveState_fresh (converted : now.inUtc = .ok at_) (fresh : health.updatedAt ≤ at_) :
    effectiveState (some health) now =
      some (if health.Expired at_ then .halfOpen else health.state) := by
  obtain ⟨current, advanced, fields⟩ := ProviderHealth.advance_fresh converted fresh
  rw [effectiveState, advanced, ← ProviderHealth.advancedFields_state, ← fields]
  rfl

/-- The reading has a datetime in UTC, which is not before `updated_at`. -/
def ProviderHealth.Reached (health : ProviderHealth) (now : Datetime) : Prop :=
  ∃ at_, now.inUtc = .ok at_ ∧ health.updatedAt ≤ at_

theorem advance_ok_iff :
    (∃ current, health.advance now = .ok current) ↔ health.Reached now := by
  constructor
  · rintro ⟨current, advanced⟩
    obtain ⟨_, timed, _⟩ := bind_ok_iff.mp advanced
    obtain ⟨at_, converted, timed⟩ := bind_ok_iff.mp timed
    refine ⟨at_, converted, not_lt.mp fun stale => ?_⟩
    rw [if_pos stale] at timed
    cases timed
  · rintro ⟨at_, converted, fresh⟩
    obtain ⟨current, advanced, _⟩ := ProviderHealth.advance_fresh converted fresh
    exact ⟨current, advanced⟩

/-- A record that does not advance has no state. -/
theorem effectiveState_unreached (unreached : ¬ health.Reached now) :
    effectiveState (some health) now = none := by
  rw [effectiveState]
  cases advanced : health.advance now with
  | error error => rfl
  | ok current => exact absurd (advance_ok_iff.mp ⟨current, advanced⟩) unreached

/-- The verdict on a record that was read: its effective state, or fail-open
when there is none. -/
theorem healthVerdict_read (aware : now.toUtc = some at_) (read : reads key = .ok stored) :
    (healthVerdict (some reads) now key).state = effectiveState stored now ∧
      ((healthVerdict (some reads) now key).eligible = true ↔
        effectiveState stored now ≠ some .opened) := by
  simp only [healthVerdict, Option.elim_some, read, bind, Except.bind, healthEligibility, aware]
  cases stored with
  | none => simp [effectiveState]
  | some health =>
    cases advanced : health.advance now with
    | error error => simp [effectiveState, advanced, failOpen, Except.toOption]
    | ok current => simp [effectiveState, advanced, Except.toOption]

/-- Of an `OPEN` record whose cooldown runs, the verdict is wrong exactly when the record
does not advance to the reading. -/
theorem healthVerdict_blocked (aware : now.toUtc = some at_)
    (read : reads key = .ok (some health)) (blocked : health.Blocked at_) :
    (healthVerdict (some reads) now key).eligible = true ↔ ¬ health.Reached now := by
  rw [(healthVerdict_read aware read).2]
  by_cases reached : health.Reached now
  · obtain ⟨reading, converted, fresh⟩ := reached
    cases aware.symm.trans (Datetime.toUtc_of_inUtc converted)
    rw [effectiveState_fresh converted fresh,
      if_neg (ProviderHealth.not_expired_of_blocked blocked), blocked.1]
    simp only [ne_eq, not_true_eq_false, false_iff, not_not]
    exact ⟨at_, converted, fresh⟩
  · rw [effectiveState_unreached reached]
    simp [reached]

private theorem foldl_verdicts (evidence : Dict Key HealthEligibility) (candidates : List Key) :
    (candidates.foldl (fun evidence key =>
      if (evidence.get? key).isSome then evidence
      else evidence.set key (healthVerdict healthStore now key)) evidence).get? key =
      if (evidence.get? key).isSome then evidence.get? key
      else if key ∈ candidates then some (healthVerdict healthStore now key) else none := by
  induction candidates generalizing evidence with
  | nil => cases found : evidence.get? key <;> simp [found]
  | cons candidate rest ih =>
    rw [List.foldl_cons, ih]
    by_cases known : (evidence.get? candidate).isSome = true
    · rw [if_pos known]
      by_cases same : key = candidate
      · subst same
        simp [known]
      · simp [same]
    · rw [if_neg known, Dict.get?_set]
      by_cases same : candidate = key
      · subst same
        simp [known]
      · simp [same, Ne.symm same]

/-- At an aware time `evaluate_health` gives each candidate its own verdict. -/
theorem evaluateHealth_aware (healthStore : Option HealthReads) (candidates : List Key)
    (aware : now.toUtc = some at_) :
    ∃ evidence, evaluateHealth healthStore candidates now = .ok evidence ∧
      ∀ key, evidence.get? key =
        if key ∈ candidates then some (healthVerdict healthStore now key) else none := by
  rw [evaluateHealth, aware]
  refine ⟨_, rfl, fun key => ?_⟩
  rw [foldl_verdicts]
  simp

theorem evaluateHealth_naive (naive : now.toUtc = none) :
    evaluateHealth healthStore candidates now =
      .error (.value "now must be timezone-aware") := by
  rw [evaluateHealth, naive]

/-- The verdict calls for a probe. -/
def HealthEligibility.NeedsProbe (evidence : HealthEligibility) : Prop :=
  evidence.eligible = true ∧ evidence.state = some .halfOpen

instance (evidence : HealthEligibility) : Decidable evidence.NeedsProbe :=
  inferInstanceAs (Decidable (_ ∧ _))

/-- At an aware time an admission is the verdict itself, unless a probe is
needed; then it is decided by the lease. -/
theorem admitProbe_aware (healthStore : Option HealthReads) (probes : HalfOpenProbeCoordinator)
    (key : Key) (aware : now.toUtc = some at_) :
    admitProbe healthStore probes now key =
      .ok (if (healthVerdict healthStore now key).NeedsProbe then
        (⟨probeEvidence (healthVerdict healthStore now key) (probes.tryAcquire key).1,
          (probes.tryAcquire key).1⟩, (probes.tryAcquire key).2)
      else (⟨healthVerdict healthStore now key, none⟩, probes)) := by
  obtain ⟨evidence, evaluated, verdicts⟩ := evaluateHealth_aware healthStore [key] aware
  have found := verdicts key
  rw [if_pos List.mem_cons_self] at found
  rw [admitProbe, evaluated]
  simp only [bind, Except.bind, found]
  by_cases needed : (healthVerdict healthStore now key).NeedsProbe
  · rw [if_pos needed, if_neg (by simpa [HealthEligibility.NeedsProbe] using needed)]
  · rw [if_neg needed, if_pos (not_and_or.mp needed)]

end Verdict

namespace HalfOpenProbeCoordinator
variable {probes : HalfOpenProbeCoordinator} {key probe : Key} {lease held : ProbeLease}

/-- A lease is refused while one is in flight; otherwise a new object is
stored. -/
theorem tryAcquire_cases (probes : HalfOpenProbeCoordinator) (key : Key) :
    ((probes.leases.get? key).isSome = true ∧ probes.tryAcquire key = (none, probes)) ∨
    (probes.leases.get? key = none ∧ ∃ lease : ProbeLease,
      lease.key = key ∧ lease.identity = probes.nextIdentity ∧
      probes.tryAcquire key =
        (some lease, ⟨probes.leases.set key lease, probes.nextIdentity + 1⟩)) := by
  unfold tryAcquire
  cases held : probes.leases.get? key with
  | some lease => exact .inl ⟨rfl, rfl⟩
  | none => exact .inr ⟨rfl, _, rfl, rfl, rfl⟩

@[simp] theorem release_nextIdentity (probes : HalfOpenProbeCoordinator) (lease : ProbeLease) :
    (probes.release lease).nextIdentity = probes.nextIdentity := by
  unfold release
  split <;> rfl

/-- Releasing the held object frees its pair and nothing else. -/
theorem release_held (held : probes.leases.get? lease.key = some lease) (probe : Key) :
    (probes.release lease).leases.get? probe =
      if lease.key = probe then none else probes.leases.get? probe := by
  rw [release, held]
  simp [Dict.get?_erase]

/-- Releasing an object that is not held changes nothing. -/
theorem release_stale
    (stale : ∀ held, probes.leases.get? lease.key = some held → held.identity ≠ lease.identity) :
    probes.release lease = probes := by
  rw [release, if_neg]
  intro same
  obtain ⟨held, found, identical⟩ := Option.any_eq_true _ _ |>.mp same
  exact stale held found (by simpa using identical)

end HalfOpenProbeCoordinator

section Admission
variable {healthStore : Option HealthReads} {probes after : HalfOpenProbeCoordinator}
  {now : Datetime} {key : Key} {admission : Admission}

/-- Everything an admission can do: refuse and leave the leases alone, admit
without a lease when no probe is needed, or admit a probe with a new lease. -/
theorem admitProbe_cases
    (admitted : admitProbe healthStore probes now key = .ok (admission, after)) :
    (admission.evidence.eligible = false ∧ admission.lease = none ∧ after = probes) ∨
    (admission.evidence = healthVerdict healthStore now key ∧
      admission.evidence.eligible = true ∧ ¬ admission.evidence.NeedsProbe ∧
      admission.lease = none ∧ after = probes) ∨
    (admission.evidence.eligible = true ∧ (healthVerdict healthStore now key).NeedsProbe ∧
      probes.leases.get? key = none ∧ ∃ lease : ProbeLease, admission.lease = some lease ∧
        lease.key = key ∧ lease.identity = probes.nextIdentity ∧
        after = ⟨probes.leases.set key lease, probes.nextIdentity + 1⟩) := by
  cases aware : now.toUtc with
  | none =>
    rw [admitProbe, evaluateHealth_naive aware] at admitted
    cases admitted
  | some at_ =>
    rw [admitProbe_aware healthStore probes key aware] at admitted
    by_cases needed : (healthVerdict healthStore now key).NeedsProbe
    · rw [if_pos needed] at admitted
      rcases probes.tryAcquire_cases key with
        ⟨_, refused⟩ | ⟨free, lease, own, fresh, acquired⟩
      · rw [refused] at admitted
        cases admitted
        exact .inl ⟨rfl, rfl, rfl⟩
      · rw [acquired] at admitted
        cases admitted
        exact .inr (.inr ⟨rfl, needed, free, lease, rfl, own, fresh, rfl⟩)
    · rw [if_neg needed] at admitted
      cases admitted
      cases eligible : (healthVerdict healthStore now key).eligible with
      | false => exact .inl ⟨rfl, rfl, rfl⟩
      | true => exact .inr (.inl ⟨rfl, rfl, needed, rfl, rfl⟩)

end Admission
end ModelPilot
