import ModelPilot.CircuitBreaker

/-! Admission of a candidate by its health: the eligibility verdict
(`health/eligibility.py`, `ModelRouter.evaluate_health`) and the single-flight
recovery probes (`health/probes.py`). -/
namespace ModelPilot

/-- The `reason` of a verdict. -/
inductive EligibilityReason where
  | healthy
  | circuitOpen
  | halfOpenProbeEligible
  | halfOpenProbeAcquired
  | halfOpenProbeInFlight
  | healthUnknown
  | healthStoreUnavailable
  deriving DecidableEq, Repr

structure HealthEligibility where
  eligible : Bool
  state : Option CircuitState
  probe : Bool := false
  cooldownUntil : Option Int := none
  consecutiveFailures : Option Nat := none
  reason : EligibilityReason
  deriving DecidableEq, Repr

/-- `health_eligibility`. -/
def healthEligibility (health : Option ProviderHealth) (now : Datetime) :
    Except PyError HealthEligibility :=
  match now.toUtc with
  | none => .error (.value "now must be timezone-aware")
  | some _ =>
    match health with
    | none => .ok { eligible := true, state := some .closed, reason := .healthUnknown }
    | some health => do
      let advanced ← health.advance now
      .ok
        { eligible := advanced.state ≠ .opened
          state := some advanced.state
          cooldownUntil := health.cooldownUntil
          consecutiveFailures := some health.consecutiveFailures
          reason :=
            match advanced.state with
            | .opened => .circuitOpen
            | .halfOpen => .halfOpenProbeEligible
            | .closed => .healthy }

/-- `health_store.get_health`, which may raise. -/
abbrev HealthReads := Key → Except PyError (Option ProviderHealth)

/-- The verdict when a record cannot be read or evaluated. -/
def failOpen : HealthEligibility where
  eligible := true
  state := none
  reason := .healthStoreUnavailable

/-- One turn of the loop in `evaluate_health`; without a store there is no
record. -/
def healthVerdict (healthStore : Option HealthReads) (now : Datetime) (key : Key) :
    HealthEligibility :=
  let read := healthStore.elim (.ok none) (· key)
  match read >>= fun health => healthEligibility health now with
  | .ok evidence => evidence
  | .error _ => failOpen

/-- `evaluate_health`, of the pairs of the candidates. -/
def evaluateHealth (healthStore : Option HealthReads) (candidates : List Key) (now : Datetime) :
    Except PyError (Dict Key HealthEligibility) :=
  match now.toUtc with
  | none => .error (.value "now must be timezone-aware")
  | some _ => .ok (candidates.foldl (fun evidence key =>
      if (evidence.get? key).isSome then evidence
      else evidence.set key (healthVerdict healthStore now key)) .empty)

/-- A lease object: equal leases may be different objects. -/
structure ProbeLease where
  provider : String
  model : String
  identity : Nat
  deriving DecidableEq, Repr

def ProbeLease.key (lease : ProbeLease) : Key := (lease.provider, lease.model)

/-- The leases in flight, and the identity of the next lease object. -/
structure HalfOpenProbeCoordinator where
  leases : Dict Key ProbeLease := .empty
  nextIdentity : Nat := 0

namespace HalfOpenProbeCoordinator

def tryAcquire (probes : HalfOpenProbeCoordinator) (key : Key) :
    Option ProbeLease × HalfOpenProbeCoordinator :=
  if (probes.leases.get? key).isSome then (none, probes)
  else
    let lease : ProbeLease := ⟨key.1, key.2, probes.nextIdentity⟩
    (some lease, ⟨probes.leases.set key lease, probes.nextIdentity + 1⟩)

/-- A lease leaves the map only if it is the very object held there. -/
def release (probes : HalfOpenProbeCoordinator) (lease : ProbeLease) : HalfOpenProbeCoordinator :=
  if (probes.leases.get? lease.key).any (·.identity = lease.identity) then
    { probes with leases := probes.leases.erase lease.key }
  else probes

def isInFlight (probes : HalfOpenProbeCoordinator) (key : Key) : Bool :=
  (probes.leases.get? key).isSome

end HalfOpenProbeCoordinator

/-- What `_admit_probe` decides: the evidence and, for an admitted probe, its
lease. -/
structure Admission where
  evidence : HealthEligibility
  lease : Option ProbeLease
  deriving DecidableEq, Repr

/-- The evidence of a half-open candidate once a lease was asked for. -/
def probeEvidence (evidence : HealthEligibility) (lease : Option ProbeLease) :
    HealthEligibility where
  eligible := lease.isSome
  state := some .halfOpen
  probe := lease.isSome
  cooldownUntil := evidence.cooldownUntil
  consecutiveFailures := evidence.consecutiveFailures
  reason := if lease.isSome then .halfOpenProbeAcquired else .halfOpenProbeInFlight

/-- `_admit_probe`; `reading` is what the router's clock shows. -/
def admitProbe (healthStore : Option HealthReads) (probes : HalfOpenProbeCoordinator)
    (reading : Datetime) (key : Key) : Except PyError (Admission × HalfOpenProbeCoordinator) := do
  let evaluated ← evaluateHealth healthStore [key] reading
  match evaluated.get? key with
  | none => .error (.other "KeyError")
  | some evidence =>
    if ¬ evidence.eligible ∨ evidence.state ≠ some .halfOpen then .ok (⟨evidence, none⟩, probes)
    else
      let (lease, probes) := probes.tryAcquire key
      .ok (⟨probeEvidence evidence lease, lease⟩, probes)

end ModelPilot
