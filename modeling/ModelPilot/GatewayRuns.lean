import ModelPilot.CandidateCalls
import ModelPilot.Runs

/-! Automatic requests interleaved on one gateway with a probe coordinator. A
request ranks its candidates once and then tries them in order, one call at a
time. Between two steps of a request any steps of others may come; the code has
fewer interleavings, since it suspends only while a call is in flight. -/
namespace ModelPilot.GatewayRuns
open CandidateCalls

/-- A request between two steps: candidates left to try, or a call in flight,
with the lease it holds, and the candidates after it. -/
inductive Request where
  | ready (ranked : List Key)
  | calling (key : Key) (lease : Option ProbeLease) (ranked : List Key)
  deriving DecidableEq, Repr

/-- The shared state of the gateway, the requests in progress, and the latest
clock reading. -/
structure Machine where
  records : HealthRecords
  probes : HalfOpenProbeCoordinator := {}
  requests : Dict Nat Request := .empty
  clock : Int

/-- A store operation raises an exception, if any. -/
abbrev Fault := Option PyError

/-- The steps, each but the last at a reading of the clock; `candidates` are the
pairs of a request in the order of their scores. The last step releases some
lease once more. -/
inductive Event where
  | arrive (id : Nat) (candidates : List Key) (faults : Key → Fault) (reading : Datetime)
  | probe (id : Nat) (faults : Key → Fault) (reading : Datetime)
  | finish (id : Nat) (result : CallResult) (readFault writeFault : Fault) (reading : Datetime)
  | releaseAgain (lease : ProbeLease)

namespace Machine

/-- Health reads of the stored records, which may raise. -/
def reads (machine : Machine) (faults : Key → Fault) : HealthReads := fun key =>
  match faults key with
  | some error => .error error
  | none => .ok (machine.records.getHealth key)

def tick (machine : Machine) (reading : Datetime) : Machine :=
  { machine with clock := reading.toUtc.getD machine.clock }

/-- The request goes on with some candidates, or ends without any. -/
def resume (machine : Machine) (id : Nat) (ranked : List Key) : Machine :=
  { machine with
    requests :=
      if ranked = [] then machine.requests.erase id else machine.requests.set id (.ready ranked) }

def close (machine : Machine) (id : Nat) : Machine :=
  { machine with requests := machine.requests.erase id }

/-- The eligible pairs, in the order of their evaluation. -/
def rankedKeys (evidence : Dict Key HealthEligibility) : List Key :=
  (evidence.entries.filter (·.2.eligible)).map Prod.fst

/-- Ranking: `evaluate_health` leaves the eligible candidates. -/
def arrive (machine : Machine) (id : Nat) (candidates : List Key) (faults : Key → Fault)
    (reading : Datetime) : Machine :=
  match evaluateHealth (some (machine.reads faults)) candidates reading with
  | .error _ => machine.tick reading
  | .ok evidence => (machine.tick reading).resume id (rankedKeys evidence)

/-- Admission: the call starts, holding what `_admit_probe` returned, or the
candidate is skipped. -/
def probe (machine : Machine) (id : Nat) (key : Key) (ranked : List Key) (faults : Key → Fault)
    (reading : Datetime) : Machine :=
  match admitProbe (some (machine.reads faults)) machine.probes reading key with
  | .error _ => (machine.tick reading).close id
  | .ok (admission, probes) =>
    if admission.evidence.eligible then
      { machine.tick reading with
        probes
        requests := machine.requests.set id (.calling key admission.lease ranked) }
    else { machine.tick reading with probes }.resume id ranked

/-- The manager's store while one outcome is applied. -/
def managerStore (machine : Machine) (readFault writeFault : Fault) (key : Key) :
    HealthStoreCall where
  getHealth :=
    match readFault with
    | some error => .error error
    | none => .ok (machine.records.getHealth key)
  upsertHealth := writeFault

/-- The end of a call: health is updated, the lease is released whatever
happened, and the request goes on or ends. -/
def finish (machine : Machine) (manager : Option ProviderHealthManager) (id : Nat)
    (lease : Option ProbeLease) (ranked : List Key) (result : CallResult)
    (readFault writeFault : Fault) (reading : Datetime) : Machine :=
  let (written, ended) := afterCall manager (machine.managerStore readFault writeFault) result
  let settled :=
    { machine.tick reading with
      records := written.elim machine.records machine.records.upsertHealth
      probes := lease.elim machine.probes machine.probes.release }
  if (nextStep ended).continues then settled.resume id ranked else settled.close id

end Machine

/-- One step of the machine. -/
def step (manager : Option ProviderHealthManager) (machine : Machine) : Event → Option Machine
  | .arrive id candidates faults reading =>
    if (machine.requests.get? id).isSome then none
    else some (machine.arrive id candidates faults reading)
  | .probe id faults reading =>
    match machine.requests.get? id with
    | some (.ready (key :: ranked)) => some (machine.probe id key ranked faults reading)
    | _ => none
  | .finish id result readFault writeFault reading =>
    match machine.requests.get? id with
    | some (.calling _ lease ranked) =>
      some (machine.finish manager id lease ranked result readFault writeFault reading)
    | _ => none
  | .releaseAgain lease => some { machine with probes := machine.probes.release lease }

/-- A gateway that starts: stored records, no lease, no request. -/
def Starts (machine : Machine) : Prop :=
  machine.probes = {} ∧ machine.requests = .empty

/-- A call of the request is in flight and holds the lease, if it has one. -/
def Machine.InFlight (machine : Machine) (id : Nat) (key : Key) (lease : Option ProbeLease) :
    Prop :=
  ∃ ranked, machine.requests.get? id = some (.calling key lease ranked)

end ModelPilot.GatewayRuns
