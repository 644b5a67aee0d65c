import Mathlib.Data.List.Dedup
import ModelPilot.LatestWins
import ModelPilot.ModelRouter
import ModelPilot.ProbeAdmissionProofs

/-! The health view (`health/api.py`): a row for each configured pair, from the
records and the leases that admission decides on. A row says what an admission at
that moment would. -/
namespace ModelPilot

structure HTTPException where
  statusCode : Nat
  detail : String
  deriving DecidableEq, Repr

/-- A row of the view: the verdict, with the fields of the record. -/
structure ProviderHealthResponse where
  eligible : Bool
  state : CircuitState
  probe : Bool
  cooldownUntil : Option Int
  consecutiveFailures : Nat
  reason : EligibilityReason
  provider : String
  model : String
  probeInFlight : Bool
  openedAt : Option Int
  lastFailureAt : Option Int
  lastSuccessAt : Option Int
  updatedAt : Option Int
  deriving DecidableEq

def ProviderHealthResponse.key (row : ProviderHealthResponse) : Key := (row.provider, row.model)

/-- What the view reads: the records and the leases. -/
structure HealthState where
  healthStore : Option HealthReads := none
  probes : Option HalfOpenProbeCoordinator := none

namespace HealthState

def getHealth (state : HealthState) (key : Key) :
    Except PyError (Option ProviderHealth) × HealthState :=
  (state.healthStore.elim (.ok none) (· key), state)

/-- `service.probes.is_in_flight(...) if service.probes else False`. -/
def isInFlight (state : HealthState) (key : Key) : Bool × HealthState :=
  (state.probes.any (·.isInFlight key), state)

end HealthState

namespace HealthView

/-- The pairs of the candidates whose provider is configured, in key order. -/
def configuredKeys (router : ModelRouter) : List Key :=
  sortedBy (fun key => toLex key) ((router.candidates.filter fun candidate =>
    router.providers.get? candidate.provider = some true).map (·.key)).dedup

/-- `ProviderHealthResponse(**values, ...)`, which has no state or count that is
`None`. -/
def response (values : HealthEligibility) (key : Key) (busy : Bool)
    (health : Option ProviderHealth) : Except PyError ProviderHealthResponse :=
  match values.state, values.consecutiveFailures with
  | some state, some consecutiveFailures =>
    .ok
      { eligible := values.eligible
        state
        probe := values.probe
        cooldownUntil := values.cooldownUntil
        consecutiveFailures
        reason := values.reason
        provider := key.1
        model := key.2
        probeInFlight := busy
        openedAt := health.bind (·.openedAt)
        lastFailureAt := health.bind (·.lastFailureAt)
        lastSuccessAt := health.bind (·.lastSuccessAt)
        updatedAt := health.map (·.updatedAt) }
  | none, _ => .error (.value "state")
  | _, none => .error (.value "consecutive_failures")

/-- The `values` of a row: its verdict, which a probe in flight overrides. -/
def rowValues (health : Option ProviderHealth) (busy : Bool) (evidence : HealthEligibility) :
    HealthEligibility :=
  let values :=
    if health.isNone then { evidence with consecutiveFailures := some 0 } else evidence
  if busy ∧ evidence.state = some .halfOpen then
    { values with eligible := false, reason := .halfOpenProbeInFlight }
  else values

def rowOf (health : Option ProviderHealth) (busy : Bool) (now : Datetime) (key : Key) :
    Except PyError ProviderHealthResponse := do
  let evidence ← healthEligibility health now
  response (rowValues health busy evidence) key busy health

/-- The loop over the pairs. -/
def rowsOf (now : Datetime) :
    List Key → HealthState → Except PyError (List ProviderHealthResponse) × HealthState
  | [], state => (.ok [], state)
  | key :: rest, state =>
    let (health, state) := state.getHealth key
    let (busy, state) := state.isInFlight key
    match health >>= fun health => rowOf health busy now key with
    | .error error => (.error error, state)
    | .ok row =>
      let (rows, state) := rowsOf now rest state
      (rows.map (row :: ·), state)

def unavailable : HTTPException := ⟨503, "provider health unavailable"⟩

/-- `GET /v1/health/providers`. -/
def providerHealth (router : ModelRouter) (clock : Except PyError Datetime) (state : HealthState) :
    Except HTTPException (List ProviderHealthResponse) × HealthState :=
  let keys := configuredKeys router
  if keys = [] then (.ok [], state)
  else if state.healthStore.isNone then (.error unavailable, state)
  else
    match clock with
    | .error _ => (.error unavailable, state)
    | .ok now =>
      match rowsOf now keys state with
      | (.ok rows, state) => (.ok rows, state)
      | (.error _, state) => (.error unavailable, state)

variable {router : ModelRouter} {state : HealthState} {reads : HealthReads}
  {probes : HalfOpenProbeCoordinator} {now : Datetime} {key : Key} {keys : List Key}
  {health : Option ProviderHealth} {busy : Bool} {row : ProviderHealthResponse}
  {rows : List ProviderHealthResponse}

section Rows

/-- The record of a pair can be read, and the clock has reached it. -/
def Current (reads : HealthReads) (now : Datetime) (key : Key) : Prop :=
  ∃ stored, reads key = .ok stored ∧ ∀ health ∈ stored, health.Reached now

/-- The verdict on a current record. -/
theorem healthEligibility_ok_iff (aware : now.toUtc = some at_) :
    (∃ evidence, healthEligibility health now = .ok evidence) ↔
      ∀ record ∈ health, record.Reached now := by
  unfold healthEligibility
  rw [aware]
  cases health with
  | none => simp
  | some record =>
    simp only [Option.mem_def, Option.some.injEq, forall_eq', ← advance_ok_iff]
    cases record.advance now <;> simp [bind, Except.bind]

/-- What a verdict has: a state that is closed without a record, a count with one. -/
theorem healthEligibility_fields {evidence : HealthEligibility}
    (given : healthEligibility health now = .ok evidence) :
    ∃ state, evidence.state = some state ∧ (evidence.eligible = true ↔ state ≠ .opened) ∧
      (health = none ∧ state = .closed ∨
        ∃ record, health = some record ∧
          evidence.consecutiveFailures = some record.consecutiveFailures) := by
  unfold healthEligibility at given
  split at given
  · cases given
  cases health with
  | none =>
    cases given
    exact ⟨.closed, rfl, by simp, .inl ⟨rfl, rfl⟩⟩
  | some record =>
    obtain ⟨advanced, _, made⟩ := bind_ok_iff.mp given
    cases made
    exact ⟨advanced.state, rfl, by simp, .inr ⟨record, rfl, rfl⟩⟩

theorem rowValues_spec {evidence : HealthEligibility} (busy : Bool)
    (given : healthEligibility health now = .ok evidence) :
    (rowValues health busy evidence).state = evidence.state ∧
      (rowValues health busy evidence).eligible =
        (evidence.eligible && !(busy && evidence.state == some .halfOpen)) ∧
      ∃ count, (rowValues health busy evidence).consecutiveFailures = some count := by
  obtain ⟨circuit, shown, _, counts⟩ := healthEligibility_fields given
  unfold rowValues
  rcases counts with ⟨rfl, _⟩ | ⟨record, rfl, count⟩ <;>
    by_cases override : busy = true ∧ evidence.state = some .halfOpen
  · simp [override]
  · rw [if_neg override]
    cases busy <;> simp_all
  · simp [override, count]
  · rw [if_neg override]
    cases busy <;> simp_all

/-- A row in terms of the verdict it is made from. -/
theorem rowOf_spec {evidence : HealthEligibility} (key : Key) (busy : Bool)
    (given : healthEligibility health now = .ok evidence) :
    ∃ row, rowOf health busy now key = .ok row ∧ row.key = key ∧ some row.state = evidence.state ∧
      row.eligible = (evidence.eligible && !(busy && evidence.state == some .halfOpen)) := by
  obtain ⟨circuit, shown, _⟩ := healthEligibility_fields given
  obtain ⟨state, eligible, count, counted⟩ := rowValues_spec busy given
  unfold rowOf
  rw [given]
  dsimp only [bind, Except.bind, response]
  rw [shown] at state eligible ⊢
  rw [state, counted]
  exact ⟨_, rfl, rfl, rfl, eligible⟩

/-- A pair has a row exactly when its record is current. -/
theorem row_iff_current (key : Key) (busy : Bool) (aware : now.toUtc = some at_) :
    (∃ row, (reads key >>= fun health => rowOf health busy now key) = .ok row) ↔
      Current reads now key := by
  simp only [bind_ok_iff]
  constructor
  · rintro ⟨row, health, read, made⟩
    obtain ⟨evidence, given, _⟩ := bind_ok_iff.mp made
    exact ⟨health, read, (healthEligibility_ok_iff aware).mp ⟨evidence, given⟩⟩
  · rintro ⟨health, read, fresh⟩
    obtain ⟨evidence, given⟩ := (healthEligibility_ok_iff aware).mpr fresh
    obtain ⟨row, made, _⟩ := rowOf_spec key busy given
    exact ⟨row, health, read, made⟩

/-- The row of a pair that `_admit_probe` decides in the same state. -/
def Predicts (reads : HealthReads) (probes : HalfOpenProbeCoordinator) (now : Datetime)
    (row : ProviderHealthResponse) : Prop :=
  ∃ admission after, admitProbe (some reads) probes now row.key = .ok (admission, after) ∧
    admission.evidence.eligible = row.eligible ∧ admission.evidence.state = some row.state

/-- The row agrees with the admission: where a probe is needed both ask whether a lease
is held, and elsewhere both give the verdict. -/
theorem rowOf_predicts (probes : HalfOpenProbeCoordinator) (aware : now.toUtc = some at_)
    (read : reads key = .ok health)
    (made : rowOf health (probes.isInFlight key) now key = .ok row) :
    row.key = key ∧ Predicts reads probes now row := by
  obtain ⟨evidence, given, _⟩ := bind_ok_iff.mp made
  obtain ⟨_, same, own, state, eligible⟩ := rowOf_spec key (probes.isInFlight key) given
  cases made.symm.trans same
  have verdict : healthVerdict (some reads) now key = evidence := by
    unfold healthVerdict
    rw [Option.elim_some, read]
    dsimp only [bind, Except.bind]
    rw [given]
  have admitted := admitProbe_aware (some reads) probes key aware
  rw [verdict] at admitted
  refine ⟨own, ?_⟩
  unfold Predicts
  rw [own, admitted, state, eligible]
  by_cases needed : evidence.NeedsProbe
  · rw [if_pos needed]
    refine ⟨_, _, rfl, ?_, ?_⟩
    · rcases probes.tryAcquire_cases key with ⟨held, refused⟩ | ⟨free, lease, _, _, acquired⟩
      · rw [refused]
        simp [probeEvidence, HalfOpenProbeCoordinator.isInFlight, held, needed.2]
      · rw [acquired]
        simp [probeEvidence, HalfOpenProbeCoordinator.isInFlight, free, needed.1]
    · exact needed.2.symm
  · rw [if_neg needed]
    refine ⟨_, _, rfl, ?_, rfl⟩
    cases allowed : evidence.eligible with
    | false => rfl
    | true =>
      have other : evidence.state ≠ some .halfOpen := fun same => needed ⟨allowed, same⟩
      simp [other]

end Rows

section View

/-- The loop only reads. -/
theorem rowsOf_eq (now : Datetime) (keys : List Key) (state : HealthState) :
    rowsOf now keys state =
      (keys.mapM fun key => (state.getHealth key).1 >>= fun health =>
        rowOf health (state.isInFlight key).1 now key, state) := by
  induction keys with
  | nil => rfl
  | cons key rest ih =>
    unfold rowsOf
    dsimp only [HealthState.getHealth, HealthState.isInFlight] at ih ⊢
    rw [ih, List.mapM_cons]
    cases (state.healthStore.elim (.ok none) (· key)) >>= fun health =>
        rowOf health (state.probes.any (·.isInFlight key)) now key with
    | error error => rfl
    | ok row =>
      have consed (later : Except PyError (List ProviderHealthResponse)) :
          later.map (row :: ·) = later >>= fun rows => pure (row :: rows) := by
        cases later <;> rfl
      exact Prod.ext (consed _) rfl

theorem providerHealth_state (router : ModelRouter) (clock : Except PyError Datetime)
    (state : HealthState) : (providerHealth router clock state).2 = state := by
  dsimp only [providerHealth]
  by_cases empty : configuredKeys router = []
  · rw [if_pos empty]
  rw [if_neg empty]
  by_cases absent : state.healthStore.isNone = true
  · rw [if_pos absent]
  rw [if_neg absent]
  cases clock with
  | error error => rfl
  | ok now =>
    dsimp only
    rw [rowsOf_eq]
    split <;> simp_all

theorem providerHealth_ok_iff :
    (providerHealth router (.ok now) ⟨some reads, some probes⟩).1 = .ok rows ↔
      ((configuredKeys router).mapM fun key => reads key >>= fun health =>
        rowOf health (probes.isInFlight key) now key) = .ok rows := by
  dsimp only [providerHealth]
  by_cases empty : configuredKeys router = []
  · rw [if_pos empty, empty, List.mapM_nil]
    simp [pure, Except.pure]
  · rw [if_neg empty, if_neg (by simp), rowsOf_eq]
    dsimp only [HealthState.getHealth, HealthState.isInFlight, Option.elim_some, Option.any_some]
    split <;> simp_all

theorem mem_configuredKeys : key ∈ configuredKeys router ↔
    ∃ candidate ∈ router.candidates, router.providers.get? candidate.provider = some true ∧
      candidate.key = key := by
  simp [configuredKeys, mem_sortedBy, and_assoc]

theorem configuredKeys_sorted (router : ModelRouter) :
    (configuredKeys router).Pairwise fun first second => toLex first < toLex second := by
  apply sortedBy_strict
  refine List.Nodup.map_on (fun _ _ _ _ same => toLex_inj.mp same) (List.nodup_dedup _)

/-- At an aware time the view returns rows exactly when the record of each configured
pair can be read and, if there is one, the clock has a datetime in UTC that is not before
it. The rows are those of the configured pairs, once each and in key order; each says what
an admission of its pair would in the same state; and the view leaves the records and the
leases as they are. -/
theorem view_predicts_admission (router : ModelRouter) (reads : HealthReads)
    (probes : HalfOpenProbeCoordinator) (aware : now.toUtc = some at_) :
    ((∃ rows, (providerHealth router (.ok now) ⟨some reads, some probes⟩).1 = .ok rows) ↔
      ∀ candidate ∈ router.candidates, router.providers.get? candidate.provider = some true →
        Current reads now candidate.key) ∧
    (∀ rows, (providerHealth router (.ok now) ⟨some reads, some probes⟩).1 = .ok rows →
      (rows.map (·.key)).Pairwise (fun first second => toLex first < toLex second) ∧
      (∀ key, key ∈ rows.map (·.key) ↔
        ∃ candidate ∈ router.candidates, router.providers.get? candidate.provider = some true ∧
          candidate.key = key) ∧
      ∀ row ∈ rows, Predicts reads probes now row) ∧
    (providerHealth router (.ok now) ⟨some reads, some probes⟩).2 = ⟨some reads, some probes⟩ := by
  refine ⟨?_, ?_, providerHealth_state _ _ _⟩
  · simp only [providerHealth_ok_iff, mapM_ok_iff, exists_and_left, exists_eq, and_true,
      row_iff_current _ _ aware, mem_configuredKeys]
    constructor
    · intro current candidate member configured
      exact current _ ⟨candidate, member, configured, rfl⟩
    · rintro current key ⟨candidate, member, configured, rfl⟩
      exact current candidate member configured
  · intro rows shown
    rw [providerHealth_ok_iff] at shown
    have predicted : ∀ key row, (reads key >>= fun health =>
        rowOf health (probes.isInFlight key) now key) = .ok row →
        row.key = key ∧ Predicts reads probes now row := by
      intro key row made
      obtain ⟨health, read, made⟩ := bind_ok_iff.mp made
      exact rowOf_predicts probes aware read made
    have keys : rows.map (·.key) = configuredKeys router := by
      rw [map_of_mapM (fun key row made => (predicted key row made).1) shown]
      exact List.map_id _
    refine ⟨keys ▸ configuredKeys_sorted router, fun key => ?_, fun row member => ?_⟩
    · rw [keys, mem_configuredKeys]
    · obtain ⟨key, _, made⟩ := mem_of_mapM shown member
      exact (predicted key row made).2

private theorem recoveringRecord_valid : HealthFields.check
    { provider := "openai", model := "gpt", state := .opened, consecutiveFailures := 3
      openedAt := some 0, cooldownUntil := some 60, lastFailureAt := some 0, updatedAt := 0 } =
    .ok () := by
  decide +kernel

/-- An open circuit whose cooldown ends at 60. -/
def recoveringRecord : ProviderHealth where
  provider := "openai"
  model := "gpt"
  state := .opened
  consecutiveFailures := 3
  openedAt := some 0
  cooldownUntil := some 60
  lastFailureAt := some 0
  updatedAt := 0
  valid := recoveringRecord_valid

private theorem half_inUnit : Rounding.InUnit (1 / 2) := by constructor <;> norm_num

def recoveringRouter : ModelRouter where
  providers := .ofList [("openai", true)]
  candidates := [⟨"openai", "gpt", 1 / 2, 1 / 2, 1 / 2, 1 / 2,
    half_inUnit, half_inUnit, half_inUnit, half_inUnit⟩]

/-- Its probe is taken. -/
def probing : HalfOpenProbeCoordinator :=
  (HalfOpenProbeCoordinator.tryAcquire {} ("openai", "gpt")).2

example :
    (providerHealth recoveringRouter (.ok (.utc 60))
      ⟨some fun _ => .ok (some recoveringRecord), some probing⟩).1.toOption.map
      (·.map fun row => (row.eligible, row.state, row.reason)) =
    some [(false, .halfOpen, .halfOpenProbeInFlight)] := by decide +kernel

/-- Half an hour before the last datetime, an hour behind UTC. -/
def lastReading : Datetime := .aware 253402299000000000 (-3600000000)

/-- The record can be read and is long past, and the view is unavailable: the reading has no
datetime in UTC. -/
theorem last_reading_unavailable :
    (∃ at_, lastReading.toUtc = some at_ ∧ recoveringRecord.updatedAt ≤ at_) ∧
      (providerHealth recoveringRouter (.ok lastReading)
        ⟨some fun _ => .ok (some recoveringRecord), some probing⟩).1 = .error unavailable := by
  refine ⟨⟨_, rfl, by decide⟩, ?_⟩
  decide +kernel

theorem probing_pair_view : ∃ rows,
    (providerHealth recoveringRouter (.ok (.utc 60))
      ⟨some fun _ => .ok (some recoveringRecord), some probing⟩).1 = .ok rows ∧
    ("openai", "gpt") ∈ rows.map (·.key) ∧
    ∀ row ∈ rows, Predicts (fun _ => .ok (some recoveringRecord)) probing (.utc 60) row := by
  have aware := Datetime.toUtc_utc 60
  obtain ⟨returns, given, _⟩ := view_predicts_admission recoveringRouter
    (fun _ => .ok (some recoveringRecord)) probing aware
  have reached : recoveringRecord.Reached (.utc 60) :=
    ⟨60, Datetime.inUtc_utc 60, by decide +kernel⟩
  obtain ⟨rows, shown⟩ := returns.mpr fun _ _ _ => ⟨some recoveringRecord, rfl, by simpa⟩
  obtain ⟨_, keys, predicted⟩ := given rows shown
  refine ⟨rows, shown, (keys _).mpr ⟨_, List.mem_singleton_self _, ?_, rfl⟩, predicted⟩
  decide +kernel

end View

end HealthView
end ModelPilot
