import ModelPilot.ProviderOutcomes

/-! The circuit breaker of one `(provider, model)` pair: the validated health
record, its time- and outcome-driven transitions (`health/models.py`), and the
manager that applies completed outcomes to the stored record
(`health/manager.py`). -/
namespace ModelPilot

/-- `CLOSED`, `OPEN` and `HALF_OPEN`. -/
inductive CircuitState where
  | closed
  | opened
  | halfOpen
  deriving DecidableEq, Repr

/-- `CIRCUIT_FAILURE_TYPES`. -/
def circuitFailureTypes : List ProviderErrorType :=
  [.timeout, .connectionError, .rateLimit, .providerError, .invalidResponse, .unknownError]

def countsAsCircuitFailure (errorType : ProviderErrorType) : Bool :=
  errorType ∈ circuitFailureTypes

/-- The field values of a health record, before validation. -/
structure HealthFields where
  provider : String
  model : String
  state : CircuitState := .closed
  consecutiveFailures : Nat := 0
  openedAt : Option Int := none
  cooldownUntil : Option Int := none
  lastFailureAt : Option Int := none
  lastSuccessAt : Option Int := none
  updatedAt : Int
  deriving DecidableEq, Repr

namespace HealthFields

/-- `validate_state`, in the order of its checks. -/
def validateState (fields : HealthFields) : Except PyError Unit :=
  let hasOpenWindow := fields.openedAt.isSome && fields.cooldownUntil.isSome
  if fields.state = .closed && (fields.openedAt.isSome || fields.cooldownUntil.isSome) then
    .error (.value "closed circuits cannot have an active cooldown")
  else if fields.state ≠ .closed && !hasOpenWindow then
    .error (.value "open and half-open circuits require an active cooldown")
  else if fields.openedAt.any fun opened => fields.cooldownUntil.any (· < opened) then
    .error (.value "cooldown_until must not be earlier than opened_at")
  else if [fields.openedAt, fields.lastFailureAt, fields.lastSuccessAt].any
      fun timestamp => timestamp.any (fields.updatedAt < ·) then
    .error (.value "event timestamps must not be later than updated_at")
  else .ok ()

/-- Field constraints, then the model validator. -/
def check (fields : HealthFields) : Except PyError Unit :=
  if fields.provider = "" then .error (.value "provider")
  else if fields.model = "" then .error (.value "model")
  else fields.validateState

/-- What `check` accepts. -/
structure Valid (fields : HealthFields) : Prop where
  provider : fields.provider ≠ ""
  model : fields.model ≠ ""
  closed : fields.state = .closed → fields.openedAt = none ∧ fields.cooldownUntil = none
  window : fields.state ≠ .closed → ∃ opened until_, fields.openedAt = some opened ∧
    fields.cooldownUntil = some until_ ∧ opened ≤ until_
  openedBy : ∀ at_, fields.openedAt = some at_ → at_ ≤ fields.updatedAt
  failedBy : ∀ at_, fields.lastFailureAt = some at_ → at_ ≤ fields.updatedAt
  succeededBy : ∀ at_, fields.lastSuccessAt = some at_ → at_ ≤ fields.updatedAt

private theorem any_later_false (timestamp : Option Int) (limit : Int) :
    timestamp.any (limit < ·) = false ↔ ∀ at_, timestamp = some at_ → at_ ≤ limit := by
  cases timestamp <;> simp

theorem check_ok_iff (fields : HealthFields) : fields.check = .ok () ↔ fields.Valid := by
  by_cases provider : fields.provider = ""
  · simp only [check, if_pos provider, reduceCtorEq, false_iff]
    exact fun valid => valid.provider provider
  by_cases model : fields.model = ""
  · simp only [check, if_neg provider, if_pos model, reduceCtorEq, false_iff]
    exact fun valid => valid.model model
  rw [check, if_neg provider, if_neg model, validateState]
  have times : ([fields.openedAt, fields.lastFailureAt, fields.lastSuccessAt].any
      fun timestamp => timestamp.any (fields.updatedAt < ·)) = false ↔
      (∀ at_, fields.openedAt = some at_ → at_ ≤ fields.updatedAt) ∧
      (∀ at_, fields.lastFailureAt = some at_ → at_ ≤ fields.updatedAt) ∧
      (∀ at_, fields.lastSuccessAt = some at_ → at_ ≤ fields.updatedAt) := by
    simp only [List.any_cons, List.any_nil, Bool.or_false, Bool.or_eq_false_iff, any_later_false]
  constructor
  · intro accepted
    split at accepted
    · cases accepted
    rename_i notClosed
    split at accepted
    · cases accepted
    rename_i hasWindow
    split at accepted
    · cases accepted
    rename_i ordered
    split at accepted
    · cases accepted
    rename_i recorded
    obtain ⟨openedBy, failedBy, succeededBy⟩ := times.mp (by simpa using recorded)
    refine ⟨provider, model, fun closed => ?_, fun active => ?_, openedBy, failedBy, succeededBy⟩
    · simpa [closed] using notClosed
    · cases opened : fields.openedAt with
      | none => simp [active, opened] at hasWindow
      | some openedAt =>
        cases deadline : fields.cooldownUntil with
        | none => simp [active, opened, deadline] at hasWindow
        | some until_ => exact ⟨openedAt, until_, rfl, rfl, by simpa [opened, deadline] using ordered⟩
  · intro valid
    have recorded := times.mpr ⟨valid.openedBy, valid.failedBy, valid.succeededBy⟩
    by_cases closed : fields.state = .closed
    · obtain ⟨opened, deadline⟩ := valid.closed closed
      rw [opened] at recorded
      simp [closed, opened, deadline, recorded]
    · obtain ⟨openedAt, until_, opened, deadline, ordered⟩ := valid.window closed
      rw [opened] at recorded
      simp [closed, opened, deadline, ordered, recorded]

end HealthFields

/-- A frozen, validated health record. -/
structure ProviderHealth extends HealthFields where
  valid : toHealthFields.check = .ok ()

namespace ProviderHealth

/-- `ProviderHealth.model_validate(values)`. -/
def modelValidate (fields : HealthFields) : Except PyError ProviderHealth :=
  match valid : fields.check with
  | .ok () => .ok ⟨fields, valid⟩
  | .error error => .error error

def initial (provider model : String) (now : Datetime) : Except PyError ProviderHealth :=
  match now.toUtc with
  | none => .error (.value "updated_at")
  | some _ => do
    let updatedAt ← now.inUtc
    modelValidate { provider, model, updatedAt }

/-- `_transition_time`. -/
def transitionTime (health : ProviderHealth) (now : Datetime) : Except PyError Int := do
  let normalized ← now.inUtc
  if normalized < health.updatedAt then
    .error (.value "now must not be earlier than updated_at")
  else .ok normalized

def advance (health : ProviderHealth) (now : Datetime) : Except PyError ProviderHealth := do
  let now ← health.transitionTime now
  if health.state = .opened && health.cooldownUntil.any (· ≤ now) then
    modelValidate { health.toHealthFields with state := .halfOpen, updatedAt := now }
  else
    .ok health

def recordSuccess (health : ProviderHealth) (now : Datetime) : Except PyError ProviderHealth := do
  let at_ ← health.transitionTime now
  let current ← health.advance (.utc at_)
  if current.state = .opened then
    .error (.value "cannot record an outcome while the circuit is open")
  else
    modelValidate { current.toHealthFields with
      state := .closed
      consecutiveFailures := 0
      openedAt := none
      cooldownUntil := none
      lastSuccessAt := some at_
      updatedAt := at_ }

/-- `_validate_policy`. -/
def validatePolicy (failureThreshold : Int) (cooldown : Int) : Except PyError Unit :=
  if failureThreshold < 1 then .error (.value "failure_threshold must be at least one")
  else if cooldown < 0 then .error (.value "cooldown must not be negative")
  else .ok ()

/-- `record_failure`; `latest` is the end of the datetime range, if it has one. -/
def recordFailure (latest : Option Int) (health : ProviderHealth)
    (errorType : ProviderErrorType) (failureThreshold : Int) (cooldown : Int)
    (now : Datetime) : Except PyError ProviderHealth := do
  validatePolicy failureThreshold cooldown
  let at_ ← health.transitionTime now
  let current ← health.advance (.utc at_)
  if !countsAsCircuitFailure errorType then
    .ok current
  else if current.state = .opened then
    .error (.value "cannot record an outcome while the circuit is open")
  else
    let failures := current.consecutiveFailures + 1
    if current.state = .halfOpen || failureThreshold ≤ failures then
      let deadline ← Datetime.add latest at_ cooldown
      modelValidate { current.toHealthFields with
        state := .opened
        consecutiveFailures := failures
        openedAt := some at_
        cooldownUntil := some deadline
        lastFailureAt := some at_
        updatedAt := at_ }
    else
      modelValidate { current.toHealthFields with
        consecutiveFailures := failures
        lastFailureAt := some at_
        updatedAt := at_ }

end ProviderHealth

/-- A manager with the policy its constructor validated. -/
structure ProviderHealthManager where
  failureThreshold : Int
  cooldown : Int
  policy : ProviderHealth.validatePolicy failureThreshold cooldown = .ok ()

/-- What one `update` sees of its store: the read, and the error its write
raises, if any. -/
structure HealthStoreCall where
  getHealth : Except PyError (Option ProviderHealth)
  upsertHealth : Option PyError := none

namespace ProviderHealthManager

/-- The record an outcome turns the stored one into, before it is written. -/
def transition (latest : Option Int) (manager : ProviderHealthManager)
    (stored : Option ProviderHealth) (outcome : ProviderOutcome) :
    Except PyError ProviderHealth := do
  let now := Datetime.utc outcome.finishedAt
  let current ← match stored with
    | none => ProviderHealth.initial outcome.provider outcome.model now
    | some current => .ok current
  if outcome.success then
    current.recordSuccess now
  else
    match outcome.errorType with
    | none => .error (.value "failed outcome requires an error type")
    | some errorType =>
      current.recordFailure latest errorType manager.failureThreshold manager.cooldown now

/-- `ProviderHealthManager.update`: the record it wrote, or what it raised. -/
def update (latest : Option Int) (manager : ProviderHealthManager) (store : HealthStoreCall)
    (outcome : ProviderOutcome) : Except PyError ProviderHealth :=
  match store.getHealth with
  | .error _ => .error (.healthPersistence "health read failed")
  | .ok stored =>
    match manager.transition latest stored outcome with
    | .error error => .error error
    | .ok updated =>
      match store.upsertHealth with
      | some _ => .error (.healthPersistence "health write failed")
      | none => .ok updated

end ProviderHealthManager

/-- The pair a record is about. -/
def HealthFields.key (fields : HealthFields) : Key := (fields.provider, fields.model)

/-- The `provider_health` table: one record per pair, stored under its own
primary key. -/
structure HealthRecords where
  getHealth : Key → Option ProviderHealth
  keyed : ∀ key health, getHealth key = some health → health.key = key

namespace HealthRecords

def empty : HealthRecords := ⟨fun _ => none, by simp⟩

def upsertHealth (records : HealthRecords) (health : ProviderHealth) : HealthRecords where
  getHealth key := if key = health.key then some health else records.getHealth key
  keyed key stored found := by
    split at found
    · rename_i same
      cases found
      exact same.symm
    · exact records.keyed key stored found

@[simp] theorem getHealth_upsert_self (records : HealthRecords) (health : ProviderHealth) :
    (records.upsertHealth health).getHealth health.key = some health := by
  simp [upsertHealth]

theorem getHealth_upsert_ne (records : HealthRecords) (health : ProviderHealth)
    (other : key ≠ health.key) :
    (records.upsertHealth health).getHealth key = records.getHealth key := by
  simp [upsertHealth, other]

end HealthRecords
end ModelPilot
