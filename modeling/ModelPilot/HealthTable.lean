import ModelPilot.CircuitBreakerProofs
import ModelPilot.KeyedTables
import ModelPilot.MetricsWindow

/-! The `provider_health` table (`metrics/sqlite_store.py`): one row per pair, its times
stored as text, its counts as 64-bit integers, re-validated when read. -/
namespace ModelPilot.HealthTable
open BenchmarkStore (Binds LeadsWithNul member sqlLength sqlLength_pos_iff statement)
open MetricsStore (natural readInstant serialize)

def stateText : CircuitState → String
  | .closed => "CLOSED"
  | .opened => "OPEN"
  | .halfOpen => "HALF_OPEN"

def circuitStates : List CircuitState := [.closed, .opened, .halfOpen]

/-- A row of `provider_health`. -/
structure HealthRow where
  provider : String
  model : String
  state : String
  consecutiveFailures : Int
  openedAt : Option String
  cooldownUntil : Option String
  lastFailureAt : Option String
  lastSuccessAt : Option String
  updatedAt : String
  deriving DecidableEq

/-- The table, by its primary key. -/
abbrev HealthRows := Dict Key HealthRow

/-! ### Writing -/

/-- The values `upsert_health` binds. -/
def encodeHealth (health : ProviderHealth) : Except PyError HealthRow := do
  let openedAt ← health.openedAt.mapM serialize
  let cooldownUntil ← health.cooldownUntil.mapM serialize
  let lastFailureAt ← health.lastFailureAt.mapM serialize
  let lastSuccessAt ← health.lastSuccessAt.mapM serialize
  let updatedAt ← serialize health.updatedAt
  .ok
    { provider := health.provider
      model := health.model
      state := stateText health.state
      consecutiveFailures := health.consecutiveFailures
      openedAt
      cooldownUntil
      lastFailureAt
      lastSuccessAt
      updatedAt }

/-- The CHECK constraints of `provider_health`. -/
def HealthRow.Checks (row : HealthRow) : Prop :=
  0 < sqlLength row.provider ∧ 0 < sqlLength row.model ∧
    row.state ∈ circuitStates.map stateText ∧ 0 ≤ row.consecutiveFailures

instance decidableChecks (row : HealthRow) : Decidable row.Checks :=
  inferInstanceAs (Decidable (_ ∧ _))

/-- `INSERT INTO provider_health … ON CONFLICT(provider, model) DO UPDATE`. -/
def insertHealth (row : HealthRow) (rows : HealthRows) : Except PyError HealthRows :=
  if ¬ Binds row.consecutiveFailures then .error .overflow
  else if ¬ row.Checks then .error (.other "sqlite3.IntegrityError")
  else .ok (rows.set (row.provider, row.model) row)

/-- The statements of `upsert_health`: connect, upsert, commit. -/
def healthTransaction (fault : Nat → Option PyError) (health : ProviderHealth)
    (rows : HealthRows) : Except PyError HealthRows := do
  statement fault 0
  let row ← encodeHealth health
  statement fault 1
  let upserted ← insertHealth row rows
  statement fault 2
  .ok upserted

/-- `upsert_health`: what it raises, if anything, and the table afterwards. -/
def upsertHealth (fault : Nat → Option PyError) (health : ProviderHealth) (rows : HealthRows) :
    Option PyError × HealthRows :=
  match healthTransaction fault health rows with
  | .ok after => (none, after)
  | .error error => (some error, rows)

/-! ### Reading -/

/-- `ProviderHealth.model_validate(dict(row))`. -/
def restoreHealth (row : HealthRow) : Except PyError ProviderHealth := do
  let state ← member circuitStates stateText row.state
  let consecutiveFailures ← natural row.consecutiveFailures
  let openedAt ← row.openedAt.mapM readInstant
  let cooldownUntil ← row.cooldownUntil.mapM readInstant
  let lastFailureAt ← row.lastFailureAt.mapM readInstant
  let lastSuccessAt ← row.lastSuccessAt.mapM readInstant
  let updatedAt ← readInstant row.updatedAt
  ProviderHealth.modelValidate
    { provider := row.provider
      model := row.model
      state
      consecutiveFailures
      openedAt
      cooldownUntil
      lastFailureAt
      lastSuccessAt
      updatedAt }

/-- `_health_from_row`. -/
def healthFromRow (row : HealthRow) : Except PyError ProviderHealth :=
  match restoreHealth row with
  | .error _ => .error (.other "ProviderHealthStoreDataError")
  | result => result

/-- `get_health`. -/
def getHealth (rows : HealthRows) (key : Key) : Except PyError (Option ProviderHealth) :=
  KeyedTables.get healthFromRow rows key

/-- `list_health`, `ORDER BY provider, model`. -/
def listHealth (rows : HealthRows) : Except PyError (List ProviderHealth) :=
  KeyedTables.list healthFromRow toLex rows

section Rows
variable {health : ProviderHealth} {row : HealthRow}

/-- The row of a record. -/
def healthRow (health : ProviderHealth) : HealthRow where
  provider := health.provider
  model := health.model
  state := stateText health.state
  consecutiveFailures := health.consecutiveFailures
  openedAt := health.openedAt.map Timestamps.isoformat
  cooldownUntil := health.cooldownUntil.map Timestamps.isoformat
  lastFailureAt := health.lastFailureAt.map Timestamps.isoformat
  lastSuccessAt := health.lastSuccessAt.map Timestamps.isoformat
  updatedAt := Timestamps.isoformat health.updatedAt

/-- A column whose time, if any, is within the datetime range. -/
def Inside (column : Option Int) : Prop := ∀ at_ ∈ column, Datetime.InRange at_

/-- A record that a row can hold. -/
structure Storable (health : ProviderHealth) : Prop where
  provider : ¬ LeadsWithNul health.provider
  model : ¬ LeadsWithNul health.model
  opened : Inside health.openedAt
  cooldown : Inside health.cooldownUntil
  failed : Inside health.lastFailureAt
  succeeded : Inside health.lastSuccessAt
  updated : Datetime.InRange health.updatedAt
  counted : Binds health.consecutiveFailures

theorem mapM_serialize_ok_iff {column : Option Int} {text : Option String} :
    column.mapM serialize = .ok text ↔
      Inside column ∧ text = column.map Timestamps.isoformat := by
  cases column with
  | none => simp [Inside, pure, Except.pure, eq_comm]
  | some at_ =>
    rw [Option.mapM_some]
    change (serialize at_).map some = .ok text ↔ _
    rw [map_ok_iff]
    constructor
    · rintro ⟨written, serialized, rfl⟩
      obtain ⟨inside, rfl⟩ := MetricsStore.serialize_ok_iff.mp serialized
      exact ⟨by rintro _ ⟨⟩; exact inside, rfl⟩
    · rintro ⟨inside, rfl⟩
      exact ⟨_, MetricsStore.serialize_ok_iff.mpr ⟨inside at_ rfl, rfl⟩, rfl⟩

theorem mapM_readInstant {column : Option Int} (inside : Inside column) :
    (column.map Timestamps.isoformat).mapM readInstant = .ok column := by
  cases column with
  | none => rfl
  | some at_ =>
    rw [Option.map_some, Option.mapM_some, MetricsStore.readInstant_isoformat (inside at_ rfl)]
    rfl

theorem encodeHealth_ok_iff : encodeHealth health = .ok row ↔
    (Inside health.openedAt ∧ Inside health.cooldownUntil ∧ Inside health.lastFailureAt ∧
      Inside health.lastSuccessAt ∧ Datetime.InRange health.updatedAt) ∧
    row = healthRow health := by
  unfold encodeHealth
  simp only [bind_ok_iff, mapM_serialize_ok_iff, MetricsStore.serialize_ok_iff]
  constructor
  · rintro ⟨_, ⟨opened, rfl⟩, _, ⟨cooldown, rfl⟩, _, ⟨failed, rfl⟩, _, ⟨succeeded, rfl⟩,
      _, ⟨updated, rfl⟩, done⟩
    cases done
    exact ⟨⟨opened, cooldown, failed, succeeded, updated⟩, rfl⟩
  · rintro ⟨⟨opened, cooldown, failed, succeeded, updated⟩, rfl⟩
    exact ⟨_, ⟨opened, rfl⟩, _, ⟨cooldown, rfl⟩, _, ⟨failed, rfl⟩, _, ⟨succeeded, rfl⟩,
      _, ⟨updated, rfl⟩, rfl⟩

theorem healthRow_checks_iff (health : ProviderHealth) : (healthRow health).Checks ↔
    ¬ LeadsWithNul health.provider ∧ ¬ LeadsWithNul health.model := by
  have valid := health.wellFormed
  have known : ∀ state, stateText state ∈ circuitStates.map stateText := by
    rintro (_ | _ | _) <;> decide
  simp only [HealthRow.Checks, healthRow, sqlLength_pos_iff]
  constructor
  · rintro ⟨⟨_, provider⟩, ⟨_, model⟩, _⟩
    exact ⟨provider, model⟩
  · rintro ⟨provider, model⟩
    exact ⟨⟨valid.provider, provider⟩, ⟨valid.model, model⟩, known _, Int.natCast_nonneg _⟩

/-- A stored record reads back. -/
theorem healthFromRow_row (storable : Storable health) :
    healthFromRow (healthRow health) = .ok health := by
  have state : member circuitStates stateText (stateText health.state) = .ok health.state := by
    cases health.state <;> rfl
  have count : natural (health.consecutiveFailures : Int) = .ok health.consecutiveFailures := by
    rw [natural, if_pos (Int.natCast_nonneg _), Int.toNat_natCast]
  have restored : restoreHealth (healthRow health) = .ok health := by
    simp only [restoreHealth, healthRow, state, count, mapM_readInstant storable.opened,
      mapM_readInstant storable.cooldown, mapM_readInstant storable.failed,
      mapM_readInstant storable.succeeded,
      MetricsStore.readInstant_isoformat storable.updated, bind, Except.bind]
    exact validated_ok (ProviderHealth.mk health.toHealthFields) health.valid
  rw [healthFromRow, restored]

/-- A database that raises nothing to the statements of an upsert. -/
def Works (fault : Nat → Option PyError) : Prop := ∀ position < 3, fault position = none

instance decidableWorks (fault : Nat → Option PyError) : Decidable (Works fault) :=
  inferInstanceAs (Decidable (∀ position < 3, _))

/-- Such a database takes a record that a row can hold, and nothing else. -/
theorem upsertHealth_cases (fault : Nat → Option PyError) (health : ProviderHealth)
    (rows : HealthRows) :
    (¬ (Works fault ∧ Storable health) ∧
      ∃ error, upsertHealth fault health rows = (some error, rows)) ∨
    ((Works fault ∧ Storable health) ∧
      upsertHealth fault health rows = (none, rows.set health.key (healthRow health))) := by
  cases ran : healthTransaction fault health rows with
  | error error =>
    refine .inl ⟨?_, error, by rw [upsertHealth, ran]⟩
    rintro ⟨works, storable⟩
    have free (position : Nat) (bound : position < 3) : statement fault position = .ok () := by
      rw [statement, works position bound]
    have encoded : encodeHealth health = .ok (healthRow health) :=
      encodeHealth_ok_iff.mpr ⟨⟨storable.opened, storable.cooldown, storable.failed,
        storable.succeeded, storable.updated⟩, rfl⟩
    have binds : Binds (healthRow health).consecutiveFailures := storable.counted
    have checks := (healthRow_checks_iff health).mpr ⟨storable.provider, storable.model⟩
    rw [healthTransaction, free 0 (by decide), free 1 (by decide), free 2 (by decide),
      encoded] at ran
    simp only [bind, Except.bind, insertHealth, if_neg (not_not_intro binds),
      if_neg (not_not_intro checks)] at ran
    cases ran
  | ok after =>
    have free {position : Nat} (passed : statement fault position = .ok ()) :
        fault position = none := by
      unfold statement at passed
      split at passed
      · cases passed
      · assumption
    have answer : upsertHealth fault health rows = (none, after) := by rw [upsertHealth, ran]
    obtain ⟨connected, ran⟩ := then_ok_iff.mp ran
    obtain ⟨row, encoded, ran⟩ := bind_ok_iff.mp ran
    obtain ⟨executed, ran⟩ := then_ok_iff.mp ran
    obtain ⟨upserted, inserted, ran⟩ := bind_ok_iff.mp ran
    obtain ⟨committed, done⟩ := then_ok_iff.mp ran
    obtain ⟨⟨opened, cooldown, failed, succeeded, updated⟩, rfl⟩ :=
      encodeHealth_ok_iff.mp encoded
    unfold insertHealth at inserted
    split at inserted
    · cases inserted
    rename_i binds
    split at inserted
    · cases inserted
    rename_i checks
    cases inserted
    cases done
    obtain ⟨provider, model⟩ := (healthRow_checks_iff health).mp (not_not.mp checks)
    refine .inr ⟨⟨fun position bound => ?_, ?_⟩, answer⟩
    · match position, bound with
      | 0, _ => exact free connected
      | 1, _ => exact free executed
      | 2, _ => exact free committed
    · exact ⟨provider, model, opened, cooldown, failed, succeeded, updated, not_not.mp binds⟩

end Rows
end ModelPilot.HealthTable
