import ModelPilot.BreakerRuns
import ModelPilot.HealthTable

/-! The circuit breaker over its SQLite table. Times and counts are those a row can hold,
and the database may raise at any statement; what is stored is always what the breaker of
unbounded times and counts makes of the accepted outcomes. -/
namespace ModelPilot.StoredBreaker
open BreakerRuns (Journal Related event policy)
open HealthTable (HealthRows Storable Works getHealth healthFromRow healthRow listHealth
  upsertHealth upsertHealth_cases)

/-- A call of `ProviderHealthManager.update`: the outcome, and what the database raises to
the read and to the statements of the write. -/
structure UpdateCall where
  outcome : ProviderOutcome
  readFault : Option PyError := none
  fault : Nat → Option PyError := fun _ => none

/-- The read of a call. -/
def UpdateCall.read (call : UpdateCall) (rows : HealthRows) :
    Except PyError (Option ProviderHealth) :=
  match call.readFault with
  | some error => .error error
  | none => getHealth rows call.outcome.key

/-- `ProviderHealthManager.update` on the table, in the datetime range. -/
def update (manager : ProviderHealthManager) (call : UpdateCall) (rows : HealthRows) :
    Except PyError ProviderHealth × HealthRows :=
  match call.read rows with
  | .error _ => (.error (.healthPersistence "health read failed"), rows)
  | .ok stored =>
    match manager.transition (some Datetime.maxUtc) stored call.outcome with
    | .error error => (.error error, rows)
    | .ok updated =>
      match upsertHealth call.fault updated rows with
      | (some _, rows) => (.error (.healthPersistence "health write failed"), rows)
      | (none, rows) => (.ok updated, rows)

/-- The table and the accepted outcomes, oldest first. -/
structure Store where
  rows : HealthRows := Dict.empty
  accepted : List ProviderOutcome := []

def Store.feed (manager : ProviderHealthManager) (store : Store) (call : UpdateCall) : Store :=
  match update manager call store.rows with
  | (.ok _, rows) => ⟨rows, store.accepted ++ [call.outcome]⟩
  | (.error _, rows) => ⟨rows, store.accepted⟩

def run (manager : ProviderHealthManager) (calls : List UpdateCall) : Store :=
  calls.foldl (Store.feed manager) {}

/-- The table reads as the records do. -/
def Implements (rows : HealthRows) (records : HealthRecords) : Prop :=
  KeyedTables.Reads healthFromRow rows records.getHealth

theorem implements_empty : Implements Dict.empty .empty := KeyedTables.reads_empty

section Updates
variable {manager : ProviderHealthManager} {rows : HealthRows} {records : HealthRecords}
  {health updated : ProviderHealth} {outcome : ProviderOutcome} {stored : Option ProviderHealth}

theorem Implements.upsert (holds : Implements rows records) (storable : Storable updated) :
    Implements (rows.set updated.key (healthRow updated)) (records.upsertHealth updated) := by
  apply (KeyedTables.Reads.set holds (HealthTable.healthFromRow_row storable)).congr
  intro key
  by_cases own : updated.key = key
  · subst own
    rw [if_pos rfl, HealthRecords.getHealth_upsert_self]
  · rw [if_neg own, HealthRecords.getHealth_upsert_ne _ _ (Ne.symm own)]

theorem add_bounded {last at_ delta sum : Int} :
    Datetime.add (some last) at_ delta = .ok sum ↔
      Datetime.add none at_ delta = .ok sum ∧ sum ≤ last := by
  change (if at_ + delta ≤ last then Except.ok (at_ + delta) else .error PyError.overflow) =
    .ok sum ↔ Except.ok (at_ + delta) = .ok sum ∧ sum ≤ last
  rw [Except.ok.injEq]
  split_ifs with fits
  · rw [Except.ok.injEq]
    exact ⟨fun same => ⟨same, same ▸ fits⟩, fun held => held.1⟩
  · simp only [false_iff, not_and]
    rintro rfl
    exact fits

theorem modelValidate_fields {fields : HealthFields}
    (accepted : ProviderHealth.modelValidate fields = .ok health) :
    health.toHealthFields = fields := by
  unfold ProviderHealth.modelValidate at accepted
  split at accepted
  · cases accepted
    rfl
  · cases accepted

/-- With an end of time a failure is recorded as without one, if its cooldown does not pass
that end. -/
theorem recordFailure_bounded {last threshold cooldown : Int} {errorType : ProviderErrorType}
    {now : Datetime} :
    (health.recordFailure (some last) errorType threshold cooldown now = .ok updated →
      health.recordFailure none errorType threshold cooldown now = .ok updated) ∧
    ((∀ until_ ∈ updated.cooldownUntil, until_ ≤ last) →
      health.recordFailure none errorType threshold cooldown now = .ok updated →
      health.recordFailure (some last) errorType threshold cooldown now = .ok updated) := by
  unfold ProviderHealth.recordFailure
  simp only [bind_ok_iff]
  constructor
  · rintro ⟨_, policy, at_, timed, current, advanced, decided⟩
    refine ⟨_, policy, at_, timed, current, advanced, ?_⟩
    split_ifs at decided ⊢
    · exact decided
    · obtain ⟨deadline, added, built⟩ := bind_ok_iff.mp decided
      exact bind_ok_iff.mpr ⟨deadline, (add_bounded.mp added).1, built⟩
    · exact decided
  · rintro within ⟨_, policy, at_, timed, current, advanced, decided⟩
    refine ⟨_, policy, at_, timed, current, advanced, ?_⟩
    split_ifs at decided ⊢
    · exact decided
    · obtain ⟨deadline, added, built⟩ := bind_ok_iff.mp decided
      have before := within deadline (by rw [modelValidate_fields built]; rfl)
      exact bind_ok_iff.mpr ⟨deadline, add_bounded.mpr ⟨added, before⟩, built⟩
    · exact decided

theorem transition_of_record {last : Int} :
    (manager.transition (some last) (some health) outcome = .ok updated →
      manager.transition none (some health) outcome = .ok updated) ∧
    ((∀ until_ ∈ updated.cooldownUntil, until_ ≤ last) →
      manager.transition none (some health) outcome = .ok updated →
      manager.transition (some last) (some health) outcome = .ok updated) := by
  simp only [ProviderHealthManager.transition, bind, Except.bind]
  split_ifs
  · exact ⟨id, fun _ => id⟩
  · cases outcome.errorType with
    | none => exact ⟨id, fun _ => id⟩
    | some errorType => exact recordFailure_bounded

theorem transition_bounded {last : Int} :
    (manager.transition (some last) stored outcome = .ok updated →
      manager.transition none stored outcome = .ok updated) ∧
    ((∀ until_ ∈ updated.cooldownUntil, until_ ≤ last) →
      manager.transition none stored outcome = .ok updated →
      manager.transition (some last) stored outcome = .ok updated) := by
  cases stored with
  | some health => exact transition_of_record
  | none =>
    obtain ⟨first, fields, started⟩ := manager.transition_first (some last) outcome
    obtain ⟨other, others, also⟩ := manager.transition_first none outcome
    cases ProviderHealth.ext_fields (fields.trans others.symm)
    rw [started, also]
    exact transition_of_record

/-- When a call is accepted: its read and its write work, the breaker accepts the outcome,
and a row can hold the record it makes of it. -/
structure Accepts (manager : ProviderHealthManager) (records : HealthRecords) (call : UpdateCall)
    (updated : ProviderHealth) : Prop where
  read : call.readFault = none
  accepted : BreakerRuns.update manager records call.outcome = .ok updated
  works : Works call.fault
  storable : Storable updated

/-- A call stores the record of an accepted outcome; another one leaves the table. -/
theorem update_cases (holds : Implements rows records) (call : UpdateCall) :
    (∃ updated, Accepts manager records call updated ∧
      update manager call rows = (.ok updated, rows.set updated.key (healthRow updated))) ∨
    (∀ updated, ¬ Accepts manager records call updated) ∧
      ∃ error, update manager call rows = (.error error, rows) := by
  have abstract (updated : ProviderHealth) :
      BreakerRuns.update manager records call.outcome = .ok updated ↔
        manager.transition none (records.getHealth call.outcome.key) call.outcome =
          .ok updated := by
    rw [BreakerRuns.update, ProviderHealthManager.update_stored]
  unfold update UpdateCall.read
  cases read : call.readFault with
  | some error =>
    refine .inr ⟨fun updated accepts => ?_, _, rfl⟩
    rw [accepts.read] at read
    cases read
  | none =>
    have reads : getHealth rows call.outcome.key = .ok (records.getHealth call.outcome.key) :=
      holds _
    dsimp only
    rw [reads]
    dsimp only
    cases moved : manager.transition (some Datetime.maxUtc)
        (records.getHealth call.outcome.key) call.outcome with
    | error error =>
      refine .inr ⟨fun updated accepts => ?_, _, rfl⟩
      have within : ∀ until_ ∈ updated.cooldownUntil, until_ ≤ Datetime.maxUtc :=
        fun until_ member => (accepts.storable.cooldown until_ member).2
      rw [transition_bounded.2 within ((abstract updated).mp accepts.accepted)] at moved
      cases moved
    | ok updated =>
      dsimp only
      have unbounded := transition_bounded.1 moved
      rcases upsertHealth_cases call.fault updated rows with
        ⟨refused, error, raised⟩ | ⟨⟨works, storable⟩, upserted⟩
      · rw [raised]
        refine .inr ⟨fun other accepts => refused ⟨accepts.works, ?_⟩, _, rfl⟩
        have same := (abstract other).mp accepts.accepted
        rw [unbounded] at same
        cases same
        exact accepts.storable
      · rw [upserted]
        exact .inl ⟨updated, ⟨read, (abstract updated).mpr unbounded, works, storable⟩, rfl⟩

end Updates

section Runs
variable {manager : ProviderHealthManager}

/-- What the table holds after some accepted outcomes: the records that the breaker without
bounds makes of them. -/
structure Agrees (manager : ProviderHealthManager) (store : Store) : Prop where
  implements : Implements store.rows (BreakerRuns.run manager store.accepted).records
  accepted : (BreakerRuns.run manager store.accepted).accepted = store.accepted

theorem feed_agrees {store : Store} (agrees : Agrees manager store) (call : UpdateCall) :
    Agrees manager (store.feed manager call) := by
  unfold Store.feed
  rcases update_cases agrees.implements call with
    ⟨updated, accepts, stored⟩ | ⟨_, error, refused⟩
  · rw [stored]
    have fed : BreakerRuns.run manager (store.accepted ++ [call.outcome]) =
        { records := (BreakerRuns.run manager store.accepted).records.upsertHealth updated
          accepted := (BreakerRuns.run manager store.accepted).accepted ++ [call.outcome] } := by
      have extended : BreakerRuns.run manager (store.accepted ++ [call.outcome]) =
          (BreakerRuns.run manager store.accepted).feed manager call.outcome := by
        rw [BreakerRuns.run, List.foldl_append]
        rfl
      rw [extended, Journal.feed, accepts.accepted]
    constructor
    · rw [fed]
      exact agrees.implements.upsert accepts.storable
    · rw [fed, agrees.accepted]
  · rw [refused]
    exact agrees

theorem run_agrees (manager : ProviderHealthManager) (calls : List UpdateCall) :
    Agrees manager (run manager calls) := by
  have from_any : ∀ store, Agrees manager store →
      Agrees manager (calls.foldl (Store.feed manager) store) := by
    induction calls with
    | nil => exact fun _ agrees => agrees
    | cons call later ih => exact fun store agrees => ih _ (feed_agrees agrees call)
  exact from_any {} ⟨implements_empty, rfl⟩

/-- What a table of accepted outcomes shows, and what the next call does to it. -/
structure Shows (manager : ProviderHealthManager) (store : Store) : Prop where
  records : ∀ key, getHealth store.rows key =
    .ok ((BreakerRuns.run manager store.accepted).records.getHealth key)
  reference : ∀ key, Related manager key (BreakerRuns.run manager store.accepted)
    (ReferenceBreaker.run (policy manager) ((store.accepted.filter (·.key = key)).map event))
  all : (BreakerRuns.run manager store.accepted).accepted = store.accepted
  listed : ∃ listing, listHealth store.rows = .ok listing ∧
    listing.Pairwise (fun one other => toLex one.key < toLex other.key) ∧
    ∀ health, health ∈ listing ↔
      (BreakerRuns.run manager store.accepted).records.getHealth health.key = some health
  next : ∀ call updated, (update manager call store.rows).1 = .ok updated ↔
    Accepts manager (BreakerRuns.run manager store.accepted).records call updated
  refused : ∀ call error, (update manager call store.rows).1 = .error error →
    (update manager call store.rows).2 = store.rows

/-- Whatever the database raises in a run, and whatever times and counts a row cannot hold,
the table holds what the reference breaker makes of the outcomes that were accepted. -/
theorem stored_breaker_refines (manager : ProviderHealthManager) (calls : List UpdateCall) :
    Shows manager (run manager calls) := by
  obtain ⟨holds, all⟩ := run_agrees manager calls
  refine ⟨holds, fun key => BreakerRuns.run_related manager _ key, all, ?listed, ?next,
    ?refused⟩
  case listed =>
    exact KeyedTables.Reads.list holds toLex.injective fun key health stored =>
      HealthRecords.keyed _ key health stored
  case next =>
    intro call updated
    rcases update_cases holds call with ⟨other, accepts, stored⟩ | ⟨refused, error, raised⟩
    · rw [stored, Except.ok.injEq]
      constructor
      · rintro rfl
        exact accepts
      · intro also
        exact Except.ok.inj (accepts.accepted.symm.trans also.accepted)
    · rw [raised]
      constructor
      · rintro ⟨⟩
      · exact fun accepts => absurd accepts (refused updated)
  case refused =>
    intro call error raised
    rcases update_cases holds call with ⟨other, _, stored⟩ | ⟨_, _, kept⟩
    · rw [stored] at raised
      cases raised
    · rw [kept]

end Runs
end ModelPilot.StoredBreaker
