import ModelPilot.PricingTable

/-! Price updates and recorded attempts, in any order. An attempt is recorded with the price
that its pair has at that moment (`_record_provider_attempt`, `service.py`), and no later
update changes what is recorded. -/
namespace ModelPilot.RecordedCosts
open MetricsStore

/-- A call of `_record_provider_attempt`: its arguments, the clock, and what the database
raises to the read of the price and to the statements of the insert. -/
structure AttemptCall where
  outcome : ProviderOutcome
  requestId : String
  attemptIndex : Nat
  createdAt : Int
  readFault : Option PyError := none
  fault : Nat → Option PyError := fun _ => none

/-- A call on the metrics store. -/
inductive StoreCall where
  | price (write : (Nat → Option PyError) × PricingRecord)
  | attempt (call : AttemptCall)

/-- The two tables. -/
structure Store where
  pricing : PricingTable := Dict.empty
  attempts : List AttemptRow := []

/-- The price that an attempt is recorded with; a price that cannot be read is logged. -/
def AttemptCall.pricing (call : AttemptCall) (table : PricingTable) : Option ModelPricing :=
  match call.readFault with
  | some _ => none
  | none => (getPricing table call.outcome.key).toOption.join.map (·.prices)

/-- The attempt under a price. -/
def AttemptCall.record (call : AttemptCall) (pricing : Option ModelPricing) :
    Except PyError AttemptRecord :=
  attemptFromOutcome call.outcome call.requestId call.attemptIndex pricing call.createdAt

/-- `_record_provider_attempt`: whatever is raised is logged. -/
def recordProviderAttempt (store : Store) (call : AttemptCall) : Store :=
  match call.record (call.pricing store.pricing) with
  | .error _ => store
  | .ok attempt => { store with attempts := (recordAttempt call.fault store.attempts attempt).2 }

def step (store : Store) : StoreCall → Store
  | .price write => { store with pricing := (upsertPricing write store.pricing).2 }
  | .attempt call => recordProviderAttempt store call

def run (history : List StoreCall) : Store := history.foldl step {}

/-- The price updates of a history. -/
def writeOf : StoreCall → Option ((Nat → Option PyError) × PricingRecord)
  | .price write => some write
  | .attempt _ => none

/-- The price in force for an attempt behind some calls, if it can read one. -/
def inForce (earlier : List StoreCall) (call : AttemptCall) : Option ModelPricing :=
  if call.readFault.isSome then none
  else (lastPricing (earlier.filterMap writeOf) call.outcome.key).map (·.prices)

section Runs
variable {history : List StoreCall} {store : Store}

theorem run_append (history : List StoreCall) (call : StoreCall) :
    run (history ++ [call]) = step (run history) call := by
  rw [run, List.foldl_append]
  rfl

/-- Attempts leave the prices alone. -/
theorem pricing_recordProviderAttempt (store : Store) (call : AttemptCall) :
    (recordProviderAttempt store call).pricing = store.pricing := by
  unfold recordProviderAttempt
  split <;> rfl

theorem pricing_foldl (history : List StoreCall) (store : Store) :
    (history.foldl step store).pricing =
      (KeyedTables.run upsertPricing (history.filterMap writeOf) store.pricing).2 := by
  induction history generalizing store with
  | nil => rfl
  | cons call later ih =>
    rw [List.foldl_cons, ih]
    cases call with
    | price write => rfl
    | attempt call =>
      have same : (step store (.attempt call)).pricing = store.pricing :=
        pricing_recordProviderAttempt store call
      rw [same]
      rfl

/-- The table holds the last prices. -/
theorem reads_run (history : List StoreCall) (key : Key) :
    getPricing (run history).pricing key = .ok (lastPricing (history.filterMap writeOf) key) := by
  have pricing : (run history).pricing =
      (KeyedTables.run upsertPricing (history.filterMap writeOf) Dict.empty).2 :=
    pricing_foldl history {}
  rw [pricing]
  exact reads_pricing _ key

theorem pricing_run (history : List StoreCall) (call : AttemptCall) :
    call.pricing (run history).pricing = inForce history call := by
  rw [AttemptCall.pricing, inForce, reads_run]
  cases call.readFault <;> rfl

/-- What a call does to the attempts: nothing, or a row for an attempt at the price. -/
theorem attempts_step (store : Store) (call : StoreCall) :
    (step store call).attempts = store.attempts ∨
      ∃ made attempt row, call = .attempt made ∧
        made.record (made.pricing store.pricing) = .ok attempt ∧
        (step store call).attempts = store.attempts ++ [row] ∧ Stored row attempt := by
  cases call with
  | price write => exact .inl rfl
  | attempt made =>
    rw [step, recordProviderAttempt]
    cases built : made.record (made.pricing store.pricing) with
    | error error => exact .inl rfl
    | ok attempt =>
      dsimp only
      rcases recordAttempt_rows made.fault store.attempts attempt with
        ⟨error, refused⟩ | ⟨row, added, stored, _⟩
      · rw [refused]
        exact .inl rfl
      · rw [added]
        exact .inr ⟨made, attempt, row, rfl, built, rfl, stored⟩

/-- Recorded attempts stay as they are. -/
theorem attempts_prefix (history more : List StoreCall) :
    (run history).attempts <+: (run (history ++ more)).attempts := by
  induction more using List.reverseRecOn with
  | nil => rw [List.append_nil]
  | append_singleton more call ih =>
    rw [← List.append_assoc, run_append]
    rcases attempts_step (run (history ++ more)) call with same | ⟨_, _, row, _, _, added, _⟩
    · rwa [same]
    · rw [added]
      exact ih.trans (List.prefix_append _ _)

end Runs

/-- A row is that of the attempt at a place of the history, at the price in force there. -/
def RecordedAt (history : List StoreCall) (row : AttemptRow) (place : Nat) : Prop :=
  ∃ call attempt, history[place]? = some (.attempt call) ∧
    call.record (inForce (history.take place) call) = .ok attempt ∧
    attemptFromRow row = .ok attempt

theorem RecordedAt.append {history : List StoreCall} {row : AttemptRow} {place : Nat}
    (recorded : RecordedAt history row place) (more : List StoreCall) :
    RecordedAt (history ++ more) row place := by
  obtain ⟨call, attempt, found, built, read⟩ := recorded
  have bound : place < history.length := by
    by_contra beyond
    rw [List.getElem?_eq_none (Nat.le_of_not_lt beyond)] at found
    cases found
  refine ⟨call, attempt, ?_, ?_, read⟩
  · rw [List.getElem?_append_left bound, found]
  · rwa [List.take_append_of_le_length (Nat.le_of_lt bound)]

/-- The rows of a history, each with its place there. -/
theorem recorded_run (history : List StoreCall) :
    ∃ places : List Nat, places.Pairwise (· < ·) ∧
      (∀ place ∈ places, place < history.length) ∧
      List.Forall₂ (RecordedAt history) (run history).attempts places := by
  induction history using List.reverseRecOn with
  | nil => exact ⟨[], .nil, List.forall_mem_nil _, .nil⟩
  | append_singleton history call ih =>
    obtain ⟨places, rising, bounded, recorded⟩ := ih
    have kept : List.Forall₂ (RecordedAt (history ++ [call])) (run history).attempts places :=
      recorded.imp fun _ _ at_ => at_.append [call]
    have within : ∀ place ∈ places, place < (history ++ [call]).length := fun place member => by
      rw [List.length_append]
      exact Nat.lt_add_right _ (bounded place member)
    rw [run_append]
    rcases attempts_step (run history) call with
      same | ⟨made, attempt, row, rfl, built, added, stored⟩
    · rw [same]
      exact ⟨places, rising, within, kept⟩
    · rw [added]
      refine ⟨places ++ [history.length], ?_, ?_, ?_⟩
      · exact List.pairwise_append.mpr ⟨rising, List.pairwise_singleton _ _,
          fun place member last at_ => by
            rw [List.mem_singleton.mp at_]
            exact bounded place member⟩
      · intro place member
        rcases List.mem_append.mp member with inside | last
        · exact within place inside
        · rw [List.mem_singleton.mp last, List.length_append]
          exact Nat.lt_succ_self _
      · refine List.rel_append kept (.cons ⟨made, attempt, ?_, ?_, ?_⟩ .nil)
        · rw [List.getElem?_append_right (Nat.le_refl _), Nat.sub_self]
          rfl
        · rw [List.take_append_of_le_length (Nat.le_refl _), List.take_length, ← pricing_run]
          exact built
        · exact attemptFromRow_stored stored

/-- Every recorded attempt has the cost of the price in force when it was recorded, and
whatever is upserted or recorded afterwards leaves it as it is. -/
theorem costs_follow_prices (history : List StoreCall) :
    (∃ places : List Nat, places.Pairwise (· < ·) ∧
      List.Forall₂ (RecordedAt history) (run history).attempts places) ∧
    ∀ more, (run history).attempts <+: (run (history ++ more)).attempts := by
  obtain ⟨places, rising, _, recorded⟩ := recorded_run history
  exact ⟨⟨places, rising, recorded⟩, attempts_prefix history⟩

end ModelPilot.RecordedCosts
