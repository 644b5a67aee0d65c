import ModelPilot.DecimalTexts
import ModelPilot.KeyedTables
import ModelPilot.MetricsWindow

/-! The pricing table (`metrics/sqlite_store.py`): prices by pair, written by upserts, with
every decimal and timestamp stored as text. -/
namespace ModelPilot

/-- The field values of a `ModelPricing`, before validation. -/
structure PricingFields where
  provider : String
  model : String
  inputCostPerMillionTokens : Decimal
  outputCostPerMillionTokens : Decimal
  currency : String := "USD"
  source : String
  updatedAt : Datetime
  deriving DecidableEq

/-- The field constraints. -/
def PricingFields.check (pricing : PricingFields) : Except PyError Unit := do
  require (pricing.provider ≠ "") "provider"
  require (pricing.model ≠ "") "model"
  require (0 ≤ pricing.inputCostPerMillionTokens.toRat) "input_cost_per_million_tokens"
  require (0 ≤ pricing.outputCostPerMillionTokens.toRat) "output_cost_per_million_tokens"
  require (pricing.currency ≠ "") "currency"
  require (pricing.source ≠ "") "source"
  require (pricing.updatedAt.toUtc.isSome = true) "updated_at"

/-- A validated `ModelPricing` with all its fields. -/
structure PricingRecord extends PricingFields where
  valid : toPricingFields.check = .ok ()

namespace PricingRecord

def modelValidate (fields : PricingFields) : Except PyError PricingRecord :=
  match valid : fields.check with
  | .ok () => .ok ⟨fields, valid⟩
  | .error error => .error error

def key (pricing : PricingRecord) : Key := (pricing.provider, pricing.model)

theorem modelValidate_self (pricing : PricingRecord) :
    modelValidate pricing.toPricingFields = .ok pricing :=
  validated_ok (PricingRecord.mk pricing.toPricingFields) pricing.valid

/-- What the constraints say. -/
theorem facts (pricing : PricingRecord) : pricing.provider ≠ "" ∧ pricing.model ≠ "" ∧
    0 ≤ pricing.inputCostPerMillionTokens.toRat ∧
    0 ≤ pricing.outputCostPerMillionTokens.toRat ∧ pricing.currency ≠ "" ∧
    pricing.source ≠ "" ∧ pricing.updatedAt.toUtc.isSome = true := by
  have valid := pricing.valid
  simp only [PricingFields.check, then_ok_iff, require_ok_iff] at valid
  exact valid

/-- The prices as numbers, as `estimate_cost` reads them. -/
def prices (pricing : PricingRecord) : ModelPricing where
  provider := pricing.provider
  model := pricing.model
  inputCostPerMillionTokens := pricing.inputCostPerMillionTokens.toRat
  outputCostPerMillionTokens := pricing.outputCostPerMillionTokens.toRat
  named := ⟨pricing.facts.1, pricing.facts.2.1⟩
  nonneg := ⟨pricing.facts.2.2.1, pricing.facts.2.2.2.1⟩

/-- The instant of `updated_at`. -/
def instant (pricing : PricingRecord) : Int := pricing.updatedAt.toUtc.getD 0

theorem aware (pricing : PricingRecord) : pricing.updatedAt.toUtc = some pricing.instant := by
  obtain ⟨_, _, _, _, _, _, aware⟩ := pricing.facts
  obtain ⟨at_, utc⟩ := Option.isSome_iff_exists.mp aware
  rw [instant, utc]
  rfl

/-- The record with its time in UTC. -/
def inUtc (pricing : PricingRecord) : PricingRecord where
  toPricingFields := { pricing.toPricingFields with updatedAt := .utc pricing.instant }
  valid := by
    obtain ⟨provider, model, input, output, currency, source, _⟩ := pricing.facts
    simp only [PricingFields.check, then_ok_iff, require_ok_iff, Datetime.toUtc_utc]
    exact ⟨provider, model, input, output, currency, source, rfl⟩

@[simp] theorem inUtc_key (pricing : PricingRecord) : pricing.inUtc.key = pricing.key := rfl

@[simp] theorem inUtc_prices (pricing : PricingRecord) :
    pricing.inUtc.prices = pricing.prices := rfl

end PricingRecord

namespace MetricsStore
open BenchmarkStore (LeadsWithNul sqlLength sqlLength_pos_iff statement)

/-- A row of `pricing`. -/
structure PricingRow where
  provider : String
  model : String
  inputCostPerMillionTokens : String
  outputCostPerMillionTokens : String
  currency : String
  source : String
  updatedAt : String
  deriving DecidableEq

/-- The table, by its primary key. -/
abbrev PricingTable := Dict Key PricingRow

/-- The values `upsert_pricing` binds. -/
def encodePricing (pricing : PricingRecord) : Except PyError PricingRow := do
  let updatedAt ← Timestamps.serializeDatetime pricing.updatedAt
  .ok
    { provider := pricing.provider
      model := pricing.model
      inputCostPerMillionTokens := pricing.inputCostPerMillionTokens.toText
      outputCostPerMillionTokens := pricing.outputCostPerMillionTokens.toText
      currency := pricing.currency
      source := pricing.source
      updatedAt }

/-- The CHECK constraints of `pricing`. -/
def PricingRow.Checks (row : PricingRow) : Prop :=
  0 < sqlLength row.provider ∧ 0 < sqlLength row.model ∧ 0 < sqlLength row.currency ∧
    0 < sqlLength row.source

instance pricingChecks (row : PricingRow) : Decidable row.Checks := inferInstanceAs (Decidable (_ ∧ _))

/-- `INSERT INTO pricing … ON CONFLICT(provider, model) DO UPDATE`. -/
def insertPricing (row : PricingRow) (table : PricingTable) : Except PyError PricingTable :=
  if row.Checks then .ok (table.set (row.provider, row.model) row)
  else .error (.other "sqlite3.IntegrityError")

/-- The statements of `upsert_pricing`: connect, upsert, commit. -/
def pricingTransaction (fault : Nat → Option PyError) (pricing : PricingRecord)
    (table : PricingTable) : Except PyError PricingTable := do
  statement fault 0
  let row ← encodePricing pricing
  statement fault 1
  let upserted ← insertPricing row table
  statement fault 2
  .ok upserted

/-- `upsert_pricing`: what it raises, if anything, and the table afterwards. -/
def upsertPricing (write : (Nat → Option PyError) × PricingRecord) (table : PricingTable) :
    Option PyError × PricingTable :=
  match pricingTransaction write.1 write.2 table with
  | .ok after => (none, after)
  | .error error => (some error, table)

/-- A decimal column, in the one format the store writes. -/
def readDecimal (text : String) : Except PyError Decimal :=
  if numberPattern.rmatch text.toList then .ok (.ofText text.toList)
  else .error (.value "decimal_parsing")

/-- The validation in `_pricing_from_row`. -/
def restorePricing (row : PricingRow) : Except PyError PricingRecord := do
  let inputCostPerMillionTokens ← readDecimal row.inputCostPerMillionTokens
  let outputCostPerMillionTokens ← readDecimal row.outputCostPerMillionTokens
  let updatedAt ← Timestamps.fromisoformat row.updatedAt
  PricingRecord.modelValidate
    { provider := row.provider
      model := row.model
      inputCostPerMillionTokens
      outputCostPerMillionTokens
      currency := row.currency
      source := row.source
      updatedAt }

/-- `_pricing_from_row`. -/
def pricingFromRow (row : PricingRow) : Except PyError PricingRecord :=
  match restorePricing row with
  | .error _ => .error (.other "MetricsStoreDataError")
  | result => result

/-- `get_pricing`. -/
def getPricing (table : PricingTable) (key : Key) : Except PyError (Option PricingRecord) :=
  KeyedTables.get pricingFromRow table key

/-- `list_pricing`, `ORDER BY provider, model`. -/
def listPricing (table : PricingTable) : Except PyError (List PricingRecord) :=
  KeyedTables.list pricingFromRow toLex table

section Writing
variable {pricing : PricingRecord} {row : PricingRow} {fault : Nat → Option PyError}

theorem readDecimal_toText (value : Decimal) : readDecimal value.toText = .ok value := by
  rw [readDecimal, if_pos (matches_iff.mpr ⟨value, Decimal.spells value⟩),
    Decimal.ofText_toText]

/-- The row of a record. -/
def pricingRow (pricing : PricingRecord) : PricingRow where
  provider := pricing.provider
  model := pricing.model
  inputCostPerMillionTokens := pricing.inputCostPerMillionTokens.toText
  outputCostPerMillionTokens := pricing.outputCostPerMillionTokens.toText
  currency := pricing.currency
  source := pricing.source
  updatedAt := Timestamps.isoformat pricing.instant

theorem encodePricing_ok_iff : encodePricing pricing = .ok row ↔
    Datetime.InRange pricing.instant ∧ row = pricingRow pricing := by
  rw [encodePricing, bind_ok_iff]
  constructor
  · rintro ⟨text, serialized, built⟩
    obtain ⟨at_, utc, inside, rfl⟩ := Timestamps.serializeDatetime_ok_iff.mp serialized
    cases pricing.aware.symm.trans utc
    cases built
    exact ⟨inside, rfl⟩
  · rintro ⟨inside, rfl⟩
    exact ⟨_, Timestamps.serializeDatetime_ok_iff.mpr ⟨_, pricing.aware, inside, rfl⟩, rfl⟩

/-- The texts of a record that its row has to measure. -/
def measured (pricing : PricingRecord) : List String :=
  [pricing.provider, pricing.model, pricing.currency, pricing.source]

theorem pricingRow_checks_iff (pricing : PricingRecord) : (pricingRow pricing).Checks ↔
    ∀ text ∈ measured pricing, ¬ LeadsWithNul text := by
  obtain ⟨provider, model, _, _, currency, source, _⟩ := pricing.facts
  simp only [PricingRow.Checks, pricingRow, sqlLength_pos_iff, measured, List.forall_mem_cons]
  constructor
  · rintro ⟨⟨_, provider⟩, ⟨_, model⟩, ⟨_, currency⟩, _, source⟩
    exact ⟨provider, model, currency, source, List.forall_mem_nil _⟩
  · rintro ⟨visible, named, paid, sourced, _⟩
    exact ⟨⟨provider, visible⟩, ⟨model, named⟩, ⟨currency, paid⟩, source, sourced⟩

/-- The row of a record reads back as the record, in UTC. -/
theorem pricingFromRow_row (inside : Datetime.InRange pricing.instant) :
    pricingFromRow (pricingRow pricing) = .ok pricing.inUtc := by
  have restored : restorePricing (pricingRow pricing) = .ok pricing.inUtc := by
    simp only [restorePricing, pricingRow, readDecimal_toText,
      Timestamps.fromisoformat_isoformat inside, bind, Except.bind]
    exact PricingRecord.modelValidate_self pricing.inUtc
  rw [pricingFromRow, restored]

/-- An upsert of a record whose time can be written and of whose texts none leads with a NUL,
with a database that raises nothing. -/
def Upserted (write : (Nat → Option PyError) × PricingRecord) : Prop :=
  (∀ position < 3, write.1 position = none) ∧ Datetime.InRange write.2.instant ∧
    ∀ text ∈ measured write.2, ¬ LeadsWithNul text

instance upserted (write : (Nat → Option PyError) × PricingRecord) : Decidable (Upserted write) :=
  inferInstanceAs (Decidable (_ ∧ _))

/-- Such an upsert puts the row of its record under its key; another one leaves the table. -/
theorem upsertPricing_cases (write : (Nat → Option PyError) × PricingRecord)
    (table : PricingTable) :
    (¬ Upserted write ∧ ∃ error, upsertPricing write table = (some error, table)) ∨
      Upserted write ∧
        upsertPricing write table = (none, table.set write.2.key (pricingRow write.2)) := by
  cases ran : pricingTransaction write.1 write.2 table with
  | error error =>
    refine .inl ⟨?_, error, by rw [upsertPricing, ran]⟩
    rintro ⟨works, inside, visible⟩
    have encoded := encodePricing_ok_iff.mpr ⟨inside, rfl⟩
    have free (position : Nat) (bound : position < 3) :
        statement write.1 position = .ok () := by
      rw [statement, works position bound]
    rw [pricingTransaction, free 0 (by decide), free 1 (by decide), free 2 (by decide),
      encoded] at ran
    simp only [bind, Except.bind, insertPricing,
      if_pos ((pricingRow_checks_iff write.2).mpr visible)] at ran
    cases ran
  | ok after =>
    have free {position : Nat} (passed : statement write.1 position = .ok ()) :
        write.1 position = none := by
      unfold statement at passed
      split at passed
      · cases passed
      · assumption
    have answer : upsertPricing write table = (none, after) := by rw [upsertPricing, ran]
    obtain ⟨connected, ran⟩ := then_ok_iff.mp ran
    obtain ⟨row, encoded, ran⟩ := bind_ok_iff.mp ran
    obtain ⟨executed, ran⟩ := then_ok_iff.mp ran
    obtain ⟨inserted, stored, ran⟩ := bind_ok_iff.mp ran
    obtain ⟨committed, done⟩ := then_ok_iff.mp ran
    obtain ⟨inside, rfl⟩ := encodePricing_ok_iff.mp encoded
    unfold insertPricing at stored
    split at stored
    · rename_i checks
      cases stored
      cases done
      have visible := (pricingRow_checks_iff write.2).mp checks
      refine .inr ⟨⟨fun position bound => ?_, inside, visible⟩, answer⟩
      match position, bound with
      | 0, _ => exact free connected
      | 1, _ => exact free executed
      | 2, _ => exact free committed
    · cases stored

theorem upserts_pricing : KeyedTables.Upserts (fun write => write.2.key)
    (fun write => write.2.inUtc) pricingFromRow upsertPricing := by
  intro write table
  rcases upsertPricing_cases write table with ⟨_, refused⟩ | ⟨taken, stored⟩
  · exact .inl refused
  · exact .inr ⟨_, stored, pricingFromRow_row taken.2.1⟩

end Writing

section Run
variable {writes : List ((Nat → Option PyError) × PricingRecord)}

/-- The price of a pair after some writes: the last that was upserted. -/
def lastPricing (writes : List ((Nat → Option PyError) × PricingRecord)) (key : Key) :
    Option PricingRecord :=
  KeyedTables.lastUnder (fun write => write.2.key) (fun write => write.2.inUtc)
    (writes.filter fun write => Upserted write) key

theorem taken_pricing (writes : List ((Nat → Option PyError) × PricingRecord))
    (table : PricingTable) : (KeyedTables.run upsertPricing writes table).1 =
      writes.filter fun write => Upserted write := by
  induction writes generalizing table with
  | nil => rfl
  | cons write later ih =>
    rw [KeyedTables.run]
    rcases upsertPricing_cases write table with ⟨untaken, error, refused⟩ | ⟨taken, stored⟩
    · simp only [refused, ih, Option.isNone_some, Bool.false_eq_true, if_false]
      rw [List.filter_cons_of_neg (by simpa using untaken)]
    · simp only [stored, ih, Option.isNone_none, if_true]
      rw [List.filter_cons_of_pos (by simpa using taken)]

theorem lastPricing_key {key : Key} {pricing : PricingRecord}
    (last : lastPricing writes key = some pricing) : pricing.key = key := by
  obtain ⟨write, found, rfl⟩ := Option.map_eq_some_iff.mp last
  have member := List.mem_filter.mp (List.mem_of_getLast? found)
  simpa using member.2

theorem reads_pricing (writes : List ((Nat → Option PyError) × PricingRecord)) :
    KeyedTables.Reads pricingFromRow (KeyedTables.run upsertPricing writes Dict.empty).2
      (lastPricing writes) := by
  have reads := upserts_pricing.reads_run writes
  rwa [taken_pricing] at reads

/-- After any upserts, with any faults of the database, a pair reads as the last price that
was upserted for it, digit for digit, and the list shows each priced pair once, in order. -/
theorem pricing_keeps_last (writes : List ((Nat → Option PyError) × PricingRecord)) :
    (∀ key, getPricing (KeyedTables.run upsertPricing writes Dict.empty).2 key =
      .ok (lastPricing writes key)) ∧
    ∃ listing, listPricing (KeyedTables.run upsertPricing writes Dict.empty).2 = .ok listing ∧
      listing.Pairwise (fun one other => toLex one.key < toLex other.key) ∧
      ∀ pricing, pricing ∈ listing ↔ lastPricing writes pricing.key = some pricing := by
  have reads := reads_pricing writes
  exact ⟨reads, reads.list toLex.injective fun _ _ last => lastPricing_key last⟩

end Run
end MetricsStore
end ModelPilot
