import Mathlib.Data.List.Forall2

/-! The parts of Python the service relies on: exceptions by the class that its
`except` clauses distinguish, and datetimes with or without a UTC offset.
Instants are microseconds since the epoch in UTC, and durations microseconds:
the resolution of `datetime` and `timedelta`. -/
namespace ModelPilot

/-- A raised `Exception`. `ValidationError` is a `ValueError`, so both are
`value`; `other` stands for any exception of another class. -/
inductive PyError where
  | value (message : String)
  | healthPersistence (message : String)
  | providerError (message : String)
  | candidateUnavailable
  | benchmarkStoreData (message : String)
  | duplicateBenchmarkRun
  | runtime (message : String)
  | overflow
  | attribute
  | assertion
  | other (name : String)
  deriving DecidableEq, Repr

/-- A validation step: a condition and the message of its `ValueError`. -/
def require (condition : Prop) [Decidable condition] (message : String) : Except PyError Unit :=
  if condition then .ok () else .error (.value message)

@[simp] theorem require_ok_iff {condition : Prop} [Decidable condition] :
    require condition message = .ok () ↔ condition := by
  unfold require
  split <;> simp [*]

/-- A sequence of steps passes exactly when each of them does. -/
theorem then_ok_iff {ε : Type} {first : Except ε Unit} {rest : Except ε α} :
    (first >>= fun _ => rest) = .ok value ↔ first = .ok () ∧ rest = .ok value := by
  cases first <;> simp [bind, Except.bind]

theorem bind_ok_iff {ε : Type} {first : Except ε α} {next : α → Except ε β} :
    first >>= next = .ok value ↔ ∃ held, first = .ok held ∧ next held = .ok value := by
  cases first <;> simp [bind, Except.bind]

theorem map_ok_iff {ε : Type} {step : Except ε α} {change : α → β} :
    step.map change = .ok value ↔ ∃ held, step = .ok held ∧ change held = value := by
  cases step <;> simp [Except.map]

theorem map_error_iff {ε : Type} {step : Except ε α} {change : α → β} {error : ε} :
    step.map change = .error error ↔ step = .error error := by
  cases step <;> simp [Except.map]

/-- A step that gives every item back leaves a list as it is. -/
theorem mapM_unchanged {step : α → Except PyError α} (same : ∀ item, step item = .ok item)
    (items : List α) : items.mapM step = .ok items := by
  induction items with
  | nil => rfl
  | cons item rest ih =>
    rw [List.mapM_cons, same, ih]
    rfl

private theorem mapM_cons_ok {step : α → Except PyError β} {results : List β}
    (ran : (item :: rest).mapM step = .ok results) :
    ∃ first others, step item = .ok first ∧ rest.mapM step = .ok others ∧
      results = first :: others := by
  rw [List.mapM_cons, bind_ok_iff] at ran
  obtain ⟨first, stepped, ran⟩ := ran
  obtain ⟨others, later, ran⟩ := bind_ok_iff.mp ran
  cases ran
  exact ⟨first, others, stepped, later, rfl⟩

/-- What each step keeps, the whole list keeps. -/
theorem map_of_mapM {step : α → Except PyError β} {items : List α} {results : List β}
    (kept : ∀ item result, step item = .ok result → left result = right item)
    (ran : items.mapM step = .ok results) : results.map left = items.map right := by
  induction items generalizing results with
  | nil =>
    cases ran
    rfl
  | cons item rest ih =>
    obtain ⟨first, others, stepped, later, rfl⟩ := mapM_cons_ok ran
    rw [List.map_cons, List.map_cons, kept item first stepped, ih later]

theorem mem_of_mapM {step : α → Except PyError β} {items : List α} {results : List β}
    (ran : items.mapM step = .ok results) (member : result ∈ results) :
    ∃ item ∈ items, step item = .ok result := by
  induction items generalizing results with
  | nil =>
    cases ran
    cases member
  | cons item rest ih =>
    obtain ⟨first, others, stepped, later, rfl⟩ := mapM_cons_ok ran
    rcases List.mem_cons.mp member with rfl | inside
    · exact ⟨item, List.mem_cons_self, stepped⟩
    · obtain ⟨other, held, same⟩ := ih later inside
      exact ⟨other, List.mem_cons_of_mem _ held, same⟩

theorem toOption_eq_some_iff {ε : Type} {result : Except ε α} :
    result.toOption = some value ↔ result = .ok value := by
  cases result <;> simp [Except.toOption]

theorem mapM_congr {step other : α → Except PyError β} {items : List α}
    (same : ∀ item ∈ items, step item = other item) : items.mapM step = items.mapM other := by
  induction items with
  | nil => rfl
  | cons item rest ih =>
    obtain ⟨first, later⟩ := List.forall_mem_cons.mp same
    rw [List.mapM_cons, List.mapM_cons, first, ih later]

/-- A list of steps succeeds when each of them does, and holds their results. -/
theorem mapM_ok_iff {step : α → Except PyError β} {items : List α} {results : List β} :
    items.mapM step = .ok results ↔ (∀ item ∈ items, ∃ result, step item = .ok result) ∧
      results = items.filterMap fun item => (step item).toOption := by
  induction items generalizing results with
  | nil => simp [pure, Except.pure, eq_comm]
  | cons item rest ih =>
    rw [List.mapM_cons, bind_ok_iff, List.forall_mem_cons, List.filterMap_cons]
    constructor
    · rintro ⟨first, stepped, ran⟩
      obtain ⟨others, later, ran⟩ := bind_ok_iff.mp ran
      cases ran
      obtain ⟨each, rfl⟩ := ih.mp later
      refine ⟨⟨⟨first, stepped⟩, each⟩, ?_⟩
      rw [stepped]
      rfl
    · rintro ⟨⟨⟨first, stepped⟩, each⟩, rfl⟩
      refine ⟨first, stepped, bind_ok_iff.mpr ⟨_, ih.mpr ⟨each, rfl⟩, ?_⟩⟩
      rw [stepped]
      rfl

/-- Steps that all succeed succeed as a list, with results in the items' places. -/
theorem mapM_forall₂ {step : α → Except PyError β} {related : α → β → Prop} {items : List α}
    (each : ∀ item ∈ items, ∃ result, step item = .ok result ∧ related item result) :
    ∃ results, items.mapM step = .ok results ∧ List.Forall₂ related items results := by
  induction items with
  | nil => exact ⟨[], rfl, .nil⟩
  | cons item rest ih =>
    obtain ⟨⟨first, stepped, same⟩, others⟩ := List.forall_mem_cons.mp each
    obtain ⟨results, ran, later⟩ := ih others
    refine ⟨first :: results, ?_, .cons same later⟩
    rw [List.mapM_cons, stepped, ran]
    rfl

/-- Fields that pass their check are validated. -/
theorem validated_ok {check : φ → Except PyError Unit} {fields : φ}
    (make : check fields = .ok () → α) (accepted : check fields = .ok ()) :
    (match valid : check fields with
      | .ok () => Except.ok (make valid)
      | .error error => .error error) = (.ok (make accepted) : Except PyError α) := by
  split
  · rfl
  · rename_i refused
    rw [accepted] at refused
    cases refused

/-- One check after the other over a list. -/
def checkAll (check : α → Except PyError Unit) : List α → Except PyError Unit
  | [] => .ok ()
  | item :: rest => do
    check item
    checkAll check rest

@[simp] theorem checkAll_ok_iff {check : α → Except PyError Unit} {items : List α} :
    checkAll check items = .ok () ↔ ∀ item ∈ items, check item = .ok () := by
  induction items with
  | nil => simp [checkAll]
  | cons item rest ih => simp [checkAll, then_ok_iff, ih]

/-- A check of a value that may be absent. -/
def checkSome (check : α → Except PyError Unit) : Option α → Except PyError Unit
  | none => .ok ()
  | some value => check value

@[simp] theorem checkSome_ok_iff {check : α → Except PyError Unit} {value : Option α} :
    checkSome check value = .ok () ↔ ∀ held, value = some held → check held = .ok () := by
  cases value <;> simp [checkSome]

/-- A `datetime`: the wall clock reading and, when aware, its UTC offset. -/
inductive Datetime where
  | naive (wall : Int)
  | aware (wall utcoffset : Int)
  deriving DecidableEq, Repr

namespace Datetime

/-- `value.astimezone(UTC)`, defined when the value has an offset. -/
def toUtc : Datetime → Option Int
  | .naive _ => none
  | .aware wall utcoffset => some (wall - utcoffset)

/-- `datetime.min` and `datetime.max`, in UTC. -/
def minUtc : Int := -62135596800000000
def maxUtc : Int := 253402300799999999

/-- A UTC time inside the datetime range. -/
def InRange (at_ : Int) : Prop := minUtc ≤ at_ ∧ at_ ≤ maxUtc

instance : Decidable (InRange at_) := inferInstanceAs (Decidable (_ ∧ _))

/-- An `AwareDatetime` field converted to UTC: a naive value is refused, and
one whose UTC time leaves the datetime range raises `OverflowError`. -/
def astimezone (value : Datetime) : Except PyError Int :=
  match value.toUtc with
  | none => .error (.value "datetime must be timezone-aware")
  | some at_ => if InRange at_ then .ok at_ else .error .overflow

/-- A reading of `datetime.now(UTC)`. -/
def utc (at_ : Int) : Datetime := .aware at_ 0

@[simp] theorem toUtc_utc (at_ : Int) : (utc at_).toUtc = some at_ := by
  simp [utc, toUtc]

/-- `now.astimezone(UTC)` of a reading that must be aware. A reading in UTC is itself; of
another one the UTC time may leave the datetime range. -/
def inUtc : Datetime → Except PyError Int
  | .naive _ => .error (.value "now must be timezone-aware")
  | .aware wall utcoffset =>
    if utcoffset = 0 ∨ InRange (wall - utcoffset) then .ok (wall - utcoffset)
    else .error .overflow

@[simp] theorem inUtc_utc (at_ : Int) : (utc at_).inUtc = .ok at_ := by
  simp [utc, inUtc]

theorem toUtc_of_inUtc {now : Datetime} (converted : now.inUtc = .ok at_) :
    now.toUtc = some at_ := by
  cases now with
  | naive wall => cases converted
  | aware wall utcoffset =>
    rw [inUtc] at converted
    split at converted
    · cases converted
      rfl
    · cases converted

/-- An aware reading is converted, or its UTC time is outside the datetime range. -/
theorem inUtc_cases {now : Datetime} (aware : now.toUtc = some at_) :
    now.inUtc = .ok at_ ∨ now.inUtc = .error .overflow ∧ ¬ InRange at_ := by
  cases now with
  | naive wall => cases aware
  | aware wall utcoffset =>
    cases aware
    rw [inUtc]
    split
    · exact .inl rfl
    · rename_i outside
      exact .inr ⟨rfl, (not_or.mp outside).2⟩

theorem inUtc_of_inRange {now : Datetime} (aware : now.toUtc = some at_) (inside : InRange at_) :
    now.inUtc = .ok at_ :=
  (inUtc_cases aware).resolve_right fun overflow => overflow.2 inside

theorem astimezone_ok_iff {value : Datetime} :
    value.astimezone = .ok at_ ↔ value.toUtc = some at_ ∧ InRange at_ := by
  unfold astimezone
  cases value.toUtc with
  | none => simp
  | some reading =>
    by_cases inside : InRange reading
    · simp only [if_pos inside, Except.ok.injEq, Option.some.injEq]
      constructor
      · rintro rfl
        exact ⟨rfl, inside⟩
      · exact fun held => held.1
    · simp only [if_neg inside, reduceCtorEq, false_iff, Option.some.injEq]
      rintro ⟨rfl, bounds⟩
      exact inside bounds

theorem astimezone_utc (inside : InRange at_) : (utc at_).astimezone = .ok at_ :=
  astimezone_ok_iff.mpr ⟨toUtc_utc at_, inside⟩

/-- `at + delta`. A datetime type that ends at `latest` raises `OverflowError`
beyond it; `none` leaves time unbounded. -/
def add (latest : Option Int) (at_ : Int) (delta : Int) : Except PyError Int :=
  match latest with
  | none => .ok (at_ + delta)
  | some last => if at_ + delta ≤ last then .ok (at_ + delta) else .error .overflow

/-- The sum stays inside the datetime range. -/
def Fits (latest : Option Int) (at_ : Int) (delta : Int) : Prop :=
  ∀ last, latest = some last → at_ + delta ≤ last

instance : Decidable (Fits latest at_ delta) :=
  match latest with
  | none => isTrue (by simp [Fits])
  | some last => decidable_of_iff (at_ + delta ≤ last) (by simp [Fits])

theorem add_of_fits (fits : Fits latest at_ delta) : add latest at_ delta = .ok (at_ + delta) := by
  cases latest with
  | none => rfl
  | some last => simp [add, fits last rfl]

theorem add_of_not_fits (beyond : ¬ Fits latest at_ delta) :
    add latest at_ delta = .error .overflow := by
  cases latest with
  | none => simp [Fits] at beyond
  | some last =>
    have late : ¬ at_ + delta ≤ last := by simpa [Fits] using beyond
    simp [add, late]

end Datetime

/-- A `(provider, model)` pair. -/
abbrev Key := String × String

instance lawfulKey : LawfulBEq Key := inferInstance

end ModelPilot
