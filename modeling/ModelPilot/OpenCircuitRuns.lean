import ModelPilot.ProbeRuns

/-! Open circuits in automatic routing. Health is evaluated when a request ranks
its candidates and again right before a call; an `OPEN` record whose cooldown
runs is skipped both times, unless the clock has stepped back behind the record, or
reads a time without a datetime in UTC: then the evaluation raises, and fail-open
routing takes the candidate. -/
namespace ModelPilot.GatewayRuns

variable {manager : Option ProviderHealthManager} {before after machine : Machine} {event : Event}
  {key : Key} {health : ProviderHealth} {reading : Datetime}

/-- The step evaluates the stored health of a pair at a reading of the clock. -/
def Evaluates (before : Machine) (event : Event) (key : Key) (reading : Datetime) : Prop :=
  match event with
  | .arrive _ candidates faults now => key ∈ candidates ∧ faults key = none ∧ now = reading
  | .probe id faults now =>
    (∃ ranked, before.requests.get? id = some (.ready (key :: ranked))) ∧
      faults key = none ∧ now = reading
  | _ => False

/-- The step ranks the pair, or starts a call for it. -/
def Takes (event : Event) (after : Machine) (key : Key) : Prop :=
  match event with
  | .arrive id _ _ _ => ∃ ranked, after.requests.get? id = some (.ready ranked) ∧ key ∈ ranked
  | .probe id _ _ => ∃ lease, after.InFlight id key lease
  | _ => False

/-- The stored record is `OPEN` and the reading is before its `cooldown_until`. -/
def CircuitOpen (machine : Machine) (key : Key) (reading : Datetime) : Prop :=
  ∃ health at_, machine.records.getHealth key = some health ∧ reading.toUtc = some at_ ∧
    health.Blocked at_

/-- The reading has not reached the stored record: it is before its `updated_at`, or has no
datetime in UTC. -/
def ClockBehind (machine : Machine) (key : Key) (reading : Datetime) : Prop :=
  ∃ health, machine.records.getHealth key = some health ∧ ¬ health.Reached reading

/-- The times of a record that decide on its circuit are datetimes. -/
structure InDatetimeRange (health : ProviderHealth) : Prop where
  updated : Datetime.InRange health.updatedAt
  cooldown : ∀ until_ ∈ health.cooldownUntil, Datetime.InRange until_

/-- Of a circuit that is open at a reading between datetimes, the reading is one. -/
theorem reached_of_inRange (inside : InDatetimeRange health) (aware : reading.toUtc = some at_)
    (blocked : health.Blocked at_) : health.Reached reading ↔ health.updatedAt ≤ at_ := by
  constructor
  · rintro ⟨other, converted, fresh⟩
    cases aware.symm.trans (Datetime.toUtc_of_inUtc converted)
    exact fresh
  · intro fresh
    obtain ⟨until_, deadline, before⟩ := (Option.any_eq_true _ _).mp blocked.2
    rw [decide_eq_true_eq] at before
    have bounds : Datetime.InRange at_ :=
      ⟨inside.updated.1.trans fresh, before.le.trans (inside.cooldown until_ deadline).2⟩
    exact ⟨at_, Datetime.inUtc_of_inRange aware bounds, fresh⟩

theorem clockBehind_stored (stored : machine.records.getHealth key = some health) :
    ClockBehind machine key reading ↔ ¬ health.Reached reading := by
  constructor
  · rintro ⟨other, found, unreached⟩
    rw [stored] at found
    cases found
    exact unreached
  · exact fun unreached => ⟨health, stored, unreached⟩

theorem mem_rankedKeys {evidence : Dict Key HealthEligibility} :
    key ∈ Machine.rankedKeys evidence ↔
      ∃ verdict, evidence.get? key = some verdict ∧ verdict.eligible = true := by
  simp only [Machine.rankedKeys, List.mem_map, List.mem_filter, Dict.get?_eq_some_iff]
  constructor
  · rintro ⟨⟨_, verdict⟩, ⟨member, eligible⟩, rfl⟩
    exact ⟨verdict, member, eligible⟩
  · rintro ⟨verdict, member, eligible⟩
    exact ⟨(key, verdict), ⟨member, eligible⟩, rfl⟩

theorem ready_resume {id : Nat} {ranked left : List Key} :
    (machine.resume id ranked).requests.get? id = some (.ready left) ↔
      ranked ≠ [] ∧ left = ranked := by
  unfold Machine.resume
  split
  · simp [Dict.get?_erase, *]
  · simp [*, eq_comm]

/-- A ranking at an aware reading keeps the candidates of eligible verdict. -/
theorem takes_arrive {id : Nat} {candidates : List Key} {faults : Key → Fault}
    (aware : reading.toUtc = some at_)
    (taken : step manager before (.arrive id candidates faults reading) = some after)
    (candidate : key ∈ candidates) :
    Takes (.arrive id candidates faults reading) after key ↔
      (healthVerdict (some (before.reads faults)) reading key).eligible = true := by
  simp only [step] at taken
  split at taken
  · cases taken
  cases taken
  obtain ⟨evidence, evaluated, verdicts⟩ :=
    evaluateHealth_aware (some (before.reads faults)) candidates aware
  have own := verdicts key
  rw [if_pos candidate] at own
  have ranked : key ∈ Machine.rankedKeys evidence ↔
      (healthVerdict (some (before.reads faults)) reading key).eligible = true := by
    rw [mem_rankedKeys, own]
    simp
  simp only [Takes, Machine.arrive, evaluated, ready_resume, ← ranked]
  constructor
  · rintro ⟨_, ⟨_, rfl⟩, member⟩
    exact member
  · intro member
    exact ⟨_, ⟨List.ne_nil_of_mem member, rfl⟩, member⟩

/-- An admission starts a call exactly when its evidence is eligible. -/
theorem takes_probe {id : Nat} {ranked : List Key} {faults : Key → Fault} {at_ : Int}
    (aware : reading.toUtc = some at_)
    (taken : step manager before (.probe id faults reading) = some after)
    (waiting : before.requests.get? id = some (.ready (key :: ranked)))
    (unneeded : ¬ (healthVerdict (some (before.reads faults)) reading key).NeedsProbe) :
    Takes (.probe id faults reading) after key ↔
      (healthVerdict (some (before.reads faults)) reading key).eligible = true := by
  simp only [step, waiting] at taken
  cases taken
  have admitted := admitProbe_aware (some (before.reads faults)) before.probes key aware
  rw [if_neg unneeded] at admitted
  simp only [Takes, Machine.probe, admitted]
  split
  · rename_i eligible
    simp only [eligible, iff_true]
    exact ⟨none, inFlight_start.mpr (.inl ⟨rfl, rfl, rfl⟩)⟩
  · rename_i refused
    constructor
    · rintro ⟨lease, calling⟩
      exact absurd rfl (inFlight_resume.mp calling).1
    · intro eligible
      exact absurd eligible refused

/-- A blocked pair is taken exactly when the clock has not reached its record. -/
theorem takes_blocked (taken : step manager before event = some after)
    (evaluates : Evaluates before event key reading) (opened : CircuitOpen before key reading) :
    Takes event after key ↔ ClockBehind before key reading := by
  obtain ⟨health, at_, stored, aware, blocked⟩ := opened
  rw [clockBehind_stored stored]
  cases event with
  | arrive id candidates faults now =>
    obtain ⟨candidate, succeed, rfl⟩ := evaluates
    have read := reads_stored before succeed
    rw [stored] at read
    rw [takes_arrive aware taken candidate, healthVerdict_blocked aware read blocked]
  | probe id faults now =>
    obtain ⟨⟨ranked, waiting⟩, succeed, rfl⟩ := evaluates
    have read := reads_stored before succeed
    rw [stored] at read
    have unneeded :
        ¬ (healthVerdict (some (before.reads faults)) now key).NeedsProbe := by
      rintro ⟨eligible, halfOpen⟩
      have unreached := (healthVerdict_blocked aware read blocked).mp eligible
      rw [(healthVerdict_read aware read).1, effectiveState_unreached unreached] at halfOpen
      cases halfOpen
    rw [takes_probe aware taken waiting unneeded, healthVerdict_blocked aware read blocked]
  | finish _ _ _ _ _ => cases evaluates
  | releaseAgain _ => cases evaluates

/-- Open circuits and automatic routing. `evaluate_health` reports a pair whose
record is `OPEN`, at a reading before its `cooldown_until`, as ineligible exactly
when the reading has reached the record, which for the times of datetimes says that it
is not before the record's `updated_at`; and a run never ranks such a pair nor starts a
call for it exactly when it never evaluates one at a reading that has not reached it. -/
theorem open_circuit_skipped_iff (manager : Option ProviderHealthManager) (origin : Machine)
    (events : List Event) :
    (∀ (reads : HealthReads) candidates key now at_ (health : ProviderHealth), key ∈ candidates →
      reads key = .ok (some health) → now.toUtc = some at_ → health.Blocked at_ →
      ∃ evidence verdict, evaluateHealth (some reads) candidates now = .ok evidence ∧
        evidence.get? key = some verdict ∧ (verdict.eligible = false ↔ health.Reached now) ∧
        (InDatetimeRange health → (verdict.eligible = false ↔ health.updatedAt ≤ at_))) ∧
    (∀ transitions, Runs.trace (step manager) origin events = some transitions →
      ((∀ before event after, (before, event, after) ∈ transitions → ∀ key reading,
          Evaluates before event key reading → CircuitOpen before key reading →
          ¬ Takes event after key) ↔
        ∀ before event after, (before, event, after) ∈ transitions → ∀ key reading,
          Evaluates before event key reading → CircuitOpen before key reading →
          ¬ ClockBehind before key reading)) ∧
    (∀ (machine : Machine) key reading at_ (health : ProviderHealth),
      machine.records.getHealth key = some health → reading.toUtc = some at_ →
      health.Blocked at_ → InDatetimeRange health →
      (ClockBehind machine key reading ↔ at_ < health.updatedAt)) := by
  refine ⟨fun reads candidates key now at_ health candidate read aware blocked => ?_,
    fun transitions ran => ?_,
    fun machine key reading at_ health stored aware blocked inside => ?_⟩
  · obtain ⟨evidence, evaluated, verdicts⟩ := evaluateHealth_aware (some reads) candidates aware
    have own := verdicts key
    rw [if_pos candidate] at own
    have decided : (healthVerdict (some reads) now key).eligible = false ↔ health.Reached now := by
      rw [← Bool.not_eq_true, healthVerdict_blocked aware read blocked, not_not]
    exact ⟨evidence, _, evaluated, own, decided,
      fun inside => decided.trans (reached_of_inRange inside aware blocked)⟩
  · have same : ∀ before event after, (before, event, after) ∈ transitions → ∀ key reading,
        Evaluates before event key reading → CircuitOpen before key reading →
        (¬ Takes event after key ↔ ¬ ClockBehind before key reading) :=
      fun before event after member key reading evaluates opened =>
        not_congr (takes_blocked (Runs.step_of_mem_trace ran member) evaluates opened)
    constructor
    · intro skips before event after member key reading evaluates opened
      exact (same before event after member key reading evaluates opened).mp
        (skips before event after member key reading evaluates opened)
    · intro fresh before event after member key reading evaluates opened
      exact (same before event after member key reading evaluates opened).mpr
        (fresh before event after member key reading evaluates opened)
  · rw [clockBehind_stored stored, reached_of_inRange inside aware blocked, not_le]

/-- An `OPEN` record updated at 10, its cooldown until 60. -/
def openRecord : ProviderHealth where
  provider := "p"
  model := "m"
  state := .opened
  consecutiveFailures := 3
  openedAt := some 0
  cooldownUntil := some 60
  updatedAt := 10
  valid := by decide

def cooling : Machine where
  records := HealthRecords.empty.upsertHealth openRecord
  clock := 10

/-- A request ranks its one candidate at 5. -/
def rankedOpen : Machine := cooling.arrive 0 [("p", "m")] (fun _ => none) (.utc 5)

/-- At 5, while the cooldown runs until 60, the pair is ranked and called. -/
theorem open_circuit_called :
    openRecord.Blocked 5 ∧
    (evaluateHealth (some fun _ => .ok (some openRecord)) [("p", "m")] (.utc 5)).toOption.bind
      (·.get? ("p", "m")) = some failOpen ∧
    Runs.trace (step none) cooling
        [.arrive 0 [("p", "m")] (fun _ => none) (.utc 5), .probe 0 (fun _ => none) (.utc 5)] =
      some [(cooling, .arrive 0 [("p", "m")] (fun _ => none) (.utc 5), rankedOpen),
        (rankedOpen, .probe 0 (fun _ => none) (.utc 5),
          rankedOpen.probe 0 ("p", "m") [] (fun _ => none) (.utc 5))] ∧
    (rankedOpen.probe 0 ("p", "m") [] (fun _ => none) (.utc 5)).InFlight 0 ("p", "m") none :=
  ⟨by decide, by decide, rfl, [], rfl⟩

end ModelPilot.GatewayRuns
