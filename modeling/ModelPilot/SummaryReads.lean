import ModelPilot.DecimalArithmetic
import ModelPilot.Interleavings
import ModelPilot.MetricsSummary
import ModelPilot.MetricsWindow

/-! A summary rests on one moment of the call exactly when the writes between its
statements do not show: no decision in the window follows an attempt in it before the
decisions are counted, and the costs added before they are read leave the total
alone. -/
namespace ModelPilot.MetricsStore
open BenchmarkStore (statement)

variable {database next : Database} {write : Write} {writes later : List Write}
  {since until_ : Datetime} {low high : String} {total : Option ℚ}

section Writes

/-- A row holds the decision: its time is the decision's, as text. -/
def DecisionStored (row : DecisionRow) (decision : RoutingDecision) : Prop :=
  Timestamps.serializeDatetime decision.createdAt = .ok row.createdAt

theorem DecisionStored.of_encode {row : DecisionRow} {decision : RoutingDecision}
    (encoded : encodeDecision decision = .ok row) : DecisionStored row decision := by
  obtain ⟨createdAt, serialized, made⟩ := bind_ok_iff.mp encoded
  cases made
  exact serialized

theorem recordRoutingDecision_rows {fault : Nat → Option PyError} {rows after : List DecisionRow}
    {decision : RoutingDecision}
    (recorded : recordRoutingDecision fault rows decision = (.ok (), after)) :
    ∃ row, after = rows ++ [row] ∧ encodeDecision decision = .ok row ∧
      ∀ other ∈ rows, other.requestId ≠ row.requestId := by
  unfold recordRoutingDecision at recorded
  cases ran : decisionTransaction fault rows decision with
  | error error =>
    rw [ran] at recorded
    cases recorded
  | ok inserted =>
    rw [ran] at recorded
    cases recorded
    obtain ⟨_, ran⟩ := then_ok_iff.mp ran
    obtain ⟨row, encoded, ran⟩ := bind_ok_iff.mp ran
    obtain ⟨_, ran⟩ := then_ok_iff.mp ran
    obtain ⟨inserted, added, ran⟩ := bind_ok_iff.mp ran
    obtain ⟨_, done⟩ := then_ok_iff.mp ran
    cases done
    unfold insertDecision at added
    split at added
    · cases added
    split at added
    · cases added
    rename_i fresh
    cases added
    refine ⟨row, rfl, encoded, fun other member same => fresh ?_⟩
    exact List.any_eq_true.mpr ⟨other, member, by simpa using same⟩

/-- What a write that commits does: one row more, in one of the tables. -/
theorem commit_cases (committed : database.commit write = some next) :
    (∃ attempt row, write = .attempt attempt ∧ Stored row attempt ∧
      next = { database with attempts := database.attempts ++ [row] }) ∨
    ∃ decision row, write = .decision decision ∧ DecisionStored row decision ∧
      next = { database with decisions := database.decisions ++ [row] } := by
  cases write with
  | attempt attempt =>
    left
    dsimp only [Database.commit] at committed
    rcases recordAttempt_rows (fun _ => none) database.attempts attempt with
      ⟨error, kept⟩ | ⟨row, added, stored, _⟩
    · rw [kept] at committed
      cases committed
    · rw [added] at committed
      cases committed
      exact ⟨attempt, row, rfl, stored, rfl⟩
  | decision decision =>
    right
    dsimp only [Database.commit] at committed
    cases ran : recordRoutingDecision (fun _ => none) database.decisions decision with
    | mk outcome after =>
      rw [ran] at committed
      cases outcome with
      | error error => cases committed
      | ok done =>
        cases committed
        obtain ⟨row, rfl, encoded, _⟩ := recordRoutingDecision_rows ran
        exact ⟨decision, row, rfl, .of_encode encoded, rfl⟩

end Writes

section Window

/-- A time in the window. -/
def within (since until_ at_ : Datetime) : Bool := !precedes at_ since && !precedes until_ at_

/-- The write adds an attempt in the window. -/
def Write.attemptWithin (since until_ : Datetime) : Write → Bool
  | .attempt record => within since until_ (.utc record.finishedAt)
  | .decision _ => false

/-- The write adds a decision in the window. -/
def Write.decisionWithin (since until_ : Datetime) : Write → Bool
  | .attempt _ => false
  | .decision record => within since until_ record.createdAt

/-- The cost of the attempt in the window that the write adds. -/
def Write.costWithin (since until_ : Datetime) : Write → Option ℚ
  | .attempt record =>
    if within since until_ (.utc record.finishedAt) then record.estimatedCost else none
  | .decision _ => none

/-- The window, as SQL compares it. -/
theorem within_iff {at_ : Datetime} {text : String}
    (lower : Timestamps.serializeDatetime since = .ok low)
    (upper : Timestamps.serializeDatetime until_ = .ok high)
    (serialized : Timestamps.serializeDatetime at_ = .ok text) :
    within since until_ at_ = true ↔ low ≤ text ∧ text ≤ high := by
  obtain ⟨first, firstUtc, firstInside, rfl⟩ := Timestamps.serializeDatetime_ok_iff.mp lower
  obtain ⟨last, lastUtc, lastInside, rfl⟩ := Timestamps.serializeDatetime_ok_iff.mp upper
  obtain ⟨moment, momentUtc, momentInside, rfl⟩ := Timestamps.serializeDatetime_ok_iff.mp serialized
  rw [Timestamps.isoformat_le_iff firstInside momentInside,
    Timestamps.isoformat_le_iff momentInside lastInside]
  unfold within precedes
  rw [firstUtc, lastUtc, momentUtc]
  simp

end Window

section Growth

/-- What some writes add to the rows in a window. -/
structure Grown (since until_ : Datetime) (low high : String) (writes : List Write)
    (before after : Database) : Prop where
  attempts : ∃ added, attemptsBetween after.attempts low high =
      attemptsBetween before.attempts low high ++ added ∧
    added.length = writes.countP (Write.attemptWithin since until_) ∧
    added.filterMap (·.estimatedCost) = writes.filterMap (Write.costWithin since until_)
  decisions : (decisionsBetween after.decisions low high).length =
    (decisionsBetween before.decisions low high).length +
      writes.countP (Write.decisionWithin since until_)

theorem Grown.refl (database : Database) : Grown since until_ low high [] database database :=
  ⟨⟨[], by simp, rfl, rfl⟩, rfl⟩

theorem Grown.trans {middle after : Database}
    (first : Grown since until_ low high writes database middle)
    (second : Grown since until_ low high later middle after) :
    Grown since until_ low high (writes ++ later) database after := by
  obtain ⟨added, rows, count, costs⟩ := first.attempts
  obtain ⟨more, moreRows, moreCount, moreCosts⟩ := second.attempts
  refine ⟨⟨added ++ more, ?_, ?_, ?_⟩, ?_⟩
  · rw [moreRows, rows, List.append_assoc]
  · rw [List.length_append, List.countP_append, count, moreCount]
  · rw [List.filterMap_append, List.filterMap_append, costs, moreCosts]
  · rw [second.decisions, first.decisions, List.countP_append, Nat.add_assoc]

theorem commit_grown (lower : Timestamps.serializeDatetime since = .ok low)
    (upper : Timestamps.serializeDatetime until_ = .ok high)
    (committed : database.commit write = some next) :
    Grown since until_ low high [write] database next := by
  rcases commit_cases committed with
    ⟨attempt, row, rfl, stored, rfl⟩ | ⟨decision, row, rfl, stored, rfl⟩
  · have finished : Timestamps.serializeDatetime (.utc attempt.finishedAt) = .ok row.finishedAt :=
      serialize_ok_iff.mpr ⟨stored.finished, finishedAt_stored stored⟩
    have cost : row.estimatedCost = attempt.estimatedCost := by rw [stored.row]; rfl
    refine ⟨⟨[row].filter fun row => low ≤ row.finishedAt ∧ row.finishedAt ≤ high, ?_, ?_, ?_⟩, rfl⟩
    · exact List.filter_append _ _
    all_goals
      by_cases inside : within since until_ (.utc attempt.finishedAt) = true
      · have sql := (within_iff lower upper finished).mp inside
        simp [Write.attemptWithin, Write.costWithin, List.filterMap_cons, inside, sql, cost]
      · have sql := mt (within_iff lower upper finished).mpr inside
        simp [Write.attemptWithin, Write.costWithin, inside, sql]
  · refine ⟨⟨[], by simp, rfl, rfl⟩, ?_⟩
    unfold decisionsBetween
    rw [List.filter_append, List.length_append]
    congr 1
    by_cases inside : within since until_ decision.createdAt = true
    · have sql := (within_iff lower upper stored).mp inside
      simp [Write.decisionWithin, inside, sql]
    · have sql := mt (within_iff lower upper stored).mpr inside
      simp [Write.decisionWithin, inside, sql]

theorem commitAll_cons (database : Database) (write : Write) (writes : List Write) :
    database.commitAll (write :: writes) =
      (database.commit write).bind fun next => next.commitAll writes := rfl

theorem commitAll_append_iff {after : Database} :
    database.commitAll (writes ++ later) = some after ↔
      ∃ middle, database.commitAll writes = some middle ∧ middle.commitAll later = some after := by
  unfold Database.commitAll
  rw [List.foldlM_append]
  exact Option.bind_eq_some_iff

theorem commitAll_grown (lower : Timestamps.serializeDatetime since = .ok low)
    (upper : Timestamps.serializeDatetime until_ = .ok high) {after : Database}
    (committed : database.commitAll writes = some after) :
    Grown since until_ low high writes database after := by
  induction writes generalizing database with
  | nil =>
    cases committed
    exact .refl _
  | cons write rest ih =>
    rw [commitAll_cons] at committed
    obtain ⟨next, first, others⟩ := Option.bind_eq_some_iff.mp committed
    exact (commit_grown lower upper first).trans (ih others)

/-- Two states of one course with equally many attempts in the window have the same. -/
theorem attempts_of_count (lower : Timestamps.serializeDatetime since = .ok low)
    (upper : Timestamps.serializeDatetime until_ = .ok high) {first second : Database}
    {early : List Write} (part : early <+: writes)
    (one : database.commitAll early = some first) (other : database.commitAll writes = some second)
    (count : early.countP (Write.attemptWithin since until_) =
      writes.countP (Write.attemptWithin since until_)) :
    attemptsBetween second.attempts low high = attemptsBetween first.attempts low high := by
  obtain ⟨rest, rfl⟩ := part
  obtain ⟨middle, reached, others⟩ := commitAll_append_iff.mp other
  cases one.symm.trans reached
  obtain ⟨added, rows, number, _⟩ := (commitAll_grown lower upper others).attempts
  rw [List.countP_append] at count
  have none : added = [] := List.eq_nil_of_length_eq_zero (by omega)
  rw [rows, none, List.append_nil]

end Growth

section Totals

variable {early costs : List ℚ}

theorem totalCost_none_iff : totalCost costs = .ok none ↔ costs = [] := by
  unfold totalCost
  by_cases empty : costs = []
  · simp [empty]
  · cases added : costs.foldlM addCost 0 <;> simp [empty, Except.map]

theorem totalCost_some_iff {sum : ℚ} :
    totalCost costs = .ok (some sum) ↔ costs ≠ [] ∧ costs.foldlM addCost 0 = .ok sum := by
  unfold totalCost
  by_cases empty : costs = []
  · simp [empty]
  · simp [empty, map_ok_iff]

/-- Costs that leave the total alone one by one leave it alone together. -/
theorem totalCost_of_still (counted : totalCost (early ++ costs) = .ok total)
    (still : ∀ cost ∈ costs, ∃ sum, totalCost early = .ok (some sum) ∧ addCost sum cost = .ok sum) :
    totalCost early = .ok total := by
  cases costs with
  | nil => rwa [List.append_nil] at counted
  | cons cost rest =>
    obtain ⟨sum, before, _⟩ := still cost List.mem_cons_self
    obtain ⟨priced, added⟩ := totalCost_some_iff.mp before
    have kept : (cost :: rest).foldlM addCost sum = .ok sum :=
      Interleavings.foldlM_stays fun other member => by
        obtain ⟨_, same, stays⟩ := still other member
        cases before.symm.trans same
        exact stays
    have together : totalCost (early ++ cost :: rest) = .ok (some sum) := by
      rw [totalCost_some_iff, List.foldlM_append, added]
      exact ⟨List.append_ne_nil_of_left_ne_nil priced _, kept⟩
    rw [before, ← together, counted]

/-- The total stays only when each of the costs leaves it alone: a cost is not
negative, and rounding does not undercut a total. -/
theorem still_of_totalCost_append (nonneg : ∀ cost ∈ costs, 0 ≤ cost)
    (positive : ∀ sum ∈ total, 0 ≤ sum) (counted : totalCost early = .ok total)
    (also : totalCost (early ++ costs) = .ok total) :
    ∀ cost ∈ costs, ∃ sum, total = some sum ∧ addCost sum cost = .ok sum := by
  cases total with
  | none =>
    rw [totalCost_none_iff, List.append_eq_nil_iff] at also
    simp [also.2]
  | some sum =>
    obtain ⟨_, added⟩ := totalCost_some_iff.mp counted
    obtain ⟨_, more⟩ := totalCost_some_iff.mp also
    rw [List.foldlM_append, added] at more
    have rises : ∀ cost ∈ costs, ∀ value next, (0 ≤ value ∧ Decimal.Representable value) →
        addCost value cost = .ok next →
        value ≤ next ∧ (0 ≤ next ∧ Decimal.Representable next) := by
      rintro cost member value next ⟨least, held⟩ fixed
      have below := Decimal.le_fix held least (le_add_of_nonneg_right (nonneg cost member)) fixed
      exact ⟨below, least.trans below, Decimal.fix_representable fixed⟩
    have begins : 0 ≤ sum ∧ Decimal.Representable sum :=
      ⟨positive sum rfl, (foldlM_addCost_held Decimal.held_zero added).1⟩
    exact fun cost member =>
      ⟨sum, rfl, Interleavings.stays_of_foldlM rises begins more cost member⟩

theorem costWithin_nonneg {cost : ℚ}
    (member : cost ∈ writes.filterMap (Write.costWithin since until_)) : 0 ≤ cost := by
  obtain ⟨write, _, priced⟩ := List.mem_filterMap.mp member
  cases write with
  | decision record => cases priced
  | attempt record =>
    dsimp only [Write.costWithin] at priced
    split at priced
    · have valid := record.valid
      simp only [AttemptFields.check, then_ok_iff, require_ok_iff, checkSome_ok_iff] at valid
      exact valid.2.2.2.2.1 cost priced
    · cases priced

end Totals

section Summary

variable {float : Rounding} {average : List ℚ → ℚ} {first second third : Database}
  {summary : MetricsSummary float}

theorem validateSummary_ok_iff {fields : SummaryFields} :
    validateSummary fields = .ok summary ↔ summary.toSummaryFields = fields := by
  unfold validateSummary
  split
  · rename_i valid
    rw [Except.ok.injEq]
    constructor
    · rintro rfl
      rfl
    · rintro rfl
      rfl
  · rename_i refused
    constructor
    · intro done
      cases done
    · rintro rfl
      rw [summary.valid] at refused
      cases refused

/-- The costs in the window. -/
def Database.costsBetween (database : Database) (low high : String) : List ℚ :=
  (attemptsBetween database.attempts low high).filterMap (·.estimatedCost)

/-- The total cost of the window in a state. -/
def Database.totalBetween (database : Database) (since until_ : Datetime) :
    Except PyError (Option ℚ) := do
  let low ← Timestamps.serializeDatetime since
  let high ← Timestamps.serializeDatetime until_
  totalCost (database.costsBetween low high)

theorem totalBetween_eq (lower : Timestamps.serializeDatetime since = .ok low)
    (upper : Timestamps.serializeDatetime until_ = .ok high) (database : Database) :
    database.totalBetween since until_ = totalCost (database.costsBetween low high) := by
  unfold Database.totalBetween
  rw [lower, upper]
  rfl

theorem getMetricsSummary_ok_iff :
    getMetricsSummary float average since until_ first second third = .ok summary ↔
      ∃ low high, Timestamps.serializeDatetime since = .ok low ∧
        Timestamps.serializeDatetime until_ = .ok high ∧ precedes until_ since = false ∧
        totalCost (third.costsBetween low high) = .ok summary.estimatedTotalCost ∧
        summary.toSummaryFields = summaryFields float average since until_
          (attemptsBetween first.attempts low high) (decisionsBetween second.decisions low high)
          summary.estimatedTotalCost := by
  unfold getMetricsSummary
  simp only [bind_ok_iff]
  constructor
  · rintro ⟨low, lower, high, upper, read⟩
    split at read
    · cases read
    · rename_i ordered
      obtain ⟨total, counted, validated⟩ := bind_ok_iff.mp read
      have fields := validateSummary_ok_iff.mp validated
      have same : summary.estimatedTotalCost = total := by rw [fields]; rfl
      subst same
      exact ⟨low, high, lower, upper, Bool.eq_false_iff.mpr ordered, counted, fields⟩
  · rintro ⟨low, high, lower, upper, ordered, counted, fields⟩
    refine ⟨low, lower, high, upper, ?_⟩
    rw [if_neg (Bool.eq_false_iff.mp ordered)]
    exact bind_ok_iff.mpr ⟨_, counted, validateSummary_ok_iff.mpr fields⟩

theorem Grown.costs {before after : Database}
    (grown : Grown since until_ low high writes before after) :
    after.costsBetween low high =
      before.costsBetween low high ++ writes.filterMap (Write.costWithin since until_) := by
  obtain ⟨added, rows, _, costs⟩ := grown.attempts
  rw [Database.costsBetween, rows, List.filterMap_append, costs]
  rfl

/-- The course, statement by statement. -/
theorem Interleaving.summary_eq_some_iff {course : Interleaving}
    {result : Except PyError (MetricsSummary float)} :
    course.summary float average since until_ = some result ↔
      ∃ first second third last, course.start.commitAll course.beforeAttempts = some first ∧
        first.commitAll course.beforeDecisions = some second ∧
        second.commitAll course.beforeCosts = some third ∧
        third.commitAll course.afterCosts = some last ∧
        getMetricsSummary float average since until_ first second third = result := by
  unfold Interleaving.summary
  simp only [Option.bind_eq_bind, Option.bind_eq_some_iff, Option.some.injEq]
  constructor
  · rintro ⟨first, one, second, two, third, three, last, four, same⟩
    exact ⟨first, second, third, last, one, two, three, four, same⟩
  · rintro ⟨first, second, third, last, one, two, three, four, same⟩
    exact ⟨first, one, second, two, third, three, last, four, same⟩

/-- The writes of a course do not show in its summary. -/
structure Interleaving.Untorn (since until_ : Datetime) (course : Interleaving) : Prop where
  ordered : course.beforeDecisions.Pairwise fun earlier later =>
    ¬ (earlier.attemptWithin since until_ = true ∧ later.decisionWithin since until_ = true)
  absorbed : ∀ first, course.start.commitAll course.beforeAttempts = some first →
    ∀ cost ∈ (course.beforeDecisions ++ course.beforeCosts).filterMap
        (Write.costWithin since until_),
      ∃ total, first.totalBetween since until_ = .ok (some total) ∧ addCost total cost = .ok total

theorem attemptWithin_apart (write : Write) (attempt : write.attemptWithin since until_ = true) :
    write.decisionWithin since until_ = false := by
  cases write with
  | attempt record => rfl
  | decision record => cases attempt

/-- The summaries of two states agree when their attempts, decisions and totals do, and
only then do their counts. -/
theorem summaryFields_counts {attempts others : List AttemptRow}
    {decisions others' : List DecisionRow} {sum : Option ℚ}
    (same : summaryFields float average since until_ attempts decisions total =
      summaryFields float average since until_ others others' sum) :
    attempts.length = others.length ∧ decisions.length = others'.length ∧ total = sum := by
  have attemptCount := congrArg SummaryFields.attemptCount same
  have decisionCount := congrArg SummaryFields.routingDecisionCount same
  have totals := congrArg SummaryFields.estimatedTotalCost same
  exact ⟨Int.ofNat_inj.mp attemptCount, Int.ofNat_inj.mp decisionCount, totals⟩

theorem summaryFields_congr {attempts : List AttemptRow} {decisions others : List DecisionRow}
    (count : decisions.length = others.length) :
    summaryFields float average since until_ attempts decisions total =
      summaryFields float average since until_ attempts others total := by
  unfold summaryFields
  rw [count]

variable {course : Interleaving}

theorem writes_begin (course : Interleaving) : course.beforeAttempts <+: course.writes :=
  ⟨course.beforeDecisions ++ (course.beforeCosts ++ course.afterCosts),
    (List.append_assoc _ _ _).symm⟩

/-- A state of the course with as many attempts in the window as the first statement
finds has just those. -/
theorem attempts_of_length (lower : Timestamps.serializeDatetime since = .ok low)
    (upper : Timestamps.serializeDatetime until_ = .ok high)
    (one : course.start.commitAll course.beforeAttempts = some first)
    (existed : course.Existed database)
    (count : (attemptsBetween database.attempts low high).length =
      (attemptsBetween first.attempts low high).length) :
    attemptsBetween database.attempts low high = attemptsBetween first.attempts low high := by
  obtain ⟨committed, part, reached⟩ := existed
  obtain ⟨added, rows, number, _⟩ := (commitAll_grown lower upper reached).attempts
  obtain ⟨others, otherRows, otherNumber, _⟩ := (commitAll_grown lower upper one).attempts
  have seen : committed.countP (Write.attemptWithin since until_) =
      course.beforeAttempts.countP (Write.attemptWithin since until_) := by
    rw [rows, otherRows, List.length_append, List.length_append] at count
    omega
  rcases List.prefix_or_prefix_of_prefix part (writes_begin course) with early | late
  · exact (attempts_of_count lower upper early reached one seen).symm
  · exact attempts_of_count lower upper late one reached seen.symm

/-- The states of the course that count the attempts of the first statement and the
decisions of the second. -/
theorem exists_state_iff (lower : Timestamps.serializeDatetime since = .ok low)
    (upper : Timestamps.serializeDatetime until_ = .ok high) {last : Database}
    (one : course.start.commitAll course.beforeAttempts = some first)
    (two : first.commitAll course.beforeDecisions = some second)
    (rest : second.commitAll (course.beforeCosts ++ course.afterCosts) = some last) :
    (∃ database, course.Existed database ∧
      (attemptsBetween database.attempts low high).length =
        (attemptsBetween first.attempts low high).length ∧
      (decisionsBetween database.decisions low high).length =
        (decisionsBetween second.decisions low high).length) ↔
    course.beforeDecisions.Pairwise fun earlier later =>
      ¬ (earlier.attemptWithin since until_ = true ∧ later.decisionWithin since until_ = true) := by
  rw [← Interleavings.exists_moment_iff course.beforeAttempts _
    (course.beforeCosts ++ course.afterCosts) attemptWithin_apart]
  have both := commitAll_append_iff.mpr ⟨first, one, two⟩
  have all := commitAll_append_iff.mpr ⟨second, both, rest⟩
  have grownFirst := commitAll_grown lower upper one
  have grownSecond := commitAll_grown lower upper both
  -- a state is counted by the writes that lead to it
  have counts {committed : List Write} {database : Database}
      (reached : course.start.commitAll committed = some database) :
      ((attemptsBetween database.attempts low high).length =
          (attemptsBetween first.attempts low high).length ↔
        committed.countP (Write.attemptWithin since until_) =
          course.beforeAttempts.countP (Write.attemptWithin since until_)) ∧
      ((decisionsBetween database.decisions low high).length =
          (decisionsBetween second.decisions low high).length ↔
        committed.countP (Write.decisionWithin since until_) =
          (course.beforeAttempts ++ course.beforeDecisions).countP
            (Write.decisionWithin since until_)) := by
    have grown := commitAll_grown lower upper reached
    obtain ⟨added, rows, count, _⟩ := grown.attempts
    obtain ⟨others, otherRows, otherCount, _⟩ := grownFirst.attempts
    rw [rows, otherRows, List.length_append, List.length_append, grown.decisions,
      grownSecond.decisions, count, otherCount]
    omega
  constructor
  · rintro ⟨database, ⟨committed, part, reached⟩, attempts, decisions⟩
    exact ⟨committed, part, (counts reached).1.mp attempts, (counts reached).2.mp decisions⟩
  · rintro ⟨committed, ⟨remaining, whole⟩, seen, counted⟩
    rw [← whole] at all
    obtain ⟨database, reached, _⟩ := commitAll_append_iff.mp all
    exact ⟨database, ⟨committed, ⟨remaining, whole⟩, reached⟩, (counts reached).1.mpr seen,
      (counts reached).2.mpr counted⟩

/-- A summary is that of one state of the database during the call exactly when no
decision in the window follows an attempt in it between the first two statements, and
the costs of the attempts in the window that come before the third leave the total
alone. -/
theorem summary_of_one_state_iff
    (read : course.summary float average since until_ = some (.ok summary)) :
    (∃ database, course.Existed database ∧
      getMetricsSummary float average since until_ database database database = .ok summary) ↔
    course.Untorn since until_ := by
  obtain ⟨first, second, third, last, one, two, three, four, made⟩ :=
    Interleaving.summary_eq_some_iff.mp read
  obtain ⟨low, high, lower, upper, ordered, counted, fields⟩ := getMetricsSummary_ok_iff.mp made
  have states := exists_state_iff lower upper one two
    (commitAll_append_iff.mpr ⟨third, three, four⟩)
  have costs := ((commitAll_grown lower upper two).trans (commitAll_grown lower upper three)).costs
  rw [costs] at counted
  have nonneg : ∀ sum ∈ summary.estimatedTotalCost, 0 ≤ sum := by
    have valid := summary.valid
    simp only [SummaryFields.check, then_ok_iff, checkSome_ok_iff, MetricsFields.checkNonneg,
      require_ok_iff] at valid
    exact fun sum held => valid.2.2.2.2.2.2.2.1 sum held
  constructor
  · rintro ⟨database, existed, alone⟩
    obtain ⟨_, _, alsoLower, alsoUpper, _, total, single⟩ := getMetricsSummary_ok_iff.mp alone
    cases lower.symm.trans alsoLower
    cases upper.symm.trans alsoUpper
    obtain ⟨attempts, decisions, _⟩ := summaryFields_counts (single.symm.trans fields)
    rw [Database.costsBetween, attempts_of_length lower upper one existed attempts] at total
    refine ⟨states.mp ⟨database, existed, attempts, decisions⟩, fun start begun cost member => ?_⟩
    cases one.symm.trans begun
    obtain ⟨sum, same, stays⟩ := still_of_totalCost_append
      (fun cost member => costWithin_nonneg member) nonneg total counted cost member
    exact ⟨sum, by rw [totalBetween_eq lower upper, ← same]; exact total, stays⟩
  · intro untorn
    obtain ⟨database, existed, count, decisions⟩ := states.mpr untorn.ordered
    have attempts := attempts_of_length lower upper one existed count
    refine ⟨database, existed, getMetricsSummary_ok_iff.mpr ?_⟩
    refine ⟨low, high, lower, upper, ordered, ?_, ?_⟩
    · rw [Database.costsBetween, attempts]
      refine totalCost_of_still counted fun cost member => ?_
      obtain ⟨sum, before, stays⟩ := untorn.absorbed first one cost member
      rw [totalBetween_eq lower upper] at before
      exact ⟨sum, before, stays⟩
    · rw [attempts, summaryFields_congr decisions]
      exact fields

end Summary

section Courses

/-- The mean of a group. -/
def mean (values : List ℚ) : ℚ := values.sum / values.length

/-- A priced attempt that commits between the first two statements. -/
def lateAttempt : Interleaving := { start := {}, beforeDecisions := [.attempt loneAttempt] }

private theorem lateAttempt_fields :
    (lateAttempt.summary .exact mean (.utc 0) (.utc 3000000)).map
      (·.toOption.map (·.toSummaryFields)) =
    some (some
      { since := .utc 0, until_ := .utc 3000000, requestCount := 0, attemptCount := 0
        successCount := 0, failureCount := 0, estimatedTotalCost := some (1 / 1000)
        providersCount := 0, modelsCount := 0, routingDecisionCount := 0 }) := by
  decide +kernel

/-- Its cost is in the summary of no attempts. -/
theorem late_attempt_summary : ∃ summary : MetricsSummary .exact,
    lateAttempt.summary .exact mean (.utc 0) (.utc 3000000) = some (.ok summary) ∧
    ¬ ∃ database, lateAttempt.Existed database ∧
      getMetricsSummary .exact mean (.utc 0) (.utc 3000000) database database database =
        .ok summary := by
  obtain ⟨result, read, made⟩ := Option.map_eq_some_iff.mp lateAttempt_fields
  obtain ⟨summary, rfl, fields⟩ :
      ∃ summary, result = .ok summary ∧ summary.toSummaryFields = _ := by
    cases result with
    | error error => cases made
    | ok summary => exact ⟨summary, rfl, Option.some.inj made⟩
  refine ⟨summary, read, ?_⟩
  rintro ⟨database, _, alone⟩
  obtain ⟨low, high, _, _, _, total, single⟩ := getMetricsSummary_ok_iff.mp alone
  have none : (0 : Int) = (attemptsBetween database.attempts low high).length :=
    congrArg SummaryFields.attemptCount (fields.symm.trans single)
  have priced : summary.estimatedTotalCost = some (1 / 1000) :=
    congrArg SummaryFields.estimatedTotalCost fields
  rw [priced] at total
  have empty : attemptsBetween database.attempts low high = [] :=
    List.eq_nil_of_length_eq_zero (by omega)
  apply (totalCost_some_iff.mp total).1
  rw [Database.costsBetween, empty, List.filterMap_nil]

private theorem unpriced_valid : (attemptFields "r2" "gpt" 2500000 900 none).check = .ok () :=
  attemptFields_valid (by simp) (by simp) (by norm_num) (by simp)

private theorem free_valid : (attemptFields "r3" "mini" 2600000 700 (some 0)).check = .ok () :=
  attemptFields_valid (by simp) (by simp) (by norm_num) (by simp)

private theorem priced_valid :
    (attemptFields "r4" "gpt" 2700000 800 (some (1 / 500))).check = .ok () :=
  attemptFields_valid (by simp) (by simp) (by norm_num) (by norm_num)

/-- A priced attempt that commits before the first statement; an unpriced one, a free one and
a priced one that commit before the second, before the third and after it. -/
def earlyAttempt : Interleaving where
  start := {}
  beforeAttempts := [.attempt loneAttempt]
  beforeDecisions := [.attempt ⟨_, unpriced_valid⟩]
  beforeCosts := [.attempt ⟨_, free_valid⟩]
  afterCosts := [.attempt ⟨_, priced_valid⟩]

private theorem earlyAttempt_reads :
    (earlyAttempt.summary .exact mean (.utc 0) (.utc 3000000)).map
      (·.toOption.map fun summary => (summary.attemptCount, summary.estimatedTotalCost)) =
      some (some (1, some (1 / 1000))) := by
  decide +kernel

private theorem earlyAttempt_costs :
    (earlyAttempt.beforeDecisions ++ earlyAttempt.beforeCosts).filterMap
      (Write.costWithin (.utc 0) (.utc 3000000)) = [0] := by
  decide +kernel

private theorem earlyAttempt_total :
    (earlyAttempt.start.commitAll earlyAttempt.beforeAttempts).map
      (·.totalBetween (.utc 0) (.utc 3000000)) = some (.ok (some (1 / 1000))) := by
  decide +kernel

private theorem earlyAttempt_untorn : earlyAttempt.Untorn (.utc 0) (.utc 3000000) := by
  refine ⟨List.pairwise_singleton _ _, fun first begun cost member => ?_⟩
  rw [earlyAttempt_costs, List.mem_singleton] at member
  have total := earlyAttempt_total
  rw [begun, Option.map_some, Option.some.injEq] at total
  subst member
  exact ⟨_, total, by decide +kernel⟩

/-- It is counted with its cost, and the three others are not. -/
theorem early_attempt_summary : ∃ summary : MetricsSummary .exact,
    earlyAttempt.summary .exact mean (.utc 0) (.utc 3000000) = some (.ok summary) ∧
    (summary.attemptCount, summary.estimatedTotalCost) = (1, some (1 / 1000)) ∧
    ∃ database, earlyAttempt.Existed database ∧
      getMetricsSummary .exact mean (.utc 0) (.utc 3000000) database database database =
        .ok summary := by
  obtain ⟨result, read, made⟩ := Option.map_eq_some_iff.mp earlyAttempt_reads
  cases result with
  | error error => cases made
  | ok summary =>
    exact ⟨summary, read, Option.some.inj made,
      (summary_of_one_state_iff read).mpr earlyAttempt_untorn⟩

end Courses

end ModelPilot.MetricsStore
