import ModelPilot.BenchmarkStoreProofs
import ModelPilot.RecentLists
import ModelPilot.SummaryReads

/-! Stored timestamps sort as time. Whatever the offsets of two datetimes are, their
texts compare as their instants do, so every statement that filters or orders by a
timestamp column selects and orders rows by the instants in it. -/
namespace ModelPilot.Timestamps

/-- The instant that a stored timestamp reads back as. -/
def instantOf (text : String) : Int :=
  match fromisoformat text with
  | .ok value => value.toUtc.getD 0
  | .error _ => 0

theorem instantOf_isoformat (inside : Datetime.InRange at_) : instantOf (isoformat at_) = at_ := by
  rw [instantOf, fromisoformat_isoformat inside]
  simp

/-- A text is the stored form of an instant. -/
structure Holds (text : String) (at_ : Int) : Prop where
  inside : Datetime.InRange at_
  text : text = isoformat at_

variable {value : Datetime} {text other : String} {at_ moment : Int}

theorem holds_of_serialize (serialized : serializeDatetime value = .ok text)
    (utc : value.toUtc = some at_) : Holds text at_ := by
  obtain ⟨moment, momentUtc, inside, rfl⟩ := serializeDatetime_ok_iff.mp serialized
  cases utc.symm.trans momentUtc
  exact ⟨inside, rfl⟩

namespace Holds

theorem instant (holds : Holds text at_) : instantOf text = at_ := by
  rw [holds.text, instantOf_isoformat holds.inside]

theorem le_iff (holds : Holds text at_) (also : Holds other moment) :
    text ≤ other ↔ at_ ≤ moment := by
  rw [holds.text, also.text, isoformat_le_iff holds.inside also.inside]

end Holds

/-! ### Columns -/

/-- Every row holds an instant in the column. -/
def Timed (column : ρ → String) (rows : List ρ) : Prop := ∀ row ∈ rows, ∃ at_, Holds (column row) at_

section Columns
variable {ρ κ : Type*} [LinearOrder κ] {column : ρ → String} {tie : ρ → κ} {rows : List ρ}
  {keep : ρ → Bool} {low high : String} {since until_ : Int}

theorem Timed.filter (timed : Timed column rows) : Timed column (rows.filter keep) :=
  fun row member => timed row (List.mem_of_mem_filter member)

theorem Timed.alike (timed : Timed column rows) (a : ρ) (first : a ∈ rows) (b : ρ)
    (second : b ∈ rows) :
    column a ≤ column b ↔ instantOf (column a) ≤ instantOf (column b) := by
  obtain ⟨_, holds⟩ := timed a first
  obtain ⟨_, also⟩ := timed b second
  rw [holds.le_iff also, holds.instant, also.instant]

/-- A lower bound on the text is one on the instant. -/
theorem Timed.lower (timed : Timed column rows) (bound : Holds low since) {row : ρ}
    (member : row ∈ rows) : low ≤ column row ↔ since ≤ instantOf (column row) := by
  obtain ⟨_, holds⟩ := timed row member
  rw [bound.le_iff holds, holds.instant]

theorem Timed.upper (timed : Timed column rows) (bound : Holds high until_) {row : ρ}
    (member : row ∈ rows) : column row ≤ high ↔ instantOf (column row) ≤ until_ := by
  obtain ⟨_, holds⟩ := timed row member
  rw [holds.le_iff bound, holds.instant]

/-- `WHERE column >= low AND column <= high`. -/
theorem Timed.between (timed : Timed column rows) (lower : Holds low since)
    (upper : Holds high until_) :
    rows.filter (fun row => low ≤ column row ∧ column row ≤ high) =
      rows.filter fun row => since ≤ instantOf (column row) ∧ instantOf (column row) ≤ until_ := by
  apply List.filter_congr
  intro row member
  simp only [timed.lower lower member, timed.upper upper member]

end Columns

/-- The texts `x` and `y` of two datetimes compare as their instants `s` and `t` do,
and read back as them. -/
structure SortAsTime (a b : Datetime) (s t : Int) (x y : String) : Prop where
  first : serializeDatetime a = .ok x
  second : serializeDatetime b = .ok y
  order : x ≤ y ↔ s ≤ t
  same : x = y ↔ s = t
  parsed : fromisoformat x = .ok (.utc s)
  validated : MetricsStore.readInstant x = .ok s

theorem sortAsTime {a b : Datetime} (first : a.toUtc = some s) (firstInside : Datetime.InRange s)
    (second : b.toUtc = some t) (secondInside : Datetime.InRange t) :
    SortAsTime a b s t (isoformat s) (isoformat t) where
  first := serializeDatetime_ok_iff.mpr ⟨s, first, firstInside, rfl⟩
  second := serializeDatetime_ok_iff.mpr ⟨t, second, secondInside, rfl⟩
  order := isoformat_le_iff firstInside secondInside
  same := ⟨isoformat_inj firstInside secondInside, congrArg isoformat⟩
  parsed := fromisoformat_isoformat firstInside
  validated := MetricsStore.readInstant_isoformat firstInside

end ModelPilot.Timestamps

namespace ModelPilot.MetricsStore
open Timestamps
open BenchmarkStore (Binds)

variable {limit : Int} {rows : List AttemptRow} {decisions : List DecisionRow} {row : DecisionRow}
  {decision : RoutingDecision}

/-! ### Attempts -/

theorem Stored.finishedHolds {row : AttemptRow} {attempt : AttemptRecord}
    (stored : Stored row attempt) : Holds row.finishedAt attempt.finishedAt :=
  ⟨stored.finished, finishedAt_stored stored⟩

theorem Sound.timed (sound : Sound rows) : Timed (·.finishedAt) rows := by
  intro row member
  obtain ⟨_, stored⟩ := sound.stored row member
  exact ⟨_, stored.finishedHolds⟩

/-- Every statement over `attempts`, with instants in the place of texts. -/
structure AttemptsByTime (rows : List AttemptRow) : Prop where
  texts : ∀ row ∈ rows, ∃ attempt, Stored row attempt ∧
    instantOf row.startedAt = attempt.startedAt ∧
    instantOf row.finishedAt = attempt.finishedAt ∧ instantOf row.createdAt = attempt.createdAt
  recent : ∀ key limit since at_ low, since.toUtc = some at_ →
    serializeDatetime since = .ok low →
    recentRows rows key limit low =
      (sortedBy (fun row => OrderDual.toDual (toLex (instantOf row.finishedAt, row.id)))
        (rows.filter fun row => row.key = key ∧ at_ ≤ instantOf row.finishedAt)).take limit.toNat
  pairs : ∀ since at_ low, since.toUtc = some at_ → serializeDatetime since = .ok low →
    recentPairs rows low = sortedBy (fun key => toLex key)
      ((rows.filter fun row => at_ ≤ instantOf row.finishedAt).map (·.key)).dedup
  window : ∀ since until_ first last low high, since.toUtc = some first →
    until_.toUtc = some last → serializeDatetime since = .ok low →
    serializeDatetime until_ = .ok high →
    attemptsBetween rows low high = rows.filter fun row =>
      first ≤ instantOf row.finishedAt ∧ instantOf row.finishedAt ≤ last
  failures : ∀ limit, failureRows rows limit =
    (sortedBy (fun row => OrderDual.toDual (toLex (instantOf row.finishedAt, row.id)))
      (rows.filter fun row => row.success = 0)).take limit.toNat

theorem Sound.byTime (sound : Sound rows) : AttemptsByTime rows where
  texts row member := by
    obtain ⟨attempt, stored⟩ := sound.stored row member
    refine ⟨attempt, stored, ?_, stored.finishedHolds.instant, ?_⟩
    · rw [stored.row]
      exact instantOf_isoformat stored.started
    · rw [stored.row]
      exact instantOf_isoformat stored.created
  recent key limit since at_ low utc serialized := by
    have bound := holds_of_serialize serialized utc
    have selected : rows.filter (fun row => row.key = key ∧ low ≤ row.finishedAt) =
        rows.filter fun row => row.key = key ∧ at_ ≤ instantOf row.finishedAt := by
      apply List.filter_congr
      intro row member
      simp only [sound.timed.lower bound member]
    rw [recentRows, selected]
    exact congrArg (List.take limit.toNat) (sortedBy_lex_dual_congr sound.timed.filter.alike)
  pairs since at_ low utc serialized := by
    have bound := holds_of_serialize serialized utc
    have selected : rows.filter (fun row => low ≤ row.finishedAt) =
        rows.filter fun row => at_ ≤ instantOf row.finishedAt := by
      apply List.filter_congr
      intro row member
      simp only [sound.timed.lower bound member]
    rw [recentPairs, selected]
  window since until_ first last low high firstUtc lastUtc lower upper :=
    sound.timed.between (holds_of_serialize lower firstUtc) (holds_of_serialize upper lastUtc)
  failures limit :=
    congrArg (List.take limit.toNat) (sortedBy_lex_dual_congr sound.timed.filter.alike)

/-- The failure that an attempt shows. -/
def failureOf (attempt : AttemptRecord) : FailureFields where
  requestId := attempt.requestId
  provider := attempt.provider
  model := attempt.model
  finishedAt := attempt.finishedAt
  createdAt := attempt.createdAt
  latencyMs := attempt.latencyMs
  errorType := some (safeErrorType attempt.errorType)

theorem recentFailureFromRow_stored {row : AttemptRow} {attempt : AttemptRecord}
    (stored : Stored row attempt) :
    ∃ failure, recentFailureFromRow row = .ok failure ∧
      failure.toFailureFields = failureOf attempt := by
  have accepted : (failureOf attempt).check = .ok () := by
    have valid := attempt.valid
    simp only [AttemptFields.check, then_ok_iff, require_ok_iff] at valid
    simp only [FailureFields.check, then_ok_iff, require_ok_iff]
    exact ⟨valid.1, valid.2.1, valid.2.2.1, valid.2.2.2.1⟩
  have restored : restoreFailure row = .ok ⟨_, accepted⟩ := by
    rw [stored.row]
    unfold restoreFailure rowOf
    dsimp only
    rw [readInstant_isoformat stored.finished, readInstant_isoformat stored.created]
    exact RecentFailure.modelValidate_ok accepted
  refine ⟨⟨_, accepted⟩, ?_, rfl⟩
  rw [recentFailureFromRow, restored]

/-- The newest failures are listed, each with a safe error type. -/
theorem listRecentFailures_ok (sound : Sound rows) (positive : 0 < limit) (binds : Binds limit) :
    ∃ failures, listRecentFailures rows limit = .ok failures ∧
      List.Forall₂ (fun row failure => ∃ attempt, Stored row attempt ∧
        failure.toFailureFields = failureOf attempt) (failureRows rows limit) failures := by
  unfold listRecentFailures
  rw [if_neg (by omega), if_neg (by simpa using binds)]
  apply mapM_forall₂
  intro row member
  have inside := List.mem_of_mem_filter (mem_sortedBy.mp (List.mem_of_mem_take member))
  obtain ⟨attempt, stored⟩ := sound.stored row inside
  obtain ⟨failure, read, shown⟩ := recentFailureFromRow_stored stored
  exact ⟨failure, read, attempt, stored, shown⟩

/-! ### Routing decisions -/

/-- The tables that calls of `record_routing_decision` fill. -/
inductive Decided : List DecisionRow → Prop where
  | empty : Decided []
  | recorded {table : List DecisionRow} (fault : Nat → Option PyError) (next : RoutingDecision)
      (before : Decided table) : Decided (recordRoutingDecision fault table next).2

theorem Decided.encoded (decided : Decided decisions) :
    ∀ row ∈ decisions, ∃ decision, encodeDecision decision = .ok row := by
  induction decided with
  | empty => simp
  | @recorded table fault next _ ih =>
    cases ran : recordRoutingDecision fault table next with
    | mk outcome after =>
      cases outcome with
      | error error =>
        have kept : after = table := by
          unfold recordRoutingDecision at ran
          split at ran <;> cases ran
          rfl
        rw [kept]
        exact ih
      | ok done =>
        obtain ⟨row, rfl, encoded, _⟩ := recordRoutingDecision_rows ran
        intro present member
        rcases List.mem_append.mp member with inside | last
        · exact ih present inside
        · rw [List.mem_singleton.mp last]
          exact ⟨next, encoded⟩

theorem DecisionStored.holds (stored : DecisionStored row decision) :
    ∃ at_, decision.createdAt.toUtc = some at_ ∧ Holds row.createdAt at_ := by
  obtain ⟨at_, utc, inside, text⟩ := serializeDatetime_ok_iff.mp stored
  exact ⟨at_, utc, inside, text⟩

theorem Decided.timed (decided : Decided decisions) : Timed (·.createdAt) decisions := by
  intro row member
  obtain ⟨decision, encoded⟩ := decided.encoded row member
  obtain ⟨at_, _, holds⟩ := (DecisionStored.of_encode encoded).holds
  exact ⟨at_, holds⟩

/-- A stored decision reads back, its time in UTC. -/
theorem routingDecisionFromRow_encoded (encoded : encodeDecision decision = .ok row)
    (utc : decision.createdAt.toUtc = some at_) :
    ∃ restored, routingDecisionFromRow row = .ok restored ∧
      restored.toDecisionFields = { decision.toDecisionFields with createdAt := .utc at_ } := by
  obtain ⟨createdAt, serialized, made⟩ := bind_ok_iff.mp encoded
  cases made
  have holds := holds_of_serialize serialized utc
  have accepted : DecisionFields.check
      { decision.toDecisionFields with createdAt := .utc at_ } = .ok () := by
    have valid := decision.valid
    simp only [DecisionFields.check, then_ok_iff, require_ok_iff, utc] at valid ⊢
    simpa using valid
  have restored : restoreDecision
      { requestId := decision.requestId, routingVersion := decision.routingVersion
        selectedProvider := decision.selectedProvider, selectedModel := decision.selectedModel
        servedProvider := decision.servedProvider, servedModel := decision.servedModel
        createdAt, explanation := decision.explanation } = .ok ⟨_, accepted⟩ := by
    rw [restoreDecision]
    dsimp only
    rw [holds.text, readInstant_isoformat holds.inside]
    exact RoutingDecision.modelValidate_ok accepted
  refine ⟨⟨_, accepted⟩, ?_, rfl⟩
  rw [routingDecisionFromRow, restored]

/-- A recorded decision is found under its request. -/
theorem getRoutingDecision_recorded {fault : Nat → Option PyError} {after : List DecisionRow}
    (recorded : recordRoutingDecision fault decisions decision = (.ok (), after))
    (utc : decision.createdAt.toUtc = some at_) :
    ∃ restored, getRoutingDecision after decision.requestId = .ok (some restored) ∧
      restored.toDecisionFields = { decision.toDecisionFields with createdAt := .utc at_ } := by
  obtain ⟨row, rfl, encoded, fresh⟩ := recordRoutingDecision_rows recorded
  obtain ⟨restored, read, same⟩ := routingDecisionFromRow_encoded encoded utc
  have own : row.requestId = decision.requestId := by
    obtain ⟨_, _, made⟩ := bind_ok_iff.mp encoded
    cases made
    rfl
  have found : (decisions ++ [row]).find? (·.requestId = decision.requestId) = some row := by
    have others : decisions.find? (·.requestId = decision.requestId) = none :=
      List.find?_eq_none.mpr fun other member => by simpa [own] using fresh other member
    rw [List.find?_append, others]
    simp [own]
  refine ⟨restored, ?_, same⟩
  rw [getRoutingDecision, found]
  dsimp only
  rw [read]
  rfl

/-- The newest decisions are listed. -/
theorem listRecentRoutingDecisions_ok (decided : Decided decisions) (positive : 0 < limit)
    (binds : Binds limit) :
    ∃ restored, listRecentRoutingDecisions decisions limit = .ok restored ∧
      List.Forall₂ (fun row result => ∃ decision at_, encodeDecision decision = .ok row ∧
        decision.createdAt.toUtc = some at_ ∧
        result.toDecisionFields = { decision.toDecisionFields with createdAt := .utc at_ })
        (recentDecisionRows decisions limit) restored := by
  unfold listRecentRoutingDecisions
  rw [if_neg (by omega), if_neg (by simpa using binds)]
  apply mapM_forall₂
  intro row member
  obtain ⟨decision, encoded⟩ :=
    decided.encoded row (mem_sortedBy.mp (List.mem_of_mem_take member))
  obtain ⟨at_, utc, _⟩ := (DecisionStored.of_encode encoded).holds
  obtain ⟨restored, read, same⟩ := routingDecisionFromRow_encoded encoded utc
  exact ⟨restored, read, decision, at_, encoded, utc, same⟩

/-- Every statement over `routing_decisions`, with instants in the place of texts. -/
structure DecisionsByTime (decisions : List DecisionRow) : Prop where
  texts : ∀ row ∈ decisions, ∃ decision at_, DecisionStored row decision ∧
    decision.createdAt.toUtc = some at_ ∧ instantOf row.createdAt = at_
  window : ∀ since until_ first last low high, since.toUtc = some first →
    until_.toUtc = some last → serializeDatetime since = .ok low →
    serializeDatetime until_ = .ok high →
    decisionsBetween decisions low high = decisions.filter fun row =>
      first ≤ instantOf row.createdAt ∧ instantOf row.createdAt ≤ last
  recent : ∀ limit, recentDecisionRows decisions limit =
    (sortedBy (fun row => OrderDual.toDual (toLex (instantOf row.createdAt, row.requestId)))
      decisions).take limit.toNat

theorem Decided.byTime (decided : Decided decisions) : DecisionsByTime decisions where
  texts row member := by
    obtain ⟨decision, encoded⟩ := decided.encoded row member
    have stored := DecisionStored.of_encode encoded
    obtain ⟨at_, utc, holds⟩ := stored.holds
    exact ⟨decision, at_, stored, utc, holds.instant⟩
  window since until_ first last low high firstUtc lastUtc lower upper :=
    decided.timed.between (holds_of_serialize lower firstUtc) (holds_of_serialize upper lastUtc)
  recent limit :=
    congrArg (List.take limit.toNat) (sortedBy_lex_dual_congr decided.timed.alike)

end ModelPilot.MetricsStore

namespace ModelPilot.BenchmarkStore
open Timestamps

/-- Every statement over `benchmark_runs`, with the saved instants in the place of
texts. -/
structure RunsByTime (journal : Journal) : Prop where
  texts : ∀ row ∈ journal.tables.runs, ∃ run ∈ journal.saved, row = encodeRun run ∧
    instantOf row.startedAt = run.startedAt ∧ instantOf row.finishedAt = run.finishedAt
  newest : ∀ limit filters, 1 ≤ limit → limit ≤ 100 → listRuns journal.tables limit filters =
    .ok ((sortedBy (fun run => toLex (run.startedAt, run.runId))
      (journal.saved.filter fun run =>
        filters.select run.provider run.model run.suiteId run.suiteVersion)).reverse.take
          limit.toNat)
  matching : ∀ scope, listMatchingRuns journal.tables scope =
    .ok (sortedBy (fun run => toLex (run.finishedAt, run.runId))
      (journal.saved.filter fun run => (⟨run.provider, run.model, run.suiteId,
        run.suiteVersion, run.suiteFingerprint⟩ : Scope) = scope))

theorem Journal.Sound.byTime {journal : Journal} (sound : journal.Sound) : RunsByTime journal where
  texts row member := by
    rw [sound.tables] at member
    obtain ⟨run, saved, rfl⟩ := List.mem_map.mp member
    exact ⟨run, saved, rfl, instantOf_isoformat run.startedRange,
      instantOf_isoformat run.finishedRange⟩
  newest limit filters low high := by
    rw [sound.tables]
    exact listRuns_encode sound.distinct filters low high
  matching scope := by
    rw [sound.tables]
    exact listMatchingRuns_encode sound.distinct scope

end ModelPilot.BenchmarkStore

namespace ModelPilot.Timestamps
open MetricsStore (AttemptRow AttemptsByTime DecisionRow DecisionsByTime Decided Filled)
open BenchmarkStore (RunsByTime SaveCall saveAll saveAll_sound)

/-- Stored timestamps sort as time: texts of aware datetimes compare as their instants
and read back as them, a naive datetime is refused, and in tables that the stores filled
every statement selects and orders rows by the instants in them. -/
theorem stored_text_sorts_as_time {a b : Datetime} {s t : Int}
    (first : a.toUtc = some s) (firstInside : Datetime.InRange s)
    (second : b.toUtc = some t) (secondInside : Datetime.InRange t)
    {rows : List AttemptRow} (filled : Filled rows)
    {decisions : List DecisionRow} (decided : Decided decisions) (calls : List SaveCall) :
    (∃ x y, SortAsTime a b s t x y) ∧
    (∀ wall, serializeDatetime (.naive wall) =
      .error (.value "datetime values must be timezone-aware")) ∧
    AttemptsByTime rows ∧ DecisionsByTime decisions ∧ RunsByTime (saveAll calls) :=
  ⟨⟨_, _, sortAsTime first firstInside second secondInside⟩, fun _ => rfl,
    filled.sound.1.byTime, decided.byTime, (saveAll_sound calls).byTime⟩

/-- Midnight at +05:30 and an hour later at -02:00, and a table with one attempt. -/
theorem two_offsets_sort :
    (∃ x y, SortAsTime (.aware 19800000000 19800000000) (.aware (-3600000000) (-7200000000))
      0 3600000000 x y) ∧
    AttemptsByTime
      (MetricsStore.recordAttempt (fun _ => none) [] MetricsStore.loneAttempt).2 := by
  have sorts := stored_text_sorts_as_time (a := .aware 19800000000 19800000000)
    (b := .aware (-3600000000) (-7200000000)) (s := 0) (t := 3600000000) (by decide) (by decide)
    (by decide) (by decide) (.recorded (fun _ => none) MetricsStore.loneAttempt .empty) .empty []
  exact ⟨sorts.1, sorts.2.2.1⟩

end ModelPilot.Timestamps
