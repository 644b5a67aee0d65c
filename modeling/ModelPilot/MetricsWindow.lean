import Mathlib.Algebra.Order.BigOperators.Group.List
import Mathlib.Data.List.Dedup
import ModelPilot.AttemptRows
import ModelPilot.CostEstimates
import ModelPilot.MetricsStore
import ModelPilot.OrderStatistics

/-! The metrics of a pair rest on its newest attempts within the window, and on
nothing else in the table; there are none when a sum over them leaves its range. -/
namespace ModelPilot.MetricsStore
open BenchmarkStore (Binds boolean statement)

variable {rows others window : List AttemptRow} {row : AttemptRow}
  {attempt : AttemptRecord} {attempts : List AttemptRecord} {asOf : Int} {key : Key}

section Stored

theorem serialize_ok_iff {text : String} :
    serialize at_ = .ok text ↔ Datetime.InRange at_ ∧ text = Timestamps.isoformat at_ := by
  rw [serialize, Timestamps.serializeDatetime_ok_iff, Datetime.toUtc_utc]
  constructor
  · rintro ⟨_, ⟨⟩, inside, rfl⟩
    exact ⟨inside, rfl⟩
  · rintro ⟨inside, rfl⟩
    exact ⟨at_, rfl, inside, rfl⟩

/-- The row of an attempt. -/
def rowOf (id : Nat) (attempt : AttemptRecord) : AttemptRow where
  id
  requestId := attempt.requestId
  attemptIndex := attempt.attemptIndex
  provider := attempt.provider
  model := attempt.model
  startedAt := Timestamps.isoformat attempt.startedAt
  finishedAt := Timestamps.isoformat attempt.finishedAt
  latencyMs := attempt.latencyMs
  success := if attempt.success then 1 else 0
  errorType := attempt.errorType
  inputTokens := attempt.inputTokens.map Int.ofNat
  outputTokens := attempt.outputTokens.map Int.ofNat
  totalTokens := attempt.totalTokens.map Int.ofNat
  estimatedCost := attempt.estimatedCost
  createdAt := Timestamps.isoformat attempt.createdAt

/-- The row holds the attempt, whose times are within the datetime range. -/
structure Stored (row : AttemptRow) (attempt : AttemptRecord) : Prop where
  row : row = rowOf row.id attempt
  started : Datetime.InRange attempt.startedAt
  finished : Datetime.InRange attempt.finishedAt
  created : Datetime.InRange attempt.createdAt

theorem encodeAttempt_ok_iff {id : Nat} :
    encodeAttempt id attempt = .ok row ↔ Stored row attempt ∧ row.id = id := by
  unfold encodeAttempt
  simp only [bind_ok_iff, serialize_ok_iff]
  constructor
  · rintro ⟨_, ⟨started, rfl⟩, _, ⟨finished, rfl⟩, _, ⟨created, rfl⟩, done⟩
    cases done
    exact ⟨⟨rfl, started, finished, created⟩, rfl⟩
  · rintro ⟨⟨same, started, finished, created⟩, rfl⟩
    refine ⟨_, ⟨started, rfl⟩, _, ⟨finished, rfl⟩, _, ⟨created, rfl⟩, ?_⟩
    exact congrArg Except.ok same.symm

theorem readInstant_isoformat (inside : Datetime.InRange at_) :
    readInstant (Timestamps.isoformat at_) = .ok at_ := by
  unfold readInstant
  rw [Timestamps.fromisoformat_isoformat inside]
  exact Datetime.astimezone_utc inside

theorem natural_ofNat (count : Option Nat) : (count.map Int.ofNat).mapM natural = .ok count := by
  cases count with
  | none => rfl
  | some value =>
    have nonneg : (0 : Int) ≤ Int.ofNat value := Int.natCast_nonneg value
    simp only [Option.map_some, Option.mapM_some, natural, if_pos nonneg]
    rfl

theorem AttemptRecord.modelValidate_self (attempt : AttemptRecord) :
    AttemptRecord.modelValidate attempt.toAttemptFields = .ok attempt :=
  validated_ok (AttemptRecord.mk attempt.toAttemptFields) attempt.valid

/-- A stored attempt reads back. -/
theorem attemptFromRow_stored (stored : Stored row attempt) : attemptFromRow row = .ok attempt := by
  have restored : restoreAttempt row = .ok attempt := by
    rw [stored.row]
    have index : natural (attempt.attemptIndex : Int) = .ok attempt.attemptIndex :=
      if_pos (Int.natCast_nonneg _)
    have success : boolean (if attempt.success then 1 else 0) = .ok attempt.success := by
      cases attempt.success <;> rfl
    unfold restoreAttempt rowOf
    dsimp only
    rw [index, readInstant_isoformat stored.started, readInstant_isoformat stored.finished, success,
      natural_ofNat, natural_ofNat, natural_ofNat, readInstant_isoformat stored.created]
    exact AttemptRecord.modelValidate_self attempt
  rw [attemptFromRow, restored]

theorem Stored.unique {other : AttemptRecord} (stored : Stored row attempt)
    (also : Stored row other) : other = attempt := by
  have same := (attemptFromRow_stored also).symm.trans (attemptFromRow_stored stored)
  exact Except.ok.inj same

/-- A table of stored attempts, in the order of their identifiers. -/
structure Sound (rows : List AttemptRow) : Prop where
  ids : rows.Pairwise (·.id < ·.id)
  stored : ∀ row ∈ rows, ∃ attempt, Stored row attempt

/-- The tables that calls of `record_attempt` fill. -/
inductive Filled : List AttemptRow → Prop where
  | empty : Filled []
  | recorded {table : List AttemptRow} (fault : Nat → Option PyError) (next : AttemptRecord)
      (before : Filled table) : Filled (recordAttempt fault table next).2

/-- What `record_attempt` does to the table: nothing, or one row more. -/
theorem recordAttempt_rows (fault : Nat → Option PyError) (rows : List AttemptRow)
    (attempt : AttemptRecord) :
    (∃ error, recordAttempt fault rows attempt = (.error error, rows)) ∨
    ∃ row, recordAttempt fault rows attempt = (.ok (), rows ++ [row]) ∧ Stored row attempt ∧
      row.id = rows.length + 1 := by
  unfold recordAttempt
  cases ran : attemptTransaction fault rows attempt with
  | error error => exact .inl ⟨error, rfl⟩
  | ok after =>
    obtain ⟨_, ran⟩ := then_ok_iff.mp ran
    obtain ⟨row, encoded, ran⟩ := bind_ok_iff.mp ran
    obtain ⟨_, ran⟩ := then_ok_iff.mp ran
    obtain ⟨inserted, added, ran⟩ := bind_ok_iff.mp ran
    obtain ⟨_, done⟩ := then_ok_iff.mp ran
    cases done
    unfold insertAttempt at added
    split at added
    · cases added
    split at added
    · cases added
    cases added
    exact .inr ⟨row, rfl, encodeAttempt_ok_iff.mp encoded⟩

theorem Filled.sound (filled : Filled rows) :
    Sound rows ∧ ∀ row ∈ rows, row.id ≤ rows.length := by
  induction filled with
  | empty => exact ⟨⟨.nil, by simp⟩, by simp⟩
  | @recorded rows fault attempt _ ih =>
    obtain ⟨sound, below⟩ := ih
    rcases recordAttempt_rows fault rows attempt with ⟨error, kept⟩ | ⟨row, added, stored, id⟩
    · rw [kept]
      exact ⟨sound, below⟩
    · rw [added]
      refine ⟨⟨?_, ?_⟩, ?_⟩
      · refine List.pairwise_append.mpr ⟨sound.ids, List.pairwise_singleton _ _, ?_⟩
        intro before member last same
        rw [List.mem_singleton.mp same, id]
        exact Nat.lt_succ_of_le (below before member)
      · intro present member
        rcases List.mem_append.mp member with inside | last
        · exact sound.stored present inside
        · rw [List.mem_singleton.mp last]
          exact ⟨attempt, stored⟩
      · intro present member
        rw [List.length_append, List.length_singleton]
        rcases List.mem_append.mp member with inside | last
        · exact Nat.le_succ_of_le (below present inside)
        · rw [List.mem_singleton.mp last, id]

end Stored

section Window

/-- A row of a pair that finished within the window. -/
def InWindow (asOf : Int) (key : Key) (row : AttemptRow) : Prop :=
  row.key = key ∧ ∃ attempt, Stored row attempt ∧ asOf - metricsMaxAge ≤ attempt.finishedAt

/-- The first row is the newer one: it finished later, or at the same time under a
greater identifier. -/
def Newer (first second : AttemptRow) : Prop :=
  ∃ attempt other, Stored first attempt ∧ Stored second other ∧
    (other.finishedAt < attempt.finishedAt ∨
      other.finishedAt = attempt.finishedAt ∧ second.id < first.id)

/-- The rows a snapshot rests on. -/
def windowRows (rows : List AttemptRow) (asOf : Int) (key : Key) : List AttemptRow :=
  recentRows rows key metricsAttemptLimit (Timestamps.isoformat (asOf - metricsMaxAge))

/-- The pair's rows in the window, newest first. -/
def candidateRows (rows : List AttemptRow) (asOf : Int) (key : Key) : List AttemptRow :=
  sortedBy newestFirst (rows.filter fun row =>
    row.key = key ∧ Timestamps.isoformat (asOf - metricsMaxAge) ≤ row.finishedAt)

theorem finishedAt_stored (stored : Stored row attempt) :
    row.finishedAt = Timestamps.isoformat attempt.finishedAt := by
  rw [stored.row]
  rfl

/-- SQL order is time order. -/
theorem newestFirst_lt_iff {other : AttemptRow} (stored : ∃ attempt, Stored row attempt)
    (also : ∃ attempt, Stored other attempt) :
    newestFirst row < newestFirst other ↔ Newer row other := by
  obtain ⟨attempt, stored⟩ := stored
  obtain ⟨record, also⟩ := also
  have order : newestFirst row < newestFirst other ↔
      record.finishedAt < attempt.finishedAt ∨
        record.finishedAt = attempt.finishedAt ∧ other.id < row.id := by
    unfold newestFirst
    rw [OrderDual.toDual_lt_toDual, Prod.Lex.toLex_lt_toLex, finishedAt_stored stored,
      finishedAt_stored also, Timestamps.isoformat_lt_iff also.finished stored.finished]
    refine or_congr_right (and_congr_left fun _ => ⟨?_, fun same => ?_⟩)
    · exact Timestamps.isoformat_inj also.finished stored.finished
    · exact congrArg Timestamps.isoformat same
  rw [order]
  constructor
  · exact fun newer => ⟨attempt, record, stored, also, newer⟩
  · rintro ⟨first, second, storedFirst, storedSecond, newer⟩
    rw [stored.unique storedFirst, also.unique storedSecond] at newer
    exact newer

theorem selected_iff (sound : Sound rows) (inside : Datetime.InRange (asOf - metricsMaxAge))
    (member : row ∈ rows) :
    (row.key = key ∧ Timestamps.isoformat (asOf - metricsMaxAge) ≤ row.finishedAt) ↔
      InWindow asOf key row := by
  obtain ⟨attempt, stored⟩ := sound.stored row member
  rw [finishedAt_stored stored, Timestamps.isoformat_le_iff inside stored.finished]
  refine and_congr_right fun _ => ⟨fun late => ⟨attempt, stored, late⟩, ?_⟩
  rintro ⟨other, also, late⟩
  rwa [stored.unique also] at late

theorem mem_candidateRows (sound : Sound rows)
    (inside : Datetime.InRange (asOf - metricsMaxAge)) :
    row ∈ candidateRows rows asOf key ↔ row ∈ rows ∧ InWindow asOf key row := by
  rw [candidateRows, mem_sortedBy, List.mem_filter, decide_eq_true_eq]
  exact and_congr_right fun member => selected_iff sound inside member

theorem candidateRows_sorted (sound : Sound rows) :
    (candidateRows rows asOf key).Pairwise (newestFirst · < newestFirst ·) := by
  refine sortedBy_strict (List.Nodup.map_on ?_ ?_)
  · intro row member other otherMember same
    have ids : row.id = other.id := by
      simp only [newestFirst, EmbeddingLike.apply_eq_iff_eq, Prod.mk.injEq] at same
      exact same.2
    have distinct : (rows.map (·.id)).Nodup :=
      List.pairwise_map.mpr (sound.ids.imp fun before => before.ne)
    exact List.inj_on_of_nodup_map distinct (List.mem_filter.mp member).1
      (List.mem_filter.mp otherMember).1 ids
  · refine List.Nodup.filter _ (sound.ids.imp fun before same => ?_)
    rw [same] at before
    exact lt_irrefl _ before

/-- The first hundred of the pair's rows in the window, newest first. -/
structure Windowed (rows : List AttemptRow) (asOf : Int) (key : Key) (window : List AttemptRow) :
    Prop where
  members : ∀ row ∈ window, row ∈ rows ∧ InWindow asOf key row
  ordered : window.Pairwise Newer
  most : window.length ≤ 100
  rest : ∀ row ∈ rows, InWindow asOf key row → row ∉ window →
    window.length = 100 ∧ ∀ kept ∈ window, Newer kept row

theorem windowRows_windowed (sound : Sound rows)
    (inside : Datetime.InRange (asOf - metricsMaxAge)) (key : Key) :
    Windowed rows asOf key (windowRows rows asOf key) := by
  have sorted : (candidateRows rows asOf key).Pairwise (newestFirst · < newestFirst ·) :=
    candidateRows_sorted sound
  have part : (windowRows rows asOf key).Sublist (candidateRows rows asOf key) :=
    List.take_sublist 100 _
  have member {row : AttemptRow} (held : row ∈ candidateRows rows asOf key) :
      row ∈ rows ∧ InWindow asOf key row := (mem_candidateRows sound inside).mp held
  have among {row : AttemptRow} : row ∈ windowRows rows asOf key ↔
      row ∈ candidateRows rows asOf key ∧ (candidateRows rows asOf key).countP
        (fun other => newestFirst other < newestFirst row) < 100 := mem_take_iff sorted
  constructor
  · exact fun row held => member (part.subset held)
  · refine (sorted.sublist part).imp_of_mem fun first second before => ?_
    exact (newestFirst_lt_iff (sound.stored _ (member (part.subset first)).1)
      (sound.stored _ (member (part.subset second)).1)).mp before
  · exact List.length_take_le 100 _
  · intro row inRows inWindow outside
    have held := (mem_candidateRows sound inside).mpr ⟨inRows, inWindow⟩
    have many : 100 ≤ (candidateRows rows asOf key).countP
        fun other => newestFirst other < newestFirst row := by
      by_contra few
      exact outside (among.mpr ⟨held, not_le.mp few⟩)
    have long : 100 ≤ (candidateRows rows asOf key).length := many.trans List.countP_le_length
    refine ⟨List.length_take_of_le long, fun kept first => ?_⟩
    have fewer := (among.mp first).2
    have before : newestFirst kept < newestFirst row := by
      by_contra after
      have more : (candidateRows rows asOf key).countP
          (fun other => newestFirst other < newestFirst row) ≤ (candidateRows rows asOf key).countP
            fun other => newestFirst other < newestFirst kept := by
        refine List.countP_mono_left fun other _ passed => ?_
        exact decide_eq_true ((of_decide_eq_true passed).trans_le (not_lt.mp after))
      omega
    exact (newestFirst_lt_iff (sound.stored _ (member (part.subset first)).1)
      (sound.stored _ inRows)).mp before

/-- Rows outside the window, or behind a full one, do not change it. -/
theorem windowRows_of_more (sound : Sound rows) (also : Sound others)
    (inside : Datetime.InRange (asOf - metricsMaxAge)) (kept : ∀ row ∈ rows, row ∈ others)
    (extra : ∀ row ∈ others, row ∉ rows → InWindow asOf key row →
      (windowRows rows asOf key).length = 100 ∧ ∀ first ∈ windowRows rows asOf key, Newer first row) :
    windowRows others asOf key = windowRows rows asOf key := by
  refine take_eq_of_later (candidateRows_sorted sound) (candidateRows_sorted also) ?_ ?_
  · intro row held
    obtain ⟨inRows, inWindow⟩ := (mem_candidateRows sound inside).mp held
    exact (mem_candidateRows also inside).mpr ⟨kept row inRows, inWindow⟩
  · intro row held new
    obtain ⟨inOthers, inWindow⟩ := (mem_candidateRows also inside).mp held
    have absent : row ∉ rows := fun inRows =>
      new ((mem_candidateRows sound inside).mpr ⟨inRows, inWindow⟩)
    obtain ⟨full, behind⟩ := extra row inOthers absent inWindow
    have part : (windowRows rows asOf key).Sublist (candidateRows rows asOf key) :=
      List.take_sublist 100 _
    have all : (windowRows rows asOf key).countP
        (fun other => newestFirst other < newestFirst row) = (windowRows rows asOf key).length := by
      rw [List.countP_eq_length]
      intro first present
      have stored := sound.stored _ ((mem_candidateRows sound inside).mp (part.subset present)).1
      exact decide_eq_true ((newestFirst_lt_iff stored (also.stored _ inOthers)).mpr
        (behind first present))
    have fewer := part.countP_le (p := fun other => decide (newestFirst other < newestFirst row))
    rw [all, full] at fewer
    exact fewer

end Window

section Attempts

/-- Stored rows read back as their attempts. -/
theorem mapM_stored (stored : ∀ row ∈ rows, ∃ attempt, Stored row attempt) :
    ∃ attempts, rows.mapM attemptFromRow = .ok attempts ∧ List.Forall₂ Stored rows attempts := by
  apply mapM_forall₂
  intro row member
  obtain ⟨attempt, held⟩ := stored row member
  exact ⟨attempt, attemptFromRow_stored held, held⟩

theorem getRecentAttempts_window (inside : Datetime.InRange (asOf - metricsMaxAge)) (key : Key) :
    getRecentAttempts rows key metricsAttemptLimit (.utc (asOf - metricsMaxAge)) =
      (windowRows rows asOf key).mapM attemptFromRow := by
  have serialized : Timestamps.serializeDatetime (.utc (asOf - metricsMaxAge)) =
      .ok (Timestamps.isoformat (asOf - metricsMaxAge)) := serialize_ok_iff.mpr ⟨inside, rfl⟩
  unfold getRecentAttempts
  rw [if_neg (by decide), serialized]
  rfl

/-- A snapshot is built from the rows of the window alone. -/
theorem buildMetrics_window (inside : Datetime.InRange (asOf - metricsMaxAge)) (key : Key) :
    buildMetrics .exact rows asOf key = (do
      let attempts ← (windowRows rows asOf key).mapM attemptFromRow
      if attempts.isEmpty then .ok none
      else do
        let fields ← metricsFields .exact key attempts
        (validateSnapshot fields).map some) := by
  have started : windowStart asOf = .ok (asOf - metricsMaxAge) := if_pos inside.1
  unfold buildMetrics
  rw [started]
  change (getRecentAttempts rows key metricsAttemptLimit (.utc (asOf - metricsMaxAge))).bind _ = _
  rw [getRecentAttempts_window inside]
  rfl

end Attempts

section Percentiles

/-- The member of a sample at a percentile: enough of the sample is not above it, and
too little is below it. -/
structure NearestRank (values : List ℚ) (percentile value : ℚ) : Prop where
  member : value ∈ values
  reached : percentile * values.length ≤ values.countP (· ≤ value)
  above : (values.countP (· < value) : ℚ) < percentile * values.length

theorem nearestRank_spec {values : List ℚ} {percentile : ℚ} (nonempty : values ≠ [])
    (positive : 0 < percentile) (most : percentile ≤ 1) :
    ∃ value, nearestRank .exact values percentile = some value ∧
      NearestRank values percentile value := by
  have count : (0 : ℚ) < values.length := by exact_mod_cast List.length_pos_iff.mpr nonempty
  have low : 0 < ⌈percentile * values.length⌉ := Int.ceil_pos.mpr (mul_pos positive count)
  have high : ⌈percentile * values.length⌉ ≤ values.length := by
    apply Int.ceil_le.mpr
    exact_mod_cast mul_le_of_le_one_left count.le most
  obtain ⟨position, rank⟩ : ∃ position : Nat, ⌈percentile * values.length⌉ = position + 1 :=
    ⟨(⌈percentile * values.length⌉ - 1).toNat, by omega⟩
  have perm := sortedBy_perm id values
  have sorted : (sortedBy id values).Pairwise (· ≤ ·) := sortedBy_pairwise id values
  have bound : position < (sortedBy id values).length := by
    rw [perm.length_eq]
    omega
  have ceiling := Int.ceil_eq_iff.mp rank
  push_cast at ceiling
  refine ⟨(sortedBy id values)[position], ?_, ?_, ?_, ?_⟩
  · have index : (⌈Rounding.exact.mul percentile values.length⌉ - 1).toNat = position := by
      change (⌈percentile * values.length⌉ - 1).toNat = position
      omega
    rw [nearestRank, if_neg nonempty, index, List.getElem?_eq_getElem bound]
  · exact perm.mem_iff.mp (List.getElem_mem bound)
  · have reached := lt_countP_le sorted bound
    rw [perm.countP_eq] at reached
    have enough : (position : ℚ) + 1 ≤ values.countP (· ≤ (sortedBy id values)[position]) := by
      exact_mod_cast reached
    exact ceiling.2.trans enough
  · have below := countP_lt_le sorted bound
    rw [perm.countP_eq] at below
    have few : (values.countP (· < (sortedBy id values)[position]) : ℚ) ≤ position := by
      exact_mod_cast below
    linarith [ceiling.1]

theorem nearestRank_nil (float : Rounding) (percentile : ℚ) :
    nearestRank float [] percentile = none := if_pos rfl

end Percentiles

section Sums

theorem mem_pricedCosts {cost : ℚ} : cost ∈ pricedCosts attempts ↔
    ∃ attempt ∈ attempts, attempt.success = true ∧ attempt.estimatedCost = some cost := by
  unfold pricedCosts
  rw [List.mem_filterMap]
  refine exists_congr fun attempt => and_congr_right fun _ => ?_
  split <;> simp [*]

/-- The facts validation establishes of an attempt. -/
theorem attempt_facts (attempt : AttemptRecord) : attempt.provider ≠ "" ∧ attempt.model ≠ "" ∧
    0 ≤ attempt.latencyMs ∧ ∀ cost ∈ attempt.estimatedCost, 0 ≤ cost := by
  have valid := attempt.valid
  simp only [AttemptFields.check, then_ok_iff, require_ok_iff, checkSome_ok_iff] at valid
  exact ⟨valid.2.1, valid.2.2.1, valid.2.2.2.1, valid.2.2.2.2.1⟩

theorem latencies_nonneg (attempts : List AttemptRecord) :
    ∀ latency ∈ attempts.map (·.latencyMs), 0 ≤ latency := by
  intro latency inside
  obtain ⟨attempt, _, rfl⟩ := List.mem_map.mp inside
  exact (attempt_facts attempt).2.2.1

theorem pricedCosts_nonneg (attempts : List AttemptRecord) :
    ∀ cost ∈ pricedCosts attempts, 0 ≤ cost := by
  intro cost inside
  obtain ⟨attempt, _, _, priced⟩ := mem_pricedCosts.mp inside
  exact (attempt_facts attempt).2.2.2 cost priced

/-- An operation keeps a total as it is. -/
theorem foldlM_addCost_held {costs : List ℚ} {start total : ℚ} (held : Decimal.Held start)
    (added : costs.foldlM addCost start = .ok total) : Decimal.Held total := by
  induction costs generalizing start with
  | nil =>
    cases added
    exact held
  | cons cost rest ih =>
    rw [List.foldlM_cons] at added
    obtain ⟨next, fixed, later⟩ := bind_ok_iff.mp added
    exact ih ⟨Decimal.fix_representable fixed, (Decimal.fix_ok_iff.mp fixed).2⟩ later

theorem foldlM_addCost_nonneg {costs : List ℚ} {start total : ℚ}
    (nonneg : ∀ cost ∈ costs, 0 ≤ cost) (begins : 0 ≤ start)
    (added : costs.foldlM addCost start = .ok total) : 0 ≤ total := by
  induction costs generalizing start with
  | nil =>
    cases added
    exact begins
  | cons cost rest ih =>
    obtain ⟨first, others⟩ := List.forall_mem_cons.mp nonneg
    rw [List.foldlM_cons] at added
    obtain ⟨next, fixed, later⟩ := bind_ok_iff.mp added
    exact ih others (Decimal.fix_nonneg (add_nonneg begins first) fixed) later

theorem totalCost_held {costs : List ℚ} {total : ℚ} (nonneg : ∀ cost ∈ costs, 0 ≤ cost)
    (summed : totalCost costs = .ok (some total)) : 0 ≤ total ∧ Decimal.Held total := by
  unfold totalCost at summed
  split at summed
  · cases summed
  · obtain ⟨_, added, same⟩ := map_ok_iff.mp summed
    cases same
    exact ⟨foldlM_addCost_nonneg nonneg le_rfl added, foldlM_addCost_held Decimal.held_zero added⟩

/-- An average is there exactly when its total is. -/
theorem averageCost_ok_iff {costs : List ℚ} (nonneg : ∀ cost ∈ costs, 0 ≤ cost) :
    (∃ average, averageCost costs = .ok average) ↔ ∃ total, totalCost costs = .ok total := by
  constructor
  · rintro ⟨average, computed⟩
    obtain ⟨total, summed, _⟩ := bind_ok_iff.mp computed
    exact ⟨total, summed⟩
  · rintro ⟨total, summed⟩
    cases total with
    | none => exact ⟨none, bind_ok_iff.mpr ⟨none, summed, rfl⟩⟩
    | some total =>
      obtain ⟨least, held⟩ := totalCost_held nonneg summed
      have costs_ne : costs ≠ [] := by
        rintro rfl
        cases summed
      have count : (1 : ℚ) ≤ costs.length := by
        exact_mod_cast List.length_pos_iff.mpr costs_ne
      have divided := Decimal.fix_ok_of_le (div_nonneg least (zero_le_one.trans count))
        (div_le_self least count) (Decimal.fix_held held)
      refine ⟨some (Decimal.rounded (total / costs.length)), bind_ok_iff.mpr ⟨_, summed, ?_⟩⟩
      rw [Option.mapM_some, divided]
      rfl

theorem averageCost_nonneg {costs : List ℚ} {average : Option ℚ}
    (nonneg : ∀ cost ∈ costs, 0 ≤ cost) (computed : averageCost costs = .ok average) :
    ∀ value ∈ average, 0 ≤ value := by
  obtain ⟨total, summed, divided⟩ := bind_ok_iff.mp computed
  cases total with
  | none =>
    cases divided
    exact fun _ none_ => nomatch none_
  | some total =>
    rw [Option.mapM_some] at divided
    obtain ⟨value, fixed, same⟩ := map_ok_iff.mp divided
    cases same
    rintro _ ⟨⟩
    exact Decimal.fix_nonneg
      (div_nonneg (totalCost_held nonneg summed).1 (Nat.cast_nonneg costs.length)) fixed

theorem averageCost_ne_none {costs : List ℚ} {average : Option ℚ}
    (computed : averageCost costs = .ok average) : average ≠ none ↔ costs ≠ [] := by
  obtain ⟨total, summed, divided⟩ := bind_ok_iff.mp computed
  unfold totalCost at summed
  split at summed
  · rename_i empty
    cases summed
    cases divided
    simp [empty]
  · rename_i priced
    obtain ⟨_, _, rfl⟩ := map_ok_iff.mp summed
    rw [Option.mapM_some] at divided
    obtain ⟨_, _, rfl⟩ := map_ok_iff.mp divided
    simp [priced]

/-- The costs of the successful priced rows. -/
def windowCosts (window : List AttemptRow) : List ℚ :=
  window.filterMap fun row => if row.success = 1 then row.estimatedCost else none

/-- The latencies of some rows add up within the range of floats, and their costs within that
of `Decimal`. -/
def SumsInRange (window : List AttemptRow) : Prop :=
  isFloat (window.map (·.latencyMs)).sum = true ∧ (totalCost (windowCosts window)).isOk = true

instance (window : List AttemptRow) : Decidable (SumsInRange window) :=
  inferInstanceAs (Decidable (_ ∧ _))

theorem latencies_stored (stored : List.Forall₂ Stored window attempts) :
    window.map (·.latencyMs) = attempts.map (·.latencyMs) := by
  induction stored with
  | nil => rfl
  | cons first _ ih =>
    rw [List.map_cons, List.map_cons, ih, first.row]
    rfl

theorem windowCosts_stored (stored : List.Forall₂ Stored window attempts) :
    windowCosts window = pricedCosts attempts := by
  induction stored with
  | nil => rfl
  | @cons row attempt _ _ first _ ih =>
    have own : (if row.success = 1 then row.estimatedCost else none) =
        if attempt.success then attempt.estimatedCost else none := by
      rw [first.row]
      cases success : attempt.success <;> simp [rowOf, success]
    unfold windowCosts pricedCosts at ih ⊢
    simp only [List.filterMap_cons, own, ih]

/-- Whether the sums of a window stay in range, in terms of its attempts. -/
theorem sumsInRange_iff (stored : List.Forall₂ Stored window attempts) : SumsInRange window ↔
    isFloat (attempts.map (·.latencyMs)).sum = true ∧
      ∃ average, averageCost (pricedCosts attempts) = .ok average := by
  rw [SumsInRange, latencies_stored stored, windowCosts_stored stored,
    averageCost_ok_iff (pricedCosts_nonneg attempts)]
  cases totalCost (pricedCosts attempts) <;> simp [Except.isOk, Except.toBool]

end Sums

section Summary

/-- What a snapshot says about some attempts. -/
structure Summarizes (key : Key) (attempts : List AttemptRecord) (snapshot : MetricsFields) :
    Prop where
  pair : (snapshot.provider, snapshot.model) = key
  samples : snapshot.sampleCount = attempts.length
  successes : snapshot.successCount = attempts.countP (·.success)
  failures : snapshot.failureCount = attempts.countP (!·.success)
  rate : snapshot.successRate = some ((attempts.countP (·.success) : ℚ) / attempts.length)
  averageLatency : snapshot.averageLatencyMs =
    some ((attempts.map (·.latencyMs)).sum / attempts.length)
  p50Latency : ∃ value, snapshot.p50LatencyMs = some value ∧
    NearestRank (attempts.map (·.latencyMs)) (1 / 2) value
  p95Latency : ∃ value, snapshot.p95LatencyMs = some value ∧
    NearestRank (attempts.map (·.latencyMs)) (19 / 20) value
  priced : snapshot.pricedSampleCount = (pricedCosts attempts).length
  averageCost : averageCost (pricedCosts attempts) = .ok snapshot.estimatedAverageCost
  unpriced : pricedCosts attempts = [] → snapshot.p50EstimatedCost = none
  p50Cost : pricedCosts attempts ≠ [] → ∃ value, snapshot.p50EstimatedCost = some value ∧
    NearestRank (pricedCosts attempts) (1 / 2) value
  started : (∃ attempt ∈ attempts, attempt.finishedAt = snapshot.windowStart) ∧
    ∀ attempt ∈ attempts, snapshot.windowStart ≤ attempt.finishedAt
  ended : (∃ attempt ∈ attempts, attempt.finishedAt = snapshot.windowEnd) ∧
    ∀ attempt ∈ attempts, attempt.finishedAt ≤ snapshot.windowEnd

/-- Every attempt succeeded or failed. -/
theorem countP_success (attempts : List AttemptRecord) :
    attempts.length = attempts.countP (·.success) + attempts.countP (!·.success) := by
  rw [List.length_eq_countP_add_countP (·.success) (l := attempts)]
  congr 1
  refine List.countP_congr fun attempt _ => ?_
  cases attempt.success <;> simp

/-- The fields of some attempts are there exactly when their sums stay in range. -/
theorem metricsFields_ok_iff : (∃ fields, metricsFields .exact key attempts = .ok fields) ↔
    isFloat (attempts.map (·.latencyMs)).sum = true ∧
      ∃ average, averageCost (pricedCosts attempts) = .ok average := by
  unfold metricsFields
  simp only [fsum_exact (latencies_nonneg attempts), bind_ok_iff]
  constructor
  · rintro ⟨_, total, summed, average, computed, _⟩
    split at summed
    · exact ⟨‹_›, average, computed⟩
    · cases summed
  · rintro ⟨inside, average, computed⟩
    exact ⟨_, _, if_pos inside, average, computed, rfl⟩

theorem summarizes {fields : MetricsFields} (nonempty : attempts ≠ [])
    (built : metricsFields .exact key attempts = .ok fields) : Summarizes key attempts fields := by
  have latencies : attempts.map (·.latencyMs) ≠ [] := by simpa using nonempty
  have half : (0 : ℚ) < 1 / 2 := by norm_num
  have most : (1 : ℚ) / 2 ≤ 1 := by norm_num
  obtain ⟨first, isFirst⟩ := Option.isSome_iff_exists.mp
    (List.isSome_min?_of_ne_nil (l := attempts.map (·.finishedAt)) (by simpa using nonempty))
  obtain ⟨last, isLast⟩ := Option.isSome_iff_exists.mp
    (List.isSome_max?_of_ne_nil (l := attempts.map (·.finishedAt)) (by simpa using nonempty))
  obtain ⟨firstMem, firstLe⟩ := List.min?_eq_some_iff.mp isFirst
  obtain ⟨lastMem, lastLe⟩ := List.max?_eq_some_iff.mp isLast
  unfold metricsFields at built
  simp only [fsum_exact (latencies_nonneg attempts), bind_ok_iff] at built
  obtain ⟨total, summed, average, computed, done⟩ := built
  split at summed
  case isFalse => cases summed
  cases summed
  cases done
  constructor
  · rfl
  · rfl
  · rfl
  · have split := countP_success attempts
    dsimp only
    omega
  · rfl
  · rfl
  · exact nearestRank_spec latencies half most
  · exact nearestRank_spec latencies (by norm_num) (by norm_num)
  · rfl
  · exact computed
  · intro none_
    dsimp only
    rw [none_]
    exact nearestRank_nil _ _
  · exact fun some_ => nearestRank_spec some_ half most
  · simp only [isFirst, Option.getD_some]
    exact ⟨List.mem_map.mp firstMem, fun attempt member => firstLe _ (List.mem_map_of_mem member)⟩
  · simp only [isLast, Option.getD_some]
    exact ⟨List.mem_map.mp lastMem, fun attempt member => lastLe _ (List.mem_map_of_mem member)⟩

/-- Only a successful attempt is priced. -/
theorem length_pricedCosts_le (attempts : List AttemptRecord) :
    (pricedCosts attempts).length ≤ attempts.countP (·.success) := by
  unfold pricedCosts
  rw [List.length_filterMap_eq_countP]
  refine List.countP_mono_left fun attempt _ priced => ?_
  by_contra failed
  rw [if_neg failed] at priced
  cases priced

/-- The cost figures of a summary are not negative. -/
theorem Summarizes.cost_nonneg {snapshot : MetricsFields}
    (summary : Summarizes key attempts snapshot) :
    (∀ average, snapshot.estimatedAverageCost = some average → 0 ≤ average) ∧
      ∀ value, snapshot.p50EstimatedCost = some value → 0 ≤ value := by
  refine ⟨averageCost_nonneg (pricedCosts_nonneg attempts) summary.averageCost, ?_⟩
  rintro value held
  by_cases none_ : pricedCosts attempts = []
  · cases (summary.unpriced none_).symm.trans held
  · obtain ⟨median, isMedian, rank⟩ := summary.p50Cost none_
    cases isMedian.symm.trans held
    exact pricedCosts_nonneg attempts _ rank.member

/-- The counts of a summary agree with its aggregates. -/
theorem Summarizes.measured {snapshot : MetricsFields}
    (summary : Summarizes key attempts snapshot) :
    snapshot.measuredAggregates .exact = .ok () := by
  have fewer := length_pricedCosts_le attempts
  have priced := summary.priced
  have samples := summary.samples
  have successes := summary.successes
  simp only [MetricsFields.measuredAggregates, then_ok_iff, require_ok_iff, checkSome_ok_iff]
  have averaged := averageCost_ne_none summary.averageCost
  refine ⟨by omega, fun none_ => ?_, fun some_ => ?_, ?_⟩
  · have empty : pricedCosts attempts = [] := List.length_eq_zero_iff.mp (by omega)
    exact ⟨not_not.mp (averaged.not.mpr (not_not_intro empty)), summary.unpriced empty⟩
  · have present : pricedCosts attempts ≠ [] := by
      intro none_
      rw [none_, List.length_nil] at priced
      omega
    obtain ⟨_, isMedian, _⟩ := summary.p50Cost present
    rw [isMedian]
    exact ⟨averaged.mpr present, by simp⟩
  · rintro rate held
    cases summary.rate.symm.trans held
    rw [successes, samples]
    have same : Rounding.exact.div ((attempts.countP (·.success) : Int) : ℚ)
        ((attempts.length : Int) : ℚ) = (attempts.countP (·.success) : ℚ) / attempts.length := by
      push_cast
      rfl
    rw [same, sub_self, abs_zero]
    norm_num

/-- A summary of validated attempts of a pair passes every validator. -/
theorem Summarizes.check {snapshot : MetricsFields}
    (summary : Summarizes key attempts snapshot) (nonempty : attempts ≠ [])
    (own : ∀ attempt ∈ attempts, (attempt.provider, attempt.model) = key) :
    snapshot.check .exact = .ok () := by
  obtain ⟨present, member⟩ := List.exists_mem_of_ne_nil attempts nonempty
  have facts := attempt_facts present
  have pair := summary.pair.trans (own present member).symm
  simp only [Prod.mk.injEq] at pair
  have count : 0 < attempts.length := List.length_pos_iff.mpr nonempty
  have positive : (0 : ℚ) < attempts.length := by exact_mod_cast count
  have split := countP_success attempts
  have samples := summary.samples
  have successes := summary.successes
  have failures := summary.failures
  have priced := summary.priced
  obtain ⟨averageCost, p50Cost⟩ := summary.cost_nonneg
  simp only [MetricsFields.check, MetricsFields.validateCountsAndAggregates,
    MetricsFields.checkNonneg, SignalFields.checkText, SignalFields.checkUnit, then_ok_iff,
    require_ok_iff, checkSome_ok_iff]
  refine ⟨?_, ?_, by omega, by omega, by omega, ?_, ?_, ?_, ?_, by omega, averageCost, p50Cost,
    ?_, by omega, ?_⟩
  · rw [pair.1]
    exact facts.1
  · rw [pair.2]
    exact facts.2.1
  · rintro rate held
    cases summary.rate.symm.trans held
    have within : (attempts.countP (·.success) : ℚ) ≤ attempts.length := by
      exact_mod_cast List.countP_le_length
    exact ⟨div_nonneg (Nat.cast_nonneg _) positive.le, (div_le_one positive).mpr within⟩
  · rintro average held
    cases summary.averageLatency.symm.trans held
    exact div_nonneg (List.sum_nonneg (latencies_nonneg attempts)) positive.le
  · rintro value held
    obtain ⟨p50, isP50, rank⟩ := summary.p50Latency
    cases isP50.symm.trans held
    exact latencies_nonneg attempts _ rank.member
  · rintro value held
    obtain ⟨p95, isP95, rank⟩ := summary.p95Latency
    cases isP95.symm.trans held
    exact latencies_nonneg attempts _ rank.member
  · exact (summary.started.2 present member).trans (summary.ended.2 present member)
  · rw [if_neg (by omega)]
    exact summary.measured

end Summary

section Metrics

theorem own_pair (windowed : Windowed rows asOf key window)
    (stored : List.Forall₂ Stored window attempts) :
    ∀ attempt ∈ attempts, (attempt.provider, attempt.model) = key := by
  have pairs : ∀ row ∈ window, row.key = key := fun row member =>
    (windowed.members row member).2.1
  clear windowed
  induction stored with
  | nil => simp
  | @cons row attempt _ _ first _ ih =>
    obtain ⟨head, tail⟩ := List.forall_mem_cons.mp pairs
    refine List.forall_mem_cons.mpr ⟨?_, ih tail⟩
    rw [← head, AttemptRow.key, first.row]
    rfl

/-- What `_build_metrics` does: nothing without rows in the window, and otherwise the
summary of the attempts there, if their sums stay in range. -/
theorem buildMetrics_cases (sound : Sound rows)
    (inside : Datetime.InRange (asOf - metricsMaxAge)) (key : Key) :
    (windowRows rows asOf key = [] ∧ buildMetrics .exact rows asOf key = .ok none) ∨
    (windowRows rows asOf key ≠ [] ∧ SumsInRange (windowRows rows asOf key) ∧
      ∃ snapshot attempts, buildMetrics .exact rows asOf key = .ok (some snapshot) ∧
        List.Forall₂ Stored (windowRows rows asOf key) attempts ∧
        Summarizes key attempts snapshot.toMetricsFields) ∨
    (windowRows rows asOf key ≠ [] ∧ ¬ SumsInRange (windowRows rows asOf key) ∧
      ∃ error, buildMetrics .exact rows asOf key = .error error) := by
  have windowed := windowRows_windowed sound inside key
  obtain ⟨attempts, read, stored⟩ := mapM_stored fun row member =>
    sound.stored row (windowed.members row member).1
  rw [buildMetrics_window inside, read]
  by_cases empty : windowRows rows asOf key = []
  · rw [empty] at stored
    cases stored
    exact .inl ⟨empty, rfl⟩
  have nonempty : attempts ≠ [] := by
    rintro rfl
    exact empty (List.forall₂_nil_right_iff.mp stored)
  have filled : attempts.isEmpty = false := by simpa using nonempty
  have fields : (∃ fields, metricsFields .exact key attempts = .ok fields) ↔ _ :=
    metricsFields_ok_iff
  rw [sumsInRange_iff stored, ← fields]
  right
  cases made : metricsFields .exact key attempts with
  | error error =>
    refine .inr ⟨empty, by simp, error, ?_⟩
    change (if attempts.isEmpty then _ else _) = _
    rw [filled, made]
    rfl
  | ok fields =>
    have summary := summarizes nonempty made
    have checked := summary.check nonempty (own_pair windowed stored)
    have built : validateSnapshot fields =
        .ok (⟨_, checked⟩ : ProviderMetricsSnapshot .exact) :=
      validated_ok (ProviderMetricsSnapshot.mk _) checked
    refine .inl ⟨empty, ⟨fields, rfl⟩, ⟨_, checked⟩, attempts, ?_, stored, summary⟩
    change (if attempts.isEmpty then _ else _) = _
    rw [filled, made]
    change (validateSnapshot fields).map some = _
    rw [built]
    rfl

theorem sumsInRange_nil : SumsInRange [] := ⟨isFloat_zero, rfl⟩

/-- The pairs of the rows are all that have to be looked at. -/
theorem sumsInRange_of_rows (ranged : ∀ row ∈ rows, SumsInRange (windowRows rows asOf row.key))
    (key : Key) : SumsInRange (windowRows rows asOf key) := by
  cases held : windowRows rows asOf key with
  | nil => exact sumsInRange_nil
  | cons first rest =>
    have member : first ∈ windowRows rows asOf key := by
      rw [held]
      exact List.mem_cons_self
    obtain ⟨inRows, selected⟩ := List.mem_filter.mp (mem_sortedBy.mp (List.mem_of_mem_take member))
    rw [← held, ← (of_decide_eq_true selected).1]
    exact ranged first inRows

theorem windowRows_eq_nil (sound : Sound rows)
    (inside : Datetime.InRange (asOf - metricsMaxAge)) (key : Key) :
    windowRows rows asOf key = [] ↔ ¬ ∃ row ∈ rows, InWindow asOf key row := by
  have windowed := windowRows_windowed sound inside key
  constructor
  · rintro none_ ⟨row, member, inWindow⟩
    have full := (windowed.rest row member inWindow (by simp [none_])).1
    simp [none_] at full
  · intro none_
    rw [List.eq_nil_iff_forall_not_mem]
    exact fun row member => none_ ⟨row, windowed.members row member⟩

theorem mem_recentPairs (sound : Sound rows)
    (inside : Datetime.InRange (asOf - metricsMaxAge)) {key : Key} :
    key ∈ recentPairs rows (Timestamps.isoformat (asOf - metricsMaxAge)) ↔
      ∃ row ∈ rows, InWindow asOf key row := by
  simp only [recentPairs, mem_sortedBy, List.mem_dedup, List.mem_map, List.mem_filter,
    decide_eq_true_eq]
  constructor
  · rintro ⟨row, ⟨member, late⟩, rfl⟩
    exact ⟨row, member, (selected_iff sound inside member).mp ⟨rfl, late⟩⟩
  · rintro ⟨row, member, inWindow⟩
    obtain ⟨same, late⟩ := (selected_iff sound inside member).mpr inWindow
    exact ⟨row, ⟨member, late⟩, same⟩

theorem recentPairs_sorted (rows : List AttemptRow) (serializedSince : String) :
    (recentPairs rows serializedSince).Pairwise (toLex · < toLex ·) := by
  apply sortedBy_strict
  rw [List.nodup_map_iff toLex.injective]
  exact List.nodup_dedup _

theorem windowStart_error (inside : Datetime.InRange asOf)
    (early : ¬ Datetime.InRange (asOf - metricsMaxAge)) : windowStart asOf = .error .overflow := by
  apply if_neg
  intro late
  have before : asOf - metricsMaxAge ≤ asOf := by
    unfold metricsMaxAge
    omega
  exact early ⟨late, before.trans inside.2⟩

theorem listProviderMetrics_eq (inside : Datetime.InRange (asOf - metricsMaxAge)) :
    listProviderMetrics .exact rows asOf =
      ((recentPairs rows (Timestamps.isoformat (asOf - metricsMaxAge))).mapM
        (buildMetrics .exact rows asOf)).map (·.filterMap id) := by
  have started : windowStart asOf = .ok (asOf - metricsMaxAge) := if_pos inside.1
  have serialized := serialize_ok_iff.mpr ⟨inside, rfl⟩
  unfold listProviderMetrics
  rw [started]
  change (serialize (asOf - metricsMaxAge)).bind _ = _
  rw [serialized]
  change ((recentPairs rows (Timestamps.isoformat (asOf - metricsMaxAge))).mapM
    (buildMetrics .exact rows asOf)).bind _ = _
  cases (recentPairs rows (Timestamps.isoformat (asOf - metricsMaxAge))).mapM
    (buildMetrics .exact rows asOf) <;> rfl

/-- The listed snapshots are those of the pairs with a row in the window. -/
structure ListsMetrics (rows : List AttemptRow) (asOf : Int)
    (snapshots : List (ProviderMetricsSnapshot .exact)) : Prop where
  listed : listProviderMetrics .exact rows asOf = .ok snapshots
  ordered : (snapshots.map (·.key)).Pairwise (toLex · < toLex ·)
  keys : ∀ key, key ∈ snapshots.map (·.key) ↔ ∃ row ∈ rows, InWindow asOf key row
  built : ∀ snapshot ∈ snapshots, buildMetrics .exact rows asOf snapshot.key = .ok (some snapshot)

theorem listProviderMetrics_ok (sound : Sound rows)
    (inside : Datetime.InRange (asOf - metricsMaxAge))
    (ranged : ∀ key, SumsInRange (windowRows rows asOf key)) :
    ∃ snapshots, ListsMetrics rows asOf snapshots := by
  have each : ∀ key ∈ recentPairs rows (Timestamps.isoformat (asOf - metricsMaxAge)),
      ∃ snapshot : ProviderMetricsSnapshot .exact,
        buildMetrics .exact rows asOf key = .ok (some snapshot) ∧ snapshot.key = key := by
    intro key member
    have present := (mem_recentPairs sound inside).mp member
    rcases buildMetrics_cases sound inside key with ⟨none_, _⟩ |
      ⟨_, _, snapshot, attempts, built, _, summary⟩ | ⟨_, beyond, _⟩
    · exact absurd present ((windowRows_eq_nil sound inside key).mp none_)
    · exact ⟨snapshot, built, summary.pair⟩
    · exact absurd (ranged key) beyond
  have built {keys : List Key} (all : ∀ key ∈ keys, ∃ snapshot : ProviderMetricsSnapshot .exact,
      buildMetrics .exact rows asOf key = .ok (some snapshot) ∧ snapshot.key = key) :
      ∃ snapshots : List (ProviderMetricsSnapshot .exact),
        keys.mapM (buildMetrics .exact rows asOf) = .ok (snapshots.map some) ∧
        snapshots.map (·.key) = keys ∧ ∀ snapshot ∈ snapshots,
          buildMetrics .exact rows asOf snapshot.key = .ok (some snapshot) := by
    induction keys with
    | nil => exact ⟨[], rfl, rfl, by simp⟩
    | cons key rest ih =>
      obtain ⟨⟨snapshot, ran, named⟩, others⟩ := List.forall_mem_cons.mp all
      obtain ⟨snapshots, later, names, own⟩ := ih others
      refine ⟨snapshot :: snapshots, ?_, ?_, ?_⟩
      · rw [List.mapM_cons, ran, later]
        rfl
      · rw [List.map_cons, named, names]
      · exact List.forall_mem_cons.mpr ⟨by rw [named]; exact ran, own⟩
  obtain ⟨snapshots, ran, names, own⟩ := built each
  refine ⟨snapshots, ?_, ?_, ?_, own⟩
  · rw [listProviderMetrics_eq inside, ran]
    simp [Except.map, List.filterMap_map]
  · rw [names]
    exact recentPairs_sorted rows _
  · intro key
    rw [names, mem_recentPairs sound inside]

/-- One pair whose sums leave their range, and nothing is listed. -/
theorem listProviderMetrics_error (sound : Sound rows)
    (inside : Datetime.InRange (asOf - metricsMaxAge))
    (beyond : ¬ ∀ key, SumsInRange (windowRows rows asOf key)) :
    ∃ error, listProviderMetrics .exact rows asOf = .error error := by
  obtain ⟨key, out⟩ := not_forall.mp beyond
  have present : key ∈ recentPairs rows (Timestamps.isoformat (asOf - metricsMaxAge)) := by
    apply (mem_recentPairs sound inside).mpr
    by_contra none_
    apply out
    rw [(windowRows_eq_nil sound inside key).mpr none_]
    exact sumsInRange_nil
  rw [listProviderMetrics_eq inside]
  cases ran : (recentPairs rows (Timestamps.isoformat (asOf - metricsMaxAge))).mapM
      (buildMetrics .exact rows asOf) with
  | error error => exact ⟨error, rfl⟩
  | ok results =>
    obtain ⟨result, built⟩ := (mapM_ok_iff.mp ran).1 key present
    rcases buildMetrics_cases sound inside key with ⟨none_, _⟩ | ⟨_, ranged, _⟩ |
      ⟨_, _, error, raised⟩
    · rw [none_] at out
      exact absurd sumsInRange_nil out
    · exact absurd ranged out
    · rw [raised] at built
      cases built

section Tables

private theorem loneAttempt_valid : AttemptFields.check
    { requestId := "r1", provider := "openai", model := "gpt", startedAt := 1000000
      finishedAt := 2000000, latencyMs := 1000, success := true
      estimatedCost := some (1 / 1000), createdAt := 2000000 } = .ok () := by
  decide +kernel

/-- A priced attempt two seconds after the epoch. -/
def loneAttempt : AttemptRecord where
  requestId := "r1"
  provider := "openai"
  model := "gpt"
  startedAt := 1000000
  finishedAt := 2000000
  latencyMs := 1000
  success := true
  estimatedCost := some (1 / 1000)
  createdAt := 2000000
  valid := loneAttempt_valid

/-- The table that the attempts leave. -/
def tableOf (attempts : List AttemptRecord) : List AttemptRow :=
  attempts.foldl (fun table next => (recordAttempt (fun _ => none) table next).2) []

theorem tableOf_filled (attempts : List AttemptRecord) : Filled (tableOf attempts) := by
  have from_any : ∀ table, Filled table → Filled (attempts.foldl
      (fun table next => (recordAttempt (fun _ => none) table next).2) table) := by
    induction attempts with
    | nil => exact fun _ filled => filled
    | cons next later ih => exact fun table filled => ih _ (.recorded _ next filled)
  exact from_any [] .empty

/-- An attempt of a second. -/
def attemptFields (requestId model : String) (finishedAt : Int) (latencyMs : ℚ)
    (estimatedCost : Option ℚ) : AttemptFields where
  requestId
  provider := "openai"
  model
  startedAt := finishedAt - 1000000
  finishedAt
  latencyMs
  success := true
  estimatedCost
  createdAt := finishedAt

theorem attemptFields_valid {requestId model : String} {finishedAt : Int} {latencyMs : ℚ}
    {estimatedCost : Option ℚ} (requested : requestId ≠ "") (named : model ≠ "")
    (latency : 0 ≤ latencyMs) (costs : ∀ cost ∈ estimatedCost, 0 ≤ cost) :
    (attemptFields requestId model finishedAt latencyMs estimatedCost).check = .ok () := by
  have provided : "openai" ≠ "" := by simp
  have timed : finishedAt - 1000000 ≤ finishedAt := by omega
  simp only [AttemptFields.check, then_ok_iff, require_ok_iff, checkSome_ok_iff]
  exact ⟨requested, provided, named, latency, costs, timed⟩

private theorem old_valid : (attemptFields "r2" "gpt" 86400000000 900 none).check = .ok () :=
  attemptFields_valid (by simp) (by simp) (by norm_num) (by simp)

private theorem early_valid :
    (attemptFields "r3" "gpt" 864000000000 700 (some (1 / 500))).check = .ok () :=
  attemptFields_valid (by simp) (by simp) (by norm_num) (by norm_num)

private theorem other_valid : (attemptFields "r4" "mini" 864000000000 400 none).check = .ok () :=
  attemptFields_valid (by simp) (by simp) (by norm_num) (by simp)

private theorem late_valid : (attemptFields "r5" "gpt" 864001000000 500 none).check = .ok () :=
  attemptFields_valid (by simp) (by simp) (by norm_num) (by simp)

/-- Attempts of two models; one of them finished nine days before the last. -/
def weekAttempts : List AttemptRecord :=
  [⟨_, old_valid⟩, ⟨_, early_valid⟩, ⟨_, other_valid⟩, ⟨_, late_valid⟩]

private theorem week_sums : ∀ row ∈ tableOf weekAttempts,
    SumsInRange (windowRows (tableOf weekAttempts) 864060000000 row.key) := by
  decide +kernel

private theorem week_windows :
    (windowRows (tableOf weekAttempts) 864060000000 ("openai", "gpt")).map (·.requestId) =
        ["r5", "r3"] ∧
      (windowRows (tableOf weekAttempts) 864060000000 ("openai", "mini")).map (·.requestId) =
        ["r4"] := by
  decide +kernel

private theorem first_long_valid :
    (attemptFields "r1" "gpt" 1000000 (15 * 10 ^ 307) none).check = .ok () :=
  attemptFields_valid (by simp) (by simp) (by norm_num) (by simp)

private theorem second_long_valid :
    (attemptFields "r2" "gpt" 2000000 (15 * 10 ^ 307) none).check = .ok () :=
  attemptFields_valid (by simp) (by simp) (by norm_num) (by simp)

/-- Two latencies that are floats, and whose sum is not. -/
def longAttempts : List AttemptRecord := [⟨_, first_long_valid⟩, ⟨_, second_long_valid⟩]

private theorem long_raised :
    (buildMetrics .exact (tableOf longAttempts) 86400000000 ("openai", "gpt")).map (·.isSome) =
        .error .overflow ∧
      (listProviderMetrics .exact (tableOf longAttempts) 86400000000).map (·.length) =
        .error .overflow ∧
      (windowRows (tableOf longAttempts) 86400000000 ("openai", "gpt")).length = 2 := by
  decide +kernel

end Tables

end Metrics

end ModelPilot.MetricsStore
