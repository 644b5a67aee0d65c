import ModelPilot.FixedWidth
import ModelPilot.Python

/-! Timestamps as stored text: the proleptic Gregorian calendar of `datetime`,
`serialize_datetime` (`sqlite_database.py`) and its inverse. Text order is time
order, so SQL comparisons of timestamp columns compare instants. -/
namespace ModelPilot.Timestamps
open FixedWidth

def isLeap (year : Nat) : Bool := year % 4 = 0 && (year % 100 ≠ 0 || year % 400 = 0)

def daysBeforeYear (year : Nat) : Nat :=
  (year - 1) * 365 + (year - 1) / 4 - (year - 1) / 100 + (year - 1) / 400

/-- Days before a month, and in it. -/
def daysBeforeMonth (leap : Bool) (month : Nat) : Nat :=
  [0, 0, 31, 59, 90, 120, 151, 181, 212, 243, 273, 304, 334].getD month 365 +
    if 2 < month && leap then 1 else 0

def daysInMonth (leap : Bool) (month : Nat) : Nat :=
  [0, 31, 28, 31, 30, 31, 30, 31, 31, 30, 31, 30, 31].getD month 0 +
    if month = 2 && leap then 1 else 0

/-- `_ymd2ord`. -/
def ordinalOf (year month day : Nat) : Nat :=
  daysBeforeYear year + daysBeforeMonth (isLeap year) month + day

/-- The month and day of a zero-based day of the year. -/
def monthDay (leap : Bool) (day : Nat) : Nat × Nat :=
  let month := (day + 50) / 32
  let month := if day < daysBeforeMonth leap month then month - 1 else month
  (month, day - daysBeforeMonth leap month + 1)

structure Date where
  year : Nat
  month : Nat
  day : Nat
  deriving DecidableEq, Repr

/-- `_ord2ymd`. -/
def dateOf (ordinal : Nat) : Date :=
  let n := ordinal - 1
  let n400 := n / 146097
  let n := n % 146097
  let n100 := n / 36524
  let n := n % 36524
  let n4 := n / 1461
  let n := n % 1461
  let n1 := n / 365
  let n := n % 365
  let year := n400 * 400 + 1 + n100 * 100 + n4 * 4 + n1
  if n1 = 4 || n100 = 4 then ⟨year - 1, 12, 31⟩
  else
    let leap := n1 = 3 && (n4 ≠ 24 || n100 = 3)
    ⟨year, (monthDay leap n).1, (monthDay leap n).2⟩

/-- A date with a month and a day that exist. -/
structure Date.Valid (date : Date) : Prop where
  year : 1 ≤ date.year
  month : 1 ≤ date.month ∧ date.month ≤ 12
  day : 1 ≤ date.day ∧ date.day ≤ daysInMonth (isLeap date.year) date.month

theorem isLeap_iff (year : Nat) :
    isLeap year = true ↔ year % 4 = 0 ∧ (year % 100 ≠ 0 ∨ year % 400 = 0) := by
  simp [isLeap]

theorem daysBeforeYear_succ (past : Nat) :
    daysBeforeYear (past + 2) =
      daysBeforeYear (past + 1) + 365 + if isLeap (past + 1) then 1 else 0 := by
  have bound : past / 100 ≤ past / 4 := by omega
  have fours : (past + 1) / 4 = past / 4 + if (past + 1) % 4 = 0 then 1 else 0 := by
    split <;> omega
  have hundreds : (past + 1) / 100 = past / 100 + if (past + 1) % 100 = 0 then 1 else 0 := by
    split <;> omega
  have cycles : (past + 1) / 400 = past / 400 + if (past + 1) % 400 = 0 then 1 else 0 := by
    split <;> omega
  have nested : (past + 1) % 400 = 0 → (past + 1) % 100 = 0 := by omega
  have nested' : (past + 1) % 100 = 0 → (past + 1) % 4 = 0 := by omega
  simp only [daysBeforeYear, Nat.succ_sub_one, show past + 2 - 1 = past + 1 from
    rfl, fours, hundreds, cycles, isLeap_iff]
  clear fours hundreds cycles
  by_cases four : (past + 1) % 4 = 0 <;> by_cases hundred : (past + 1) % 100 = 0 <;>
    by_cases cycle : (past + 1) % 400 = 0 <;> simp [four, hundred, cycle] at nested nested' ⊢ <;>
    omega

theorem daysBeforeYear_mono : Monotone daysBeforeYear := by
  apply monotone_nat_of_le_succ
  intro year
  cases year with
  | zero => decide
  | succ past =>
    rw [daysBeforeYear_succ]
    omega

/-- Years counted in cycles of 400, 100, 4 and 1. -/
theorem daysBeforeYear_cycles (a : Nat) (century : b < 4) (four : c < 25) (one : e < 4) :
    daysBeforeYear (a * 400 + 1 + b * 100 + c * 4 + e) =
      a * 146097 + b * 36524 + c * 1461 + e * 365 := by
  have past : a * 400 + 1 + b * 100 + c * 4 + e - 1 = a * 400 + b * 100 + c * 4 + e := by omega
  have fours : (a * 400 + b * 100 + c * 4 + e) / 4 = a * 100 + b * 25 + c := by omega
  have hundreds : (a * 400 + b * 100 + c * 4 + e) / 100 = a * 4 + b := by omega
  have cycles : (a * 400 + b * 100 + c * 4 + e) / 400 = a := by omega
  rw [daysBeforeYear, past, fours, hundreds, cycles]
  omega

theorem isLeap_cycles (a : Nat) (century : b < 4) (four : c < 25) (one : e < 4) :
    isLeap (a * 400 + 1 + b * 100 + c * 4 + e) = (e = 3 && (c ≠ 24 || b = 3)) := by
  rw [Bool.eq_iff_iff, isLeap_iff]
  simp only [Bool.and_eq_true, Bool.or_eq_true, decide_eq_true_eq, ne_eq]
  omega

/-- The calendar within one year. -/
theorem monthDay_spec (leap : Bool) (bound : day < 365 + if leap then 1 else 0) :
    1 ≤ (monthDay leap day).1 ∧ (monthDay leap day).1 ≤ 12 ∧ 1 ≤ (monthDay leap day).2 ∧
      (monthDay leap day).2 ≤ daysInMonth leap (monthDay leap day).1 ∧
      daysBeforeMonth leap (monthDay leap day).1 + (monthDay leap day).2 = day + 1 := by
  have common : ∀ day < 365, 1 ≤ (monthDay false day).1 ∧ (monthDay false day).1 ≤ 12 ∧
      1 ≤ (monthDay false day).2 ∧
      (monthDay false day).2 ≤ daysInMonth false (monthDay false day).1 ∧
      daysBeforeMonth false (monthDay false day).1 + (monthDay false day).2 = day + 1 := by
    decide +kernel
  have leaping : ∀ day < 366, 1 ≤ (monthDay true day).1 ∧ (monthDay true day).1 ≤ 12 ∧
      1 ≤ (monthDay true day).2 ∧
      (monthDay true day).2 ≤ daysInMonth true (monthDay true day).1 ∧
      daysBeforeMonth true (monthDay true day).1 + (monthDay true day).2 = day + 1 := by
    decide +kernel
  cases leap with
  | false => exact common day bound
  | true => exact leaping day bound

/-- The last day of a leap year. -/
theorem lastDay_spec (leap : isLeap year = true) (positive : 1 ≤ year) :
    (Date.mk year 12 31).Valid ∧ ordinalOf year 12 31 = daysBeforeYear year + 366 := by
  refine ⟨⟨positive, ⟨Nat.le_add_left 1 11, Nat.le_refl 12⟩, ?_⟩, ?_⟩
  · dsimp only
    rw [leap]
    decide
  · have before : daysBeforeMonth true 12 = 335 := by decide
    rw [ordinalOf, leap]
    omega

/-- The date of a day number is a date, and the day number is its own. -/
theorem dateOf_spec (positive : 1 ≤ ordinal) :
    (dateOf ordinal).Valid ∧
      ordinalOf (dateOf ordinal).year (dateOf ordinal).month (dateOf ordinal).day = ordinal := by
  obtain ⟨n, rfl⟩ : ∃ n, ordinal = n + 1 := ⟨ordinal - 1, by omega⟩
  unfold dateOf
  simp only [Nat.add_sub_cancel]
  generalize cycle : n / 146097 = a
  generalize century : n % 146097 / 36524 = b
  generalize four : n % 146097 % 36524 / 1461 = c
  generalize one : n % 146097 % 36524 % 1461 / 365 = e
  generalize rest : n % 146097 % 36524 % 1461 % 365 = r
  split
  · -- the cycles end on the last day of a leap year, one past their last year
    rename_i last
    have bounds : n = a * 146097 + b * 36524 + c * 1461 + e * 365 + r ∧
        (b = 4 ∧ c = 0 ∧ e = 0 ∧ r = 0 ∨ b < 4 ∧ c < 24 ∧ e = 4 ∧ r = 0) := by
      simp only [Bool.or_eq_true, decide_eq_true_eq] at last
      omega
    clear cycle century four one rest last positive
    obtain ⟨rfl, ⟨rfl, rfl, rfl, rfl⟩ | ⟨century, four, rfl, rfl⟩⟩ := bounds
    · have year : a * 400 + 1 + 4 * 100 + 0 * 4 + 0 - 1 = a * 400 + 1 + 3 * 100 + 24 * 4 + 3 := by
        omega
      have leap := isLeap_cycles a (show 3 < 4 by decide) (show 24 < 25 by decide)
        (show 3 < 4 by decide)
      obtain ⟨valid, total⟩ := lastDay_spec leap (by omega)
      rw [daysBeforeYear_cycles a (by decide) (by decide) (by decide)] at total
      rw [year]
      exact ⟨valid, total.trans (by omega)⟩
    · have year : a * 400 + 1 + b * 100 + c * 4 + 4 - 1 = a * 400 + 1 + b * 100 + c * 4 + 3 := by
        omega
      have leap := isLeap_cycles a century (show c < 25 by omega) (show 3 < 4 by decide)
      have always : (decide (3 = 3) && (decide (c ≠ 24) || decide (b = 3))) = true := by
        simp [show c ≠ 24 by omega]
      rw [always] at leap
      obtain ⟨valid, total⟩ := lastDay_spec leap (by omega)
      rw [daysBeforeYear_cycles a century (by omega) (by decide)] at total
      rw [year]
      exact ⟨valid, total.trans (by omega)⟩
  · rename_i inner
    have bounds : b < 4 ∧ c < 25 ∧ e < 4 ∧ r < 365 ∧
        n = a * 146097 + b * 36524 + c * 1461 + e * 365 + r := by
      simp only [Bool.or_eq_true, decide_eq_true_eq] at inner
      omega
    obtain ⟨century, four, one, day, split⟩ := bounds
    have leap := isLeap_cycles a century four one
    obtain ⟨low, high, first, within, total⟩ := monthDay_spec (e = 3 && (c ≠ 24 || b = 3))
      (show r < 365 + if (e = 3 && (c ≠ 24 || b = 3)) = true then 1 else 0 by omega)
    refine ⟨⟨by dsimp only; omega, ⟨low, high⟩, first, by dsimp only; rw [leap]; exact within⟩, ?_⟩
    dsimp only [ordinalOf]
    rw [leap, daysBeforeYear_cycles a century four one]
    omega

theorem daysBeforeMonth_lt (leap : Bool) (earlier : a < b) (bound : b ≤ 12) (positive : 1 ≤ a) :
    daysBeforeMonth leap a + daysInMonth leap a ≤ daysBeforeMonth leap b := by
  have all : ∀ leap, ∀ b < 13, ∀ a < b, 1 ≤ a →
      daysBeforeMonth leap a + daysInMonth leap a ≤ daysBeforeMonth leap b := by
    decide +kernel
  exact all leap b (by omega) a earlier positive

theorem daysBeforeMonth_le (leap : Bool) (positive : 1 ≤ month) (bound : month ≤ 12) :
    daysBeforeMonth leap month + daysInMonth leap month ≤ 365 + if leap then 1 else 0 := by
  have all : ∀ leap, ∀ month < 13, 1 ≤ month →
      daysBeforeMonth leap month + daysInMonth leap month ≤ 365 + if leap then 1 else 0 := by
    decide +kernel
  exact all leap month (by omega) positive

/-- Dates in field order. -/
def Date.Before (left right : Date) : Prop :=
  left.year < right.year ∨ left.year = right.year ∧
    (left.month < right.month ∨ left.month = right.month ∧ left.day < right.day)

/-- The day number of a date. -/
def Date.ordinal (date : Date) : Nat := ordinalOf date.year date.month date.day

/-- A year ends before the next one starts. -/
theorem ordinal_le_year {date : Date} (valid : date.Valid) :
    daysBeforeYear date.year < date.ordinal ∧ date.ordinal ≤ daysBeforeYear (date.year + 1) := by
  obtain ⟨past, year⟩ : ∃ past, date.year = past + 1 := ⟨date.year - 1, by have := valid.year; omega⟩
  have within := daysBeforeMonth_le (isLeap date.year) valid.month.1 valid.month.2
  have day := valid.day
  have next := daysBeforeYear_succ past
  rw [← year] at next
  rw [show date.year + 1 = past + 2 by omega, next, Date.ordinal, ordinalOf]
  omega

theorem ordinal_lt {left right : Date} (leftValid : left.Valid) (rightValid : right.Valid)
    (before : left.Before right) : left.ordinal < right.ordinal := by
  rcases before with earlier | ⟨year, earlier | ⟨month, earlier⟩⟩
  · have ends := (ordinal_le_year leftValid).2
    have starts := (ordinal_le_year rightValid).1
    have between := daysBeforeYear_mono (show left.year + 1 ≤ right.year from earlier)
    omega
  · have between := daysBeforeMonth_lt (isLeap left.year) earlier rightValid.month.2
      leftValid.month.1
    have first := leftValid.day
    have second := rightValid.day
    simp only [Date.ordinal, ordinalOf, ← year]
    omega
  · simp only [Date.ordinal, ordinalOf, ← year, ← month]
    omega

/-- Later day numbers are later dates. -/
theorem dateOf_before (positive : 1 ≤ a) (later : a < b) : (dateOf a).Before (dateOf b) := by
  obtain ⟨leftValid, left⟩ := dateOf_spec positive
  obtain ⟨rightValid, right⟩ := dateOf_spec (show 1 ≤ b by omega)
  change (dateOf a).ordinal = a at left
  change (dateOf b).ordinal = b at right
  by_contra notBefore
  have cases : dateOf b = dateOf a ∨ (dateOf b).Before (dateOf a) := by
    rcases dateA : dateOf a with ⟨yearA, monthA, dayA⟩
    rcases dateB : dateOf b with ⟨yearB, monthB, dayB⟩
    rw [dateA, dateB] at notBefore
    simp only [Date.Before, Date.mk.injEq] at notBefore ⊢
    omega
  rcases cases with same | after
  · rw [same, left] at right
    omega
  · have contrary := ordinal_lt rightValid leftValid after
    omega

/-- Microseconds in a day. -/
def dayMicros : Nat := 86400000000

/-- Days of the datetime range. -/
theorem dateOf_year (positive : 1 ≤ ordinal) (bound : ordinal ≤ 3652059) :
    (dateOf ordinal).year < 10000 := by
  obtain ⟨valid, same⟩ := dateOf_spec positive
  change (dateOf ordinal).ordinal = ordinal at same
  have starts := (ordinal_le_year valid).1
  by_contra late
  have between := daysBeforeYear_mono (show 10000 ≤ (dateOf ordinal).year by omega)
  have last : daysBeforeYear 10000 = 3652059 := by decide
  omega

/-- The day number and the microsecond of the day of an instant. -/
def dayOf (at_ : Int) : Nat := (at_ - Datetime.minUtc).toNat / dayMicros + 1
def microsOf (at_ : Int) : Nat := (at_ - Datetime.minUtc).toNat % dayMicros

/-- The text of a time of day. -/
def timeText (micros : Nat) : List Char :=
  padded 2 (micros / 3600000000) ++ ':' :: (padded 2 (micros / 60000000 % 60) ++ ':' ::
    (padded 2 (micros / 1000000 % 60) ++ '.' :: (padded 6 (micros % 1000000) ++ "+00:00".toList)))

def dateText (date : Date) (rest : List Char) : List Char :=
  padded 4 date.year ++ '-' :: (padded 2 date.month ++ '-' :: (padded 2 date.day ++ 'T' :: rest))

/-- `isoformat(timespec="microseconds")` of a UTC datetime. -/
def isoformat (at_ : Int) : String :=
  String.ofList (dateText (dateOf (dayOf at_)) (timeText (microsOf at_)))

/-- `serialize_datetime`. -/
def serializeDatetime (value : Datetime) : Except PyError String :=
  match value with
  | .naive _ => .error (.value "datetime values must be timezone-aware")
  | .aware _ _ => value.astimezone.map isoformat

theorem serializeDatetime_ok_iff {value : Datetime} {text : String} :
    serializeDatetime value = .ok text ↔
      ∃ at_, value.toUtc = some at_ ∧ Datetime.InRange at_ ∧ text = isoformat at_ := by
  cases value with
  | naive wall => simp [serializeDatetime, Datetime.toUtc]
  | aware wall utcoffset =>
    change (Datetime.aware wall utcoffset).astimezone.map isoformat = .ok text ↔ _
    rw [map_ok_iff]
    simp only [Datetime.astimezone_ok_iff, and_assoc, @eq_comm _ _ text]

/-- The fields of a stored timestamp, in the shape `isoformat` writes. -/
def readTimestamp (text : List Char) : Option (Date × Nat) := do
  let (year, text) ← readDigits 4 text
  let text ← readChar '-' text
  let (month, text) ← readDigits 2 text
  let text ← readChar '-' text
  let (day, text) ← readDigits 2 text
  let text ← readChar 'T' text
  let (hour, text) ← readDigits 2 text
  let text ← readChar ':' text
  let (minute, text) ← readDigits 2 text
  let text ← readChar ':' text
  let (second, text) ← readDigits 2 text
  let text ← readChar '.' text
  let (micro, text) ← readDigits 6 text
  if text = "+00:00".toList ∧ 1 ≤ year ∧ 1 ≤ month ∧ month ≤ 12 ∧ 1 ≤ day ∧
      day ≤ daysInMonth (isLeap year) month ∧ hour < 24 ∧ minute < 60 ∧ second < 60 then
    some (⟨year, month, day⟩, ((hour * 60 + minute) * 60 + second) * 1000000 + micro)
  else none

/-- `datetime.fromisoformat`, on the one format the stores write. -/
def fromisoformat (text : String) : Except PyError Datetime :=
  match readTimestamp text.toList with
  | none => .error (.value "Invalid isoformat string")
  | some (date, micros) =>
    .ok (.utc (Datetime.minUtc + ((date.ordinal - 1) * dayMicros + micros : Nat)))

private theorem timeText_lt (earlier : a < b) (bound : b < dayMicros) :
    timeText a < timeText b := by
  unfold dayMicros at bound
  unfold timeText
  by_cases hour : a / 3600000000 < b / 3600000000
  · exact padded_lt hour (by omega)
  have hours : a / 3600000000 = b / 3600000000 := by omega
  rw [hours]
  refine padded_append_lt (cons_lt _ ?_)
  by_cases minute : a / 60000000 % 60 < b / 60000000 % 60
  · exact padded_lt minute (by omega)
  have minutes : a / 60000000 % 60 = b / 60000000 % 60 := by omega
  rw [minutes]
  refine padded_append_lt (cons_lt _ ?_)
  by_cases second : a / 1000000 % 60 < b / 1000000 % 60
  · exact padded_lt second (by omega)
  have seconds : a / 1000000 % 60 = b / 1000000 % 60 := by omega
  rw [seconds]
  exact padded_append_lt (cons_lt _ (padded_lt (by omega) (by omega)))

private theorem dateText_lt {left right : Date} (before : left.Before right)
    (valid : right.Valid) (year : right.year < 10000) (these those : List Char) :
    dateText left these < dateText right those := by
  have month := valid.month.2
  have day : right.day ≤ 31 := by
    have all : ∀ leap, ∀ month < 13, daysInMonth leap month ≤ 31 := by decide
    exact Nat.le_trans valid.day.2 (all _ _ (by omega))
  rcases before with earlier | ⟨sameYear, earlier | ⟨sameMonth, earlier⟩⟩
  · exact padded_lt earlier (by omega)
  · rw [dateText, dateText, sameYear]
    exact padded_append_lt (cons_lt _ (padded_lt earlier (by omega)))
  · rw [dateText, dateText, sameYear, sameMonth]
    exact padded_append_lt (cons_lt _ (padded_append_lt (cons_lt _ (padded_lt earlier (by omega)))))

theorem dayOf_bounds (inside : Datetime.InRange at_) : 1 ≤ dayOf at_ ∧ dayOf at_ ≤ 3652059 := by
  simp only [Datetime.InRange, Datetime.minUtc, Datetime.maxUtc] at inside
  simp only [dayOf, dayMicros, Datetime.minUtc]
  omega

/-- The text of a later instant is greater. -/
theorem isoformat_lt (inside : Datetime.InRange b) (earlier : a < b)
    (after : Datetime.minUtc ≤ a) : isoformat a < isoformat b := by
  rw [isoformat, isoformat, String.lt_iff_toList_lt, String.toList_ofList, String.toList_ofList]
  have bounds := dayOf_bounds inside
  have valid := (dateOf_spec bounds.1).1
  have year := dateOf_year bounds.1 bounds.2
  have days : dayOf a ≤ dayOf b := by
    simp only [dayOf, dayMicros]
    omega
  rcases Nat.lt_or_eq_of_le days with lower | same
  · exact dateText_lt (dateOf_before (by simp [dayOf]) lower) valid year _ _
  · have micros : microsOf a < microsOf b := by
      simp only [dayOf, microsOf, dayMicros, Datetime.minUtc] at same after ⊢
      omega
    rw [same, dateText, dateText]
    exact padded_append_lt (cons_lt _ (padded_append_lt (cons_lt _ (padded_append_lt
      (cons_lt _ (timeText_lt micros (Nat.mod_lt _ (by decide))))))))

/-- Text order is time order. -/
theorem isoformat_lt_iff (insideA : Datetime.InRange a) (insideB : Datetime.InRange b) :
    isoformat a < isoformat b ↔ a < b := by
  constructor
  · intro ordered
    by_contra notEarlier
    rcases Int.lt_or_eq_of_le (Int.not_lt.mp notEarlier) with later | same
    · exact lt_asymm ordered (isoformat_lt insideA later insideB.1)
    · exact lt_irrefl _ (same ▸ ordered)
  · exact fun earlier => isoformat_lt insideB earlier insideA.1

theorem isoformat_le_iff (insideA : Datetime.InRange a) (insideB : Datetime.InRange b) :
    isoformat a ≤ isoformat b ↔ a ≤ b := by
  rw [← not_lt, isoformat_lt_iff insideB insideA, not_lt]

theorem isoformat_inj (insideA : Datetime.InRange a) (insideB : Datetime.InRange b)
    (same : isoformat a = isoformat b) : a = b := by
  have notBefore : ¬ a < b := fun earlier =>
    lt_irrefl _ (same ▸ (isoformat_lt_iff insideA insideB).mpr earlier)
  have notAfter : ¬ b < a := fun later =>
    lt_irrefl _ (same ▸ (isoformat_lt_iff insideB insideA).mpr later)
  omega

/-- A stored timestamp reads back as the instant it was written for. -/
theorem fromisoformat_isoformat (inside : Datetime.InRange at_) :
    fromisoformat (isoformat at_) = .ok (.utc at_) := by
  have bounds := dayOf_bounds inside
  obtain ⟨valid, same⟩ := dateOf_spec bounds.1
  have year := dateOf_year bounds.1 bounds.2
  have month := valid.month
  have day : (dateOf (dayOf at_)).day ≤ 31 := by
    have all : ∀ leap, ∀ month < 13, daysInMonth leap month ≤ 31 := by decide
    exact Nat.le_trans valid.day.2 (all _ _ (by omega))
  have micros : microsOf at_ < dayMicros := Nat.mod_lt _ (by decide)
  have read : readTimestamp (isoformat at_).toList =
      some (dateOf (dayOf at_), microsOf at_) := by
    rw [isoformat, String.toList_ofList, dateText, timeText]
    unfold dayMicros at micros
    unfold readTimestamp
    have small : ∀ n, n < 100 → n < 10 ^ 2 := fun _ held => held
    simp only [bind, Option.bind, readChar_cons,
      readDigits_padded (show (dateOf (dayOf at_)).year < 10 ^ 4 from year),
      readDigits_padded (small (dateOf (dayOf at_)).month (by omega)),
      readDigits_padded (small (dateOf (dayOf at_)).day (by omega)),
      readDigits_padded (small (microsOf at_ / 3600000000) (by omega)),
      readDigits_padded (small (microsOf at_ / 60000000 % 60) (by omega)),
      readDigits_padded (small (microsOf at_ / 1000000 % 60) (by omega)),
      readDigits_padded (show microsOf at_ % 1000000 < 10 ^ 6 by omega)]
    rw [if_pos ⟨trivial, valid.year, month.1, month.2, valid.day.1, valid.day.2, by omega, by omega,
      by omega⟩]
    simp only [Option.some.injEq, Prod.mk.injEq, true_and]
    omega
  rw [fromisoformat, read]
  change (dateOf (dayOf at_)).ordinal = dayOf at_ at same
  simp only [same]
  simp only [Datetime.InRange, dayOf, microsOf, dayMicros, Datetime.minUtc] at inside ⊢
  simp only [Except.ok.injEq, Datetime.utc, Datetime.aware.injEq, and_true]
  omega

end ModelPilot.Timestamps
