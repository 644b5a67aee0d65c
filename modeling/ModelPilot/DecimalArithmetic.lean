import Mathlib.Algebra.Order.Field.Power
import Mathlib.Data.Nat.Log
import Mathlib.Tactic.Linarith
import Mathlib.Tactic.Positivity
import Mathlib.Tactic.Ring
import ModelPilot.Decimals

/-! Subtraction of decimals in a context: the exact difference, cut to a number of
digits by the rounding of the context, and whether anything was cut. Exponents are
not bounded there. In the default context, what an operation's rounding keeps. -/
namespace ModelPilot

/-- The signed coefficient. -/
def Decimal.signed (value : Decimal) : Int :=
  if value.negative then -value.coefficient else value.coefficient

/-- `len(value.as_tuple().digits)`. -/
def Decimal.digitCount (value : Decimal) : Nat := Nat.log 10 value.coefficient + 1

/-- The coefficient at an exponent that is not larger. -/
def Decimal.scaled (value : Decimal) (exponent : Int) : Int :=
  value.signed * 10 ^ (value.exponent - exponent).toNat

def Decimal.ofSigned (coefficient exponent : Int) : Decimal :=
  ⟨decide (coefficient < 0), coefficient.natAbs, exponent⟩

/-- A context: its precision, how it rounds a quotient, and whether an invalid
operation raises in it. -/
structure DecimalContext where
  prec : Nat
  rounding : Int → Int → Int
  trapsInvalidOperation : Bool

/-- `ROUND_FLOOR`. -/
def roundFloor (value unit : Int) : Int := value / unit

/-- `left - right`, and the `Inexact` flag. A quotient that rounds up to a power of
ten keeps its last zero. -/
def DecimalContext.subtract (context : DecimalContext) (left right : Decimal) : Decimal × Bool :=
  let exponent := min left.exponent right.exponent
  let exact := left.scaled exponent - right.scaled exponent
  let dropped := Nat.log 10 exact.natAbs + 1 - context.prec
  (.ofSigned (context.rounding exact (10 ^ dropped)) (exponent + dropped),
    exact % 10 ^ dropped != 0)

namespace Decimal

theorem toRat_signed (value : Decimal) : value.toRat = value.signed * 10 ^ value.exponent := by
  rw [toRat, signed]
  cases value.negative <;> simp

theorem toRat_ofSigned (coefficient exponent : Int) :
    (ofSigned coefficient exponent).toRat = coefficient * 10 ^ exponent := by
  have sign : (ofSigned coefficient exponent).signed = coefficient := by
    simp only [signed, ofSigned, decide_eq_true_eq]
    split <;> omega
  rw [toRat_signed, sign]
  rfl

theorem scaled_toRat {value : Decimal} {exponent : Int} (smaller : exponent ≤ value.exponent) :
    (value.scaled exponent : ℚ) * 10 ^ exponent = value.toRat := by
  obtain ⟨shift, same⟩ := Int.eq_ofNat_of_zero_le (Int.sub_nonneg.mpr smaller)
  have power : value.exponent = exponent + shift := by omega
  rw [toRat_signed, scaled, same, power, zpow_add₀ (by norm_num), zpow_natCast, Int.toNat_natCast]
  push_cast
  ring

theorem coefficient_lt (value : Decimal) : value.coefficient < 10 ^ value.digitCount :=
  Nat.lt_pow_succ_log_self (by norm_num) _

end Decimal

namespace DecimalContext
variable {context : DecimalContext} {left right : Decimal}

/-- The exact difference, as a coefficient and an exponent. -/
theorem exact_difference (left right : Decimal) :
    ((left.scaled (min left.exponent right.exponent) -
        right.scaled (min left.exponent right.exponent) : Int) : ℚ) *
        10 ^ min left.exponent right.exponent = left.toRat - right.toRat := by
  rw [Int.cast_sub, sub_mul, Decimal.scaled_toRat (min_le_left _ _),
    Decimal.scaled_toRat (min_le_right _ _)]

/-- A context that rounds down. -/
def floorContext (prec : Nat) : DecimalContext where
  prec
  rounding := roundFloor
  trapsInvalidOperation := false

/-- Cutting `dropped` of its digits leaves a number with the other ones. -/
theorem pow_le_cut {exact : Int} (nonneg : 0 ≤ exact) {digits dropped : Nat}
    (wide : exact.natAbs ≠ 0) (long : digits + dropped = Nat.log 10 exact.natAbs) :
    (10 : Int) ^ digits ≤ exact / 10 ^ dropped := by
  rw [Int.le_ediv_iff_mul_le (by positivity), ← pow_add, long]
  have reached := Nat.pow_log_le_self 10 wide
  have magnitude : (exact.natAbs : Int) = exact := Int.natAbs_of_nonneg nonneg
  exact_mod_cast magnitude ▸ Int.ofNat_le.mpr reached

/-- Cutting the last digits of a positive number with more than `prec` of them
leaves the greatest number with `prec` digits that is not larger. -/
theorem floor_greatest {exact : Int} (nonneg : 0 ≤ exact) {prec dropped coefficient : Nat}
    (cut : dropped = Nat.log 10 exact.natAbs + 1 - prec) (few : coefficient < 10 ^ prec)
    {exponent power : Int} (below : (coefficient : ℚ) * 10 ^ power ≤ exact * 10 ^ exponent) :
    (coefficient : ℚ) * 10 ^ power ≤ (exact / 10 ^ dropped : Int) * 10 ^ (exponent + dropped) := by
  have ten : (10 : ℚ) ≠ 0 := by norm_num
  by_cases uncut : dropped = 0
  · subst uncut
    simpa using below
  by_cases coarse : exponent + dropped ≤ power
  · -- the number is a multiple of the unit that is left
    obtain ⟨shift, same⟩ := Int.eq_ofNat_of_zero_le (Int.sub_nonneg.mpr coarse)
    have power_eq : power = exponent + dropped + shift := by omega
    have unit : (0 : ℚ) < 10 ^ exponent := by positivity
    have scaled : (coefficient : Int) * 10 ^ shift * 10 ^ dropped ≤ exact := by
      have cancelled : ((coefficient : Int) * 10 ^ shift * 10 ^ dropped : ℚ) * 10 ^ exponent ≤
          exact * 10 ^ exponent := by
        refine le_trans (le_of_eq ?_) below
        rw [power_eq, zpow_add₀ ten, zpow_add₀ ten, zpow_natCast, zpow_natCast]
        push_cast
        ring
      exact_mod_cast le_of_mul_le_mul_right cancelled unit
    have bounded : (coefficient : Int) * 10 ^ shift ≤ exact / 10 ^ dropped :=
      (Int.le_ediv_iff_mul_le (by positivity)).mpr scaled
    have cast : ((coefficient : Int) * 10 ^ shift : ℚ) ≤ (exact / 10 ^ dropped : Int) := by
      exact_mod_cast bounded
    calc (coefficient : ℚ) * 10 ^ power
        = ((coefficient : Int) * 10 ^ shift : ℚ) * 10 ^ (exponent + dropped) := by
          rw [power_eq, zpow_add₀ ten (exponent + dropped), zpow_natCast]
          push_cast
          ring
      _ ≤ (exact / 10 ^ dropped : Int) * 10 ^ (exponent + dropped) := by gcongr
  · -- the number is smaller than every number with its last of `prec` digits in the unit
    rcases Nat.eq_zero_or_pos prec with none | positive
    · have zero : coefficient = 0 := by simpa [none] using few
      have quotient : (0 : ℚ) ≤ (exact / 10 ^ dropped : Int) := by
        exact_mod_cast Int.ediv_nonneg nonneg (by positivity)
      rw [zero, Nat.cast_zero, zero_mul]
      positivity
    obtain ⟨digits, rfl⟩ : ∃ digits, prec = digits + 1 := ⟨prec - 1, by omega⟩
    have wide : exact.natAbs ≠ 0 := by
      intro none
      rw [none] at cut
      simp only [Nat.log_zero_right] at cut
      omega
    have long : digits + dropped = Nat.log 10 exact.natAbs := by omega
    have least : (10 : ℚ) ^ digits ≤ (exact / 10 ^ dropped : Int) := by
      exact_mod_cast pow_le_cut nonneg wide long
    have most : (coefficient : ℚ) ≤ 10 ^ (digits + 1) := by exact_mod_cast few.le
    calc (coefficient : ℚ) * 10 ^ power
        ≤ 10 ^ (digits + 1) * 10 ^ power := by gcongr
      _ = 10 ^ digits * 10 ^ (power + 1) := by
          rw [zpow_add_one₀ ten]
          ring
      _ ≤ 10 ^ digits * 10 ^ (exponent + dropped) := by
          have step : power + 1 ≤ exponent + dropped := by omega
          have grows : (10 : ℚ) ^ (power + 1) ≤ 10 ^ (exponent + dropped) :=
            zpow_le_zpow_right₀ (by norm_num) step
          gcongr
      _ ≤ (exact / 10 ^ dropped : Int) * 10 ^ (exponent + dropped) := by gcongr

/-- Subtraction rounds down, to the greatest number of its precision that is not
above the difference, and is flagged inexact unless it is the difference. -/
structure Floors (prec : Nat) (exact : ℚ) (result : Decimal × Bool) : Prop where
  below : result.1.toRat ≤ exact
  flagged : result.2 = false ↔ result.1.toRat = exact
  greatest : 0 ≤ exact → ∀ other : Decimal, other.coefficient < 10 ^ prec → other.toRat ≤ exact →
    other.toRat ≤ result.1.toRat

theorem subtract_floors (prec : Nat) (left right : Decimal) :
    Floors prec (left.toRat - right.toRat) ((floorContext prec).subtract left right) := by
  have difference := exact_difference left right
  simp only [subtract, floorContext, roundFloor]
  generalize left.scaled (min left.exponent right.exponent) -
    right.scaled (min left.exponent right.exponent) = exact at difference ⊢
  generalize min left.exponent right.exponent = exponent at difference ⊢
  generalize cut : Nat.log 10 exact.natAbs + 1 - prec = dropped
  rw [← difference]
  have unit : (0 : ℚ) < 10 ^ exponent := by positivity
  have value : (Decimal.ofSigned (exact / 10 ^ dropped) (exponent + dropped)).toRat =
      ((exact / 10 ^ dropped * 10 ^ dropped : Int) : ℚ) * 10 ^ exponent := by
    rw [Decimal.toRat_ofSigned, zpow_add₀ (by norm_num), zpow_natCast]
    push_cast
    ring
  have whole := Int.emod_add_mul_ediv exact (10 ^ dropped)
  have rest := Int.emod_nonneg exact (b := 10 ^ dropped) (by positivity)
  refine ⟨?_, ?_, ?_⟩
  · rw [value]
    gcongr
    linarith
  · rw [value, mul_left_inj' unit.ne', Int.cast_inj]
    rw [bne_eq_false_iff_eq]
    constructor
    · intro none
      linarith
    · intro same
      linarith
  · intro nonneg other few below
    have positive : 0 ≤ exact := by exact_mod_cast nonneg_of_mul_nonneg_left nonneg unit
    rw [Decimal.toRat_ofSigned]
    cases sign : other.negative with
    | true =>
      have quotient : (0 : ℚ) ≤ (exact / 10 ^ dropped : Int) := by
        exact_mod_cast Int.ediv_nonneg positive (by positivity)
      have negative : other.toRat ≤ 0 := by
        rw [Decimal.toRat, sign, if_pos rfl, neg_one_mul, neg_mul, neg_nonpos]
        positivity
      exact negative.trans (by positivity)
    | false =>
      have plain : other.toRat = other.coefficient * 10 ^ other.exponent := by
        rw [Decimal.toRat, sign]
        simp
      rw [plain] at below ⊢
      exact floor_greatest positive cut.symm few below

end DecimalContext

/-! ### The default context -/

namespace Decimal

/-- A number that 28 digits hold, within the least exponent. -/
def Representable (value : ℚ) : Prop :=
  ∃ coefficient exponent : Int, value = coefficient * 10 ^ exponent ∧
    |coefficient| ≤ 10 ^ 28 ∧ -1000026 ≤ exponent

/-- The exponent an operation rounds to. -/
def lastPlace (value : ℚ) : Int := max (Int.log 10 |value| - 27) (-1000026)

/-- What an operation rounds its result to. -/
def rounded (value : ℚ) : ℚ :=
  roundHalfEven (value / 10 ^ lastPlace value) * 10 ^ lastPlace value

@[simp] theorem rounded_zero : rounded 0 = 0 := by simp [rounded]

/-- An operation rounds its result, which has to stay in range. -/
theorem fix_ok_iff {value result : ℚ} :
    fix value = .ok result ↔ result = rounded value ∧ |result| < 10 ^ 1000000 := by
  unfold fix
  by_cases zero : value = 0
  · rw [if_pos zero, zero, rounded_zero, Except.ok.injEq]
    constructor
    · rintro rfl
      exact ⟨rfl, by rw [abs_zero]; exact pow_pos (by norm_num) _⟩
    · exact fun held => held.1.symm
  · simp only [if_neg zero]
    change (if (10 : ℚ) ^ 1000000 ≤ |rounded value| then _ else Except.ok (rounded value)) = _ ↔ _
    split
    · rename_i large
      constructor
      · intro refused
        cases refused
      · rintro ⟨rfl, small⟩
        exact absurd large (not_le.mpr small)
    · rename_i small
      rw [Except.ok.injEq]
      constructor
      · rintro rfl
        exact ⟨rfl, not_le.mp small⟩
      · exact fun held => held.1.symm

theorem representable_zero : Representable 0 := ⟨0, 0, by norm_num, by norm_num, by norm_num⟩

/-- The digits of a result. -/
theorem rounded_le {value : ℚ} : |roundHalfEven (value / 10 ^ lastPlace value)| ≤ 10 ^ 28 := by
  have unit : (0 : ℚ) < 10 ^ lastPlace value := zpow_pos (by norm_num) _
  have below : |value| < 10 ^ (lastPlace value + 28) := by
    have digits : |value| < 10 ^ (Int.log 10 |value| + 1) :=
      Int.lt_zpow_succ_log_self (by norm_num) _
    refine digits.trans_le (zpow_le_zpow_right₀ (by norm_num) ?_)
    have enough := le_max_left (Int.log 10 |value| - 27) (-1000026)
    unfold lastPlace
    omega
  have scaled : |value / 10 ^ lastPlace value| ≤ 10 ^ 28 := by
    rw [abs_div, abs_of_pos unit, div_le_iff₀ unit]
    rw [zpow_add₀ (by norm_num), mul_comm] at below
    exact_mod_cast below.le
  rw [abs_le] at scaled ⊢
  have low := roundHalfEven_mono scaled.1
  have high := roundHalfEven_mono scaled.2
  have bound : ((10 ^ 28 : Int) : ℚ) = 10 ^ 28 := by norm_num
  rw [← bound, ← Int.cast_neg, roundHalfEven_intCast] at low
  rw [← bound, roundHalfEven_intCast] at high
  exact ⟨low, high⟩

theorem fix_representable {value result : ℚ} (fixed : fix value = .ok result) :
    Representable result :=
  ⟨_, _, (fix_ok_iff.mp fixed).1, rounded_le, le_max_right _ _⟩

/-- A number that is rounded to 28 digits has them all. -/
theorem full_digits {value : ℚ} (positive : 0 < value)
    (place : lastPlace value = Int.log 10 value - 27) :
    ((10 ^ 27 : Int) : ℚ) ≤ roundHalfEven (value / 10 ^ lastPlace value) := by
  have unit : (0 : ℚ) < 10 ^ lastPlace value := zpow_pos (by norm_num) _
  have leading : (10 : ℚ) ^ 27 * 10 ^ lastPlace value ≤ value := by
    have digits : ((10 : Nat) : ℚ) ^ Int.log 10 value ≤ value :=
      Int.zpow_log_le_self (by norm_num) positive
    have split : Int.log 10 value = 27 + lastPlace value := by omega
    rw [split, zpow_add₀ (by norm_num)] at digits
    exact_mod_cast digits
  have units := (le_div_iff₀ unit).mpr leading
  have whole : ((10 ^ 27 : Int) : ℚ) = 10 ^ 27 := by norm_num
  rw [← whole] at units
  have mono := roundHalfEven_mono units
  rw [roundHalfEven_intCast] at mono
  exact_mod_cast mono

/-- Rounding keeps the order of numbers that are not negative. -/
theorem rounded_mono {low high : ℚ} (nonneg : 0 ≤ low) (below : low ≤ high) :
    rounded low ≤ rounded high := by
  have unit : (0 : ℚ) < 10 ^ lastPlace high := zpow_pos (by norm_num) _
  rcases nonneg.eq_or_lt with rfl | positive
  · rw [rounded_zero]
    have rounds := roundHalfEven_nonneg (div_nonneg below unit.le)
    exact mul_nonneg (by exact_mod_cast rounds) unit.le
  have above : 0 < high := positive.trans_le below
  have places : lastPlace low ≤ lastPlace high := by
    unfold lastPlace
    rw [abs_of_pos positive, abs_of_pos above]
    exact max_le_max (sub_le_sub_right (Int.log_mono_right positive below) 27) le_rfl
  unfold rounded
  rcases places.eq_or_lt with same | finer
  · rw [same]
    refine mul_le_mul_of_nonneg_right ?_ unit.le
    exact_mod_cast roundHalfEven_mono (div_le_div_of_nonneg_right below unit.le)
  · -- the larger number is rounded to a coarser digit, and has 28 of them
    have place : lastPlace high = Int.log 10 high - 27 := by
      unfold lastPlace at finer ⊢
      rw [abs_of_pos above] at finer ⊢
      omega
    calc (roundHalfEven (low / 10 ^ lastPlace low) : ℚ) * 10 ^ lastPlace low
        ≤ 10 ^ 28 * 10 ^ lastPlace low := by
          refine mul_le_mul_of_nonneg_right ?_ (zpow_pos (by norm_num) _).le
          exact_mod_cast (abs_le.mp rounded_le).2
      _ = 10 ^ 27 * 10 ^ (lastPlace low + 1) := by
          rw [zpow_add₀ (by norm_num)]
          ring
      _ ≤ 10 ^ 27 * 10 ^ lastPlace high := by
          refine mul_le_mul_of_nonneg_left ?_ (by positivity)
          exact zpow_le_zpow_right₀ (by norm_num) finer
      _ ≤ roundHalfEven (high / 10 ^ lastPlace high) * 10 ^ lastPlace high := by
          refine mul_le_mul_of_nonneg_right ?_ unit.le
          exact_mod_cast full_digits above place

theorem fix_mono {low high lower higher : ℚ} (nonneg : 0 ≤ low) (below : low ≤ high)
    (lowFixed : fix low = .ok lower) (highFixed : fix high = .ok higher) : lower ≤ higher := by
  rw [(fix_ok_iff.mp lowFixed).1, (fix_ok_iff.mp highFixed).1]
  exact rounded_mono nonneg below

/-- A result that is smaller than one in range is in range. -/
theorem fix_ok_of_le {low high higher : ℚ} (nonneg : 0 ≤ low) (below : low ≤ high)
    (highFixed : fix high = .ok higher) : fix low = .ok (rounded low) := by
  obtain ⟨rfl, small⟩ := fix_ok_iff.mp highFixed
  have least := rounded_mono le_rfl nonneg
  rw [rounded_zero] at least
  refine fix_ok_iff.mpr ⟨rfl, lt_of_le_of_lt ?_ small⟩
  exact abs_le_abs_of_nonneg least (rounded_mono nonneg below)

/-- Rounding a larger number does not go below a representable one. -/
theorem le_fix {low value result : ℚ} (held : Representable low) (nonneg : 0 ≤ low)
    (below : low ≤ value) (fixed : fix value = .ok result) : low ≤ result := by
  obtain ⟨rfl, _⟩ := fix_ok_iff.mp fixed
  rcases (nonneg.trans below).eq_or_lt with rfl | positive
  · rw [rounded_zero]
    exact below
  · have unit : (0 : ℚ) < 10 ^ lastPlace value := zpow_pos (by norm_num) _
    obtain ⟨coefficient, exponent, rfl, digits, least⟩ := held
    unfold rounded
    rcases le_or_gt (lastPlace value) exponent with fine | coarse
    · -- the lower number is a whole number of units
      obtain ⟨steps, same⟩ := Int.eq_ofNat_of_zero_le (sub_nonneg.mpr fine)
      have whole : (coefficient : ℚ) * 10 ^ exponent =
          ((coefficient * 10 ^ steps : Int) : ℚ) * 10 ^ lastPlace value := by
        have split : exponent = steps + lastPlace value := by omega
        rw [split, zpow_add₀ (by norm_num)]
        push_cast
        rw [zpow_natCast, mul_assoc]
      rw [whole] at below ⊢
      have units := roundHalfEven_mono ((le_div_iff₀ unit).mpr below)
      rw [roundHalfEven_intCast] at units
      exact mul_le_mul_of_nonneg_right (by exact_mod_cast units) unit.le
    · -- the unit is a full digit coarser, and the result has 28 digits
      have place : lastPlace value = Int.log 10 value - 27 := by
        unfold lastPlace at coarse ⊢
        rw [abs_of_pos positive] at coarse ⊢
        omega
      have leading := full_digits positive place
      calc (coefficient : ℚ) * 10 ^ exponent
          ≤ 10 ^ 28 * 10 ^ exponent := by
            refine mul_le_mul_of_nonneg_right ?_ (zpow_pos (by norm_num) _).le
            exact_mod_cast (abs_le.mp digits).2
        _ = 10 ^ 27 * 10 ^ (exponent + 1) := by
            rw [zpow_add₀ (by norm_num)]
            ring
        _ ≤ 10 ^ 27 * 10 ^ lastPlace value := by
            refine mul_le_mul_of_nonneg_left ?_ (by positivity)
            exact zpow_le_zpow_right₀ (by norm_num) coarse
        _ ≤ roundHalfEven (value / 10 ^ lastPlace value) * 10 ^ lastPlace value := by
            refine mul_le_mul_of_nonneg_right ?_ unit.le
            exact_mod_cast leading

end Decimal
end ModelPilot
