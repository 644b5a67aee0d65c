import ModelPilot.AttemptRows
import ModelPilot.DecimalArithmetic

/-! What `estimate_cost` computes in the default decimal context: how far its four rounded
operations are from the cost itself, and that more tokens or higher prices never cost
less. -/
namespace ModelPilot

theorem roundHalfEven_near (value : ℚ) : |(roundHalfEven value : ℚ) - value| ≤ 1 / 2 := by
  have low := Int.floor_le value
  have high := Int.lt_floor_add_one value
  rw [abs_le]
  unfold roundHalfEven
  split_ifs <;> push_cast <;> constructor <;> linarith

namespace Decimal

/-- The least positive number of the default context. -/
def least : ℚ := 10 ^ (-1000026 : Int)

theorem least_pos : 0 < least := zpow_pos (by norm_num) _

/-- An operation rounds by half a unit of its 28th digit, or by half the least number. -/
theorem fix_near {value result : ℚ} (fixed : fix value = .ok result) :
    |result - value| ≤ 5 / 10 ^ 28 * |value| + least / 2 := by
  obtain ⟨rfl, _⟩ := fix_ok_iff.mp fixed
  by_cases zero : value = 0
  · rw [zero, rounded_zero]
    simpa using le_of_lt (half_pos least_pos)
  · have unit : (0 : ℚ) < 10 ^ lastPlace value := zpow_pos (by norm_num) _
    have split : rounded value - value =
        ((roundHalfEven (value / 10 ^ lastPlace value) : ℚ) - value / 10 ^ lastPlace value) *
          10 ^ lastPlace value := by
      rw [rounded, sub_mul, div_mul_cancel₀ _ unit.ne']
    have magnitude : (10 : ℚ) ^ Int.log 10 |value| ≤ |value| := by
      have digits := Int.zpow_log_le_self (b := 10) (by norm_num) (abs_pos.mpr zero)
      exact_mod_cast digits
    have place : (10 : ℚ) ^ lastPlace value ≤ |value| / 10 ^ 27 + least := by
      unfold lastPlace
      rcases le_total (Int.log 10 |value| - 27) (-1000026) with under | beyond
      · rw [max_eq_right under]
        exact le_add_of_nonneg_left (by positivity)
      · rw [max_eq_left beyond, zpow_sub₀ (by norm_num)]
        refine le_add_of_le_of_nonneg ?_ least_pos.le
        exact div_le_div_of_nonneg_right magnitude (by positivity)
    calc |rounded value - value|
        = |(roundHalfEven (value / 10 ^ lastPlace value) : ℚ) - value / 10 ^ lastPlace value| *
            10 ^ lastPlace value := by rw [split, abs_mul, abs_of_pos unit]
      _ ≤ 1 / 2 * (|value| / 10 ^ 27 + least) :=
          mul_le_mul (roundHalfEven_near _) place unit.le (by norm_num)
      _ = 5 / 10 ^ 28 * |value| + least / 2 := by ring

/-- A number that an operation keeps as it is. -/
def Held (value : ℚ) : Prop := Representable value ∧ |value| < 10 ^ 1000000

theorem held_zero : Held 0 := by
  refine ⟨representable_zero, ?_⟩
  rw [abs_zero]
  exact pow_pos (by norm_num) _

/-- A number of 28 digits is a whole number of the units it is rounded to. -/
theorem whole_units {coefficient exponent : Int}
    (nonzero : (coefficient : ℚ) * 10 ^ exponent ≠ 0)
    (digits : |coefficient| < 10 ^ 28) (enough : -1000026 ≤ exponent) :
    ∃ units : Int, (coefficient : ℚ) * 10 ^ exponent =
      units * 10 ^ lastPlace (coefficient * 10 ^ exponent) := by
  have below : |(coefficient : ℚ) * 10 ^ exponent| < ((10 : Nat) : ℚ) ^ (exponent + 28) := by
    have power : (0 : ℚ) < 10 ^ exponent := zpow_pos (by norm_num) _
    have few : |(coefficient : ℚ)| < 10 ^ 28 := by exact_mod_cast digits
    rw [abs_mul, abs_of_pos power, Nat.cast_ofNat, zpow_add₀ (by norm_num), mul_comm]
    exact mul_lt_mul_of_pos_left few power
  have log := (Int.lt_zpow_iff_log_lt (by norm_num) (abs_pos.mpr nonzero)).mp below
  have place : lastPlace ((coefficient : ℚ) * 10 ^ exponent) ≤ exponent := by
    unfold lastPlace
    omega
  obtain ⟨steps, same⟩ := Int.eq_ofNat_of_zero_le (sub_nonneg.mpr place)
  have split : exponent = steps + lastPlace ((coefficient : ℚ) * 10 ^ exponent) := by omega
  refine ⟨coefficient * 10 ^ steps, ?_⟩
  generalize lastPlace ((coefficient : ℚ) * 10 ^ exponent) = place at split
  rw [split, zpow_add₀ (by norm_num), zpow_natCast]
  push_cast
  ring

theorem fix_held {value : ℚ} (held : Held value) : fix value = .ok value := by
  obtain ⟨⟨coefficient, exponent, same, digits, enough⟩, small⟩ := held
  refine fix_ok_iff.mpr ⟨?_, small⟩
  by_cases zero : value = 0
  · rw [zero, rounded_zero]
  · have units : ∃ units : Int, value = units * 10 ^ lastPlace value := by
      rcases digits.lt_or_eq with fewer | full
      · subst same
        exact whole_units zero fewer enough
      · -- a power of ten has one digit too many, and is a tenth of it one place higher
        obtain ⟨tenth, whole⟩ : (10 : Int) ∣ coefficient :=
          (dvd_abs _ _).mp (full ▸ by norm_num)
        have shifted : value = tenth * 10 ^ (exponent + 1) := by
          rw [same, whole, zpow_add₀ (by norm_num)]
          push_cast
          ring
        have fewer : |tenth| < 10 ^ 28 := by
          rw [whole, abs_mul] at full
          norm_num at full ⊢
          omega
        rw [shifted] at zero ⊢
        exact whole_units zero fewer (by omega)
    obtain ⟨units, whole⟩ := units
    have unit : (10 : ℚ) ^ lastPlace value ≠ 0 := (zpow_pos (by norm_num) _).ne'
    have quotient : value / 10 ^ lastPlace value = units := (div_eq_iff unit).mpr whole
    rw [rounded, quotient, roundHalfEven_intCast]
    exact whole

end Decimal

section Estimates
variable {pricing other : ModelPricing} {input output moreInput moreOutput : Nat}
  {cost larger : ℚ}

/-- The cost itself. -/
def exactCost (pricing : ModelPricing) (input output : Nat) : ℚ :=
  (input * pricing.inputCostPerMillionTokens + output * pricing.outputCostPerMillionTokens) /
    1000000

/-- The rounded steps of an estimate. -/
theorem estimateCost_steps
    (estimated : estimateCost (some pricing) (some input) (some output) = .ok (some cost)) :
    ∃ inputCost outputCost total,
      Decimal.fix (input * pricing.inputCostPerMillionTokens) = .ok inputCost ∧
      Decimal.fix (output * pricing.outputCostPerMillionTokens) = .ok outputCost ∧
      Decimal.fix (inputCost + outputCost) = .ok total ∧
      Decimal.fix (total / 1000000) = .ok cost := by
  obtain ⟨inputCost, first, estimated⟩ := bind_ok_iff.mp estimated
  obtain ⟨outputCost, second, estimated⟩ := bind_ok_iff.mp estimated
  obtain ⟨total, third, estimated⟩ := bind_ok_iff.mp estimated
  obtain ⟨last, fourth, done⟩ := bind_ok_iff.mp estimated
  cases done
  exact ⟨inputCost, outputCost, total, first, second, third, fourth⟩

/-- An estimate is within two units of the 27th digit of the cost, and the least number. -/
theorem estimateCost_near
    (estimated : estimateCost (some pricing) (some input) (some output) = .ok (some cost)) :
    |cost - exactCost pricing input output| ≤
      2 / 10 ^ 27 * exactCost pricing input output + Decimal.least := by
  obtain ⟨inputCost, outputCost, total, first, second, third, fourth⟩ :=
    estimateCost_steps estimated
  obtain ⟨inputNonneg, outputNonneg⟩ := pricing.nonneg
  have inputExact : (0 : ℚ) ≤ input * pricing.inputCostPerMillionTokens := by positivity
  have outputExact : (0 : ℚ) ≤ output * pricing.outputCostPerMillionTokens := by positivity
  have inputHeld := Decimal.fix_nonneg inputExact first
  have outputHeld := Decimal.fix_nonneg outputExact second
  have totalHeld := Decimal.fix_nonneg (add_nonneg inputHeld outputHeld) third
  have inputNear := Decimal.fix_near first
  have outputNear := Decimal.fix_near second
  have totalNear := Decimal.fix_near third
  have costNear := Decimal.fix_near fourth
  have least := Decimal.least_pos
  unfold exactCost
  generalize (input : ℚ) * pricing.inputCostPerMillionTokens = inputValue at *
  generalize (output : ℚ) * pricing.outputCostPerMillionTokens = outputValue at *
  rw [abs_of_nonneg inputExact] at inputNear
  rw [abs_of_nonneg outputExact] at outputNear
  rw [abs_of_nonneg (add_nonneg inputHeld outputHeld)] at totalNear
  rw [abs_of_nonneg (div_nonneg totalHeld (by norm_num))] at costNear
  rw [abs_le] at *
  constructor <;> linarith [inputNear.1, inputNear.2, outputNear.1, outputNear.2, totalNear.1,
    totalNear.2, costNear.1, costNear.2]

/-- More tokens at prices that are not lower do not cost less. -/
theorem estimateCost_mono (inputs : input ≤ moreInput) (outputs : output ≤ moreOutput)
    (inputPrices : pricing.inputCostPerMillionTokens ≤ other.inputCostPerMillionTokens)
    (outputPrices : pricing.outputCostPerMillionTokens ≤ other.outputCostPerMillionTokens)
    (estimated : estimateCost (some pricing) (some input) (some output) = .ok (some cost))
    (costlier : estimateCost (some other) (some moreInput) (some moreOutput) = .ok (some larger)) :
    cost ≤ larger := by
  obtain ⟨inputCost, outputCost, total, first, second, third, fourth⟩ :=
    estimateCost_steps estimated
  obtain ⟨inputCost', outputCost', total', first', second', third', fourth'⟩ :=
    estimateCost_steps costlier
  have inputNonneg : (0 : ℚ) ≤ input * pricing.inputCostPerMillionTokens :=
    mul_nonneg (Nat.cast_nonneg _) pricing.nonneg.1
  have outputNonneg : (0 : ℚ) ≤ output * pricing.outputCostPerMillionTokens :=
    mul_nonneg (Nat.cast_nonneg _) pricing.nonneg.2
  have inputMono : inputCost ≤ inputCost' := by
    refine Decimal.fix_mono inputNonneg ?_ first first'
    exact mul_le_mul (by exact_mod_cast inputs) inputPrices pricing.nonneg.1 (Nat.cast_nonneg _)
  have outputMono : outputCost ≤ outputCost' := by
    refine Decimal.fix_mono outputNonneg ?_ second second'
    exact mul_le_mul (by exact_mod_cast outputs) outputPrices pricing.nonneg.2
      (Nat.cast_nonneg _)
  have totalNonneg := add_nonneg (Decimal.fix_nonneg inputNonneg first)
    (Decimal.fix_nonneg outputNonneg second)
  have totalMono := Decimal.fix_mono totalNonneg (add_le_add inputMono outputMono) third third'
  exact Decimal.fix_mono (div_nonneg (Decimal.fix_nonneg totalNonneg third) (by norm_num))
    (div_le_div_of_nonneg_right totalMono (by norm_num)) fourth fourth'

/-- The numbers of an estimate that no operation has to round. -/
structure Unrounded (pricing : ModelPricing) (input output : Nat) : Prop where
  inputCost : Decimal.Held (input * pricing.inputCostPerMillionTokens)
  outputCost : Decimal.Held (output * pricing.outputCostPerMillionTokens)
  total : Decimal.Held
    (input * pricing.inputCostPerMillionTokens + output * pricing.outputCostPerMillionTokens)
  cost : Decimal.Held (exactCost pricing input output)

theorem estimateCost_exact (unrounded : Unrounded pricing input output) :
    estimateCost (some pricing) (some input) (some output) =
      .ok (some (exactCost pricing input output)) := by
  have cost := Decimal.fix_held unrounded.cost
  unfold exactCost at cost ⊢
  simp only [estimateCost, Decimal.fix_held unrounded.inputCost,
    Decimal.fix_held unrounded.outputCost, Decimal.fix_held unrounded.total, cost, bind,
    Except.bind]

/-- What an estimate says about the cost of a call. -/
structure SoundEstimate (pricing : ModelPricing) (input output : Nat) : Prop where
  near : ∀ cost, estimateCost (some pricing) (some input) (some output) = .ok (some cost) →
    |cost - exactCost pricing input output| ≤
      2 / 10 ^ 27 * exactCost pricing input output + Decimal.least
  exact : Unrounded pricing input output →
    estimateCost (some pricing) (some input) (some output) =
      .ok (some (exactCost pricing input output))
  monotone : ∀ (other : ModelPricing) (moreInput moreOutput : Nat) (cost larger : ℚ),
    input ≤ moreInput → output ≤ moreOutput →
    pricing.inputCostPerMillionTokens ≤ other.inputCostPerMillionTokens →
    pricing.outputCostPerMillionTokens ≤ other.outputCostPerMillionTokens →
    estimateCost (some pricing) (some input) (some output) = .ok (some cost) →
    estimateCost (some other) (some moreInput) (some moreOutput) = .ok (some larger) →
    cost ≤ larger

/-- An estimate is the cost up to 27 digits, the cost itself where 28 digits hold it, and
does not fall with more tokens or higher prices. -/
theorem cost_estimates_sound (pricing : ModelPricing) (input output : Nat) :
    SoundEstimate pricing input output :=
  ⟨fun _ => estimateCost_near, estimateCost_exact,
    fun _ _ _ _ _ inputs outputs inputPrices outputPrices =>
      estimateCost_mono inputs outputs inputPrices outputPrices⟩

end Estimates
end ModelPilot
