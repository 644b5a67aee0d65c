import Mathlib.Algebra.Order.Floor.Ring
import Mathlib.Algebra.Order.Ring.Rat
import Mathlib.Data.Int.Log
import Mathlib.Data.Rat.Floor
import ModelPilot.Python

/-! Numbers: finite `Decimal` values, rounding to even, and float arithmetic up
to a rounding of exact rational results. -/
namespace ModelPilot

/-- A finite `Decimal`: sign, coefficient and exponent, so that `1.0` and
`1.00` stay different values of one number. -/
structure Decimal where
  negative : Bool := false
  coefficient : Nat
  exponent : Int := 0
  deriving DecidableEq, Repr

/-- The number a decimal denotes. -/
def Decimal.toRat (value : Decimal) : ℚ :=
  (if value.negative then -1 else 1) * value.coefficient * 10 ^ value.exponent

/-- The nearest integer, ties to even. -/
def roundHalfEven (value : ℚ) : Int :=
  if value - ⌊value⌋ < 1 / 2 then ⌊value⌋
  else if 1 / 2 < value - ⌊value⌋ then ⌊value⌋ + 1
  else if ⌊value⌋ % 2 = 0 then ⌊value⌋
  else ⌊value⌋ + 1

/-- `round(value, digits)`. -/
def roundDigits (digits : Nat) (value : ℚ) : ℚ :=
  roundHalfEven (value * 10 ^ digits) / 10 ^ digits

theorem roundHalfEven_mono {low high : ℚ} (before : low ≤ high) :
    roundHalfEven low ≤ roundHalfEven high := by
  have floors : ⌊low⌋ ≤ ⌊high⌋ := Int.floor_mono before
  rcases lt_or_eq_of_le floors with apart | same
  · have above : roundHalfEven low ≤ ⌊low⌋ + 1 := by
      unfold roundHalfEven
      split_ifs <;> omega
    have below : ⌊high⌋ ≤ roundHalfEven high := by
      unfold roundHalfEven
      split_ifs <;> omega
    omega
  · -- with one floor the larger fraction rounds up whenever the smaller does
    unfold roundHalfEven
    rw [same]
    split_ifs <;> first | omega | linarith

@[simp] theorem roundHalfEven_intCast (value : Int) : roundHalfEven value = value := by
  simp [roundHalfEven]

@[simp] theorem roundHalfEven_zero : roundHalfEven 0 = 0 := roundHalfEven_intCast 0

theorem roundHalfEven_nonneg (nonneg : 0 ≤ value) : 0 ≤ roundHalfEven value := by
  simpa only [roundHalfEven_zero] using roundHalfEven_mono nonneg

theorem roundDigits_mono (digits : Nat) : Monotone (roundDigits digits) := by
  intro low high before
  have scale : (0 : ℚ) < 10 ^ digits := by positivity
  unfold roundDigits
  gcongr
  exact roundHalfEven_mono (mul_le_mul_of_nonneg_right before scale.le)

/-- The result of a `Decimal` operation in the default context: 28 significant
digits, ties to even, and a trap on overflow. -/
def Decimal.fix (value : ℚ) : Except PyError ℚ :=
  if value = 0 then .ok 0
  else
    let unit : ℚ := 10 ^ max (Int.log 10 |value| - 27) (-1000026)
    let rounded := roundHalfEven (value / unit) * unit
    if 10 ^ 1000000 ≤ |rounded| then .error (.other "decimal.Overflow") else .ok rounded

/-- `float(value)` is finite: it does not round to infinity. -/
def isFloat (number : ℚ) : Bool := |number| < 2 ^ 1024 - 2 ^ 970

/-- Float arithmetic: each operation rounds its exact result. What the code
relies on is that rounding keeps order and keeps zero and one; both hold of
IEEE rounding to nearest and of exact arithmetic. -/
structure Rounding where
  round : ℚ → ℚ
  monotone : Monotone round
  zero : round 0 = 0
  one : round 1 = 1

namespace Rounding
variable (float : Rounding)

/-- Exact arithmetic. -/
def exact : Rounding := ⟨id, monotone_id, rfl, rfl⟩

/-- Rounding to decimal digits. -/
def digits (digits : Nat) : Rounding where
  round := roundDigits digits
  monotone := roundDigits_mono digits
  zero := by
    rw [roundDigits, zero_mul, roundHalfEven_zero, Int.cast_zero, zero_div]
  one := by
    have whole : roundHalfEven (10 ^ digits) = 10 ^ digits := by
      exact_mod_cast roundHalfEven_intCast (10 ^ digits)
    rw [roundDigits, one_mul, whole]
    push_cast
    exact div_self (by positivity)

def add (left right : ℚ) : ℚ := float.round (left + right)

def sub (left right : ℚ) : ℚ := float.round (left - right)

def div (left right : ℚ) : ℚ := float.round (left / right)

def mul (left right : ℚ) : ℚ := float.round (left * right)

/-- A value in the unit interval. -/
def InUnit (value : ℚ) : Prop := 0 ≤ value ∧ value ≤ 1

instance : Decidable (InUnit value) := inferInstanceAs (Decidable (_ ∧ _))

theorem round_unit (inside : InUnit value) : InUnit (float.round value) :=
  ⟨by simpa only [float.zero] using float.monotone inside.1,
    by simpa only [float.one] using float.monotone inside.2⟩

theorem mul_unit (left : InUnit a) (right : InUnit b) : InUnit (float.mul a b) :=
  float.round_unit ⟨mul_nonneg left.1 right.1, mul_le_one₀ left.2 right.1 right.2⟩

/-- A part of a positive whole is a share in the unit interval. -/
theorem div_unit (nonneg : 0 ≤ part) (within : part ≤ whole) (positive : 0 < whole) :
    InUnit (float.div part whole) :=
  float.round_unit ⟨div_nonneg nonneg (le_of_lt positive), (div_le_one positive).mpr within⟩

theorem div_mono (smaller : a ≤ b) (positive : 0 < whole) :
    float.div a whole ≤ float.div b whole :=
  float.monotone ((div_le_div_iff_of_pos_right positive).mpr smaller)

theorem div_whole (positive : 0 < whole) : float.div whole whole = 1 := by
  rw [div, div_self (ne_of_gt positive), float.one]

theorem div_nothing (whole : ℚ) : float.div 0 whole = 0 := by
  rw [div, zero_div, float.zero]

end Rounding
end ModelPilot
