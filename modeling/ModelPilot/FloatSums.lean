import Mathlib.Algebra.Order.BigOperators.Group.List
import ModelPilot.Decimals

/-! Sums of floats (`math.fsum`): they are kept in parts, so that nothing is lost on the way,
and raise when a part leaves the range of floats. -/
namespace ModelPilot

/-- A value added to the parts of a sum, which come in rising magnitude. Each addition keeps
what its rounding lost as a part of its own. -/
def addParts (float : Rounding) : ℚ → List ℚ → Except PyError (List ℚ)
  | value, [] =>
    if ¬ isFloat value then .error .overflow else .ok (if value = 0 then [] else [value])
  | value, part :: parts =>
    let large := if |value| < |part| then part else value
    let small := if |value| < |part| then value else part
    let sum := float.add large small
    let lost := float.sub small (float.sub sum large)
    do
      let rest ← addParts float sum parts
      .ok (if lost = 0 then rest else lost :: rest)

/-- `math.fsum`, whose result is the sum of the parts, rounded once. -/
def fsum (float : Rounding) (values : List ℚ) : Except PyError ℚ := do
  let parts ← values.foldlM (fun parts value => addParts float value parts) []
  .ok (float.round parts.sum)

theorem isFloat_iff {number : ℚ} : isFloat number = true ↔ |number| < 2 ^ 1024 - 2 ^ 970 :=
  decide_eq_true_iff

theorem isFloat_zero : isFloat 0 = true := by
  rw [isFloat_iff, abs_zero, sub_pos]
  exact pow_lt_pow_right₀ (by norm_num) (by norm_num)

theorem isFloat_of_le {low high : ℚ} (nonneg : 0 ≤ low) (below : low ≤ high)
    (inside : isFloat high = true) : isFloat low = true := by
  rw [isFloat_iff] at inside ⊢
  exact lt_of_le_of_lt (abs_le_abs_of_nonneg nonneg below) inside

section Exact

/-- The parts of an exact sum: nothing is ever lost. -/
def wholePart (sum : ℚ) : List ℚ := if sum = 0 then [] else [sum]

theorem wholePart_sum (sum : ℚ) : (wholePart sum).sum = sum := by
  unfold wholePart
  by_cases zero : sum = 0 <;> simp [zero]

theorem addParts_exact (sum value : ℚ) : addParts .exact value (wholePart sum) =
    if isFloat (sum + value) then .ok (wholePart (sum + value)) else .error .overflow := by
  have last (number : ℚ) : addParts .exact number [] =
      if isFloat number then .ok (wholePart number) else .error .overflow := by
    by_cases inside : isFloat number = true <;> simp [addParts, wholePart, inside]
  by_cases zero : sum = 0
  · rw [zero, zero_add, wholePart, if_pos rfl, last]
  · rw [wholePart, if_neg zero, addParts]
    have total : Rounding.exact.add (if |value| < |sum| then sum else value)
        (if |value| < |sum| then value else sum) = sum + value := by
      by_cases smaller : |value| < |sum|
      · simp only [if_pos smaller]
        rfl
      · simp only [if_neg smaller]
        exact add_comm value sum
    have lost (large small : ℚ) : Rounding.exact.sub small
        (Rounding.exact.sub (Rounding.exact.add large small) large) = 0 := by
      change small - (large + small - large) = 0
      ring
    simp only [lost, if_true]
    rw [total, last]
    by_cases inside : isFloat (sum + value) = true <;> simp [inside, bind, Except.bind]

/-- The exact sum of numbers that are not negative raises when it leaves the range. -/
theorem fsum_exact {values : List ℚ} (nonneg : ∀ value ∈ values, 0 ≤ value) :
    fsum .exact values = if isFloat values.sum then .ok values.sum else .error .overflow := by
  have added (start : ℚ) (low : 0 ≤ start) (inside : isFloat start = true) :
      values.foldlM (fun parts value => addParts .exact value parts) (wholePart start) =
        if isFloat (start + values.sum) then .ok (wholePart (start + values.sum))
        else .error .overflow := by
    induction values generalizing start with
    | nil =>
      rw [List.sum_nil, add_zero, if_pos inside]
      rfl
    | cons value rest ih =>
      obtain ⟨first, others⟩ := List.forall_mem_cons.mp nonneg
      rw [List.foldlM_cons, addParts_exact, List.sum_cons, ← add_assoc]
      by_cases fits : isFloat (start + value) = true
      · rw [if_pos fits]
        exact ih others (start + value) (add_nonneg low first) fits
      · have beyond : ¬ isFloat (start + value + rest.sum) = true := fun whole =>
          fits (isFloat_of_le (add_nonneg low first)
            (le_add_of_nonneg_right (List.sum_nonneg others)) whole)
        rw [if_neg fits, if_neg beyond]
        rfl
  have whole := added 0 le_rfl isFloat_zero
  rw [zero_add] at whole
  unfold fsum
  change (values.foldlM (fun parts value => addParts .exact value parts) (wholePart 0)).bind _ = _
  rw [whole]
  by_cases inside : isFloat values.sum = true
  · rw [if_pos inside, if_pos inside]
    exact congrArg Except.ok (wholePart_sum values.sum)
  · rw [if_neg inside, if_neg inside]
    rfl

end Exact
end ModelPilot
