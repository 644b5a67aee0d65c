import ModelPilot.NumericAnswers

/-! `str(value)` of a finite `Decimal`, the text that prices and costs are stored as. It is
a JSON number, and spells the value with its sign, its digits and its exponent. -/
namespace ModelPilot
namespace Decimal

/-- The digits of the coefficient. -/
def digitText (value : Decimal) : List Char := Nat.toDigits 10 value.coefficient

/-- How many digits the exponent puts in front of the point. -/
def leftDigits (value : Decimal) : Int := value.exponent + value.digitText.length

/-- How many digits are written in front of the point: that many in plain notation, and one
in scientific notation. -/
def dotPlace (value : Decimal) : Int :=
  if value.exponent ≤ 0 ∧ -6 < value.leftDigits then value.leftDigits else 1

def intPart (value : Decimal) : List Char :=
  if value.dotPlace ≤ 0 then ['0']
  else if value.digitText.length ≤ value.dotPlace then
    value.digitText ++ List.replicate (value.dotPlace - value.digitText.length).toNat '0'
  else value.digitText.take value.dotPlace.toNat

def fracPart (value : Decimal) : List Char :=
  if value.dotPlace ≤ 0 then
    '.' :: (List.replicate (-value.dotPlace).toNat '0' ++ value.digitText)
  else if value.digitText.length ≤ value.dotPlace then []
  else '.' :: value.digitText.drop value.dotPlace.toNat

/-- `"E%+d"` of the power that is left. -/
def exponentPart (value : Decimal) : List Char :=
  let power := value.leftDigits - value.dotPlace
  if power = 0 then []
  else 'E' :: (if power < 0 then '-' else '+') :: Nat.toDigits 10 power.natAbs

/-- `str(value)`. -/
def toText (value : Decimal) : String :=
  String.ofList ((if value.negative then ['-'] else []) ++ value.intPart ++ value.fracPart ++
    value.exponentPart)

section Digits
variable {value : Decimal}

theorem digitsValue_toDigits (number : Nat) : digitsValue (Nat.toDigits 10 number) = number :=
  Nat.ofDigitChars_ten_toDigits

theorem digitsValue_zeros (count : Nat) (rest : List Char) :
    digitsValue (List.replicate count '0' ++ rest) = digitsValue rest := by
  induction count with
  | zero => rfl
  | succ count ih => exact ih

theorem toDigits_listed {number : Nat} :
    ∀ digit ∈ Nat.toDigits 10 number, digit ∈ digits := by
  intro digit member
  have range := Nat.isDigit_of_mem_toDigits (by decide) (le_refl 10) member
  simp only [Char.isDigit, Bool.and_eq_true, decide_eq_true_eq, ge_iff_le] at range
  have codes : ∀ code < 58, 48 ≤ code → Char.ofNat code ∈ digits := by decide
  have low : 48 ≤ digit.toNat := range.1
  have high : digit.toNat ≤ 57 := range.2
  rw [← Char.ofNat_toNat digit]
  exact codes _ (Nat.lt_succ_of_le high) low

/-- The first digit of a positive number is not a zero. -/
theorem toDigits_leads {number : Nat} (positive : 0 < number) :
    ∃ lead rest, Nat.toDigits 10 number = lead :: rest ∧ lead ∈ leadingDigits := by
  have single : ∀ number < 10, 0 < number → number.digitChar ∈ leadingDigits := by decide
  induction number using Nat.strongRecOn with
  | _ number ih =>
    rcases Nat.lt_or_ge number 10 with small | large
    · rw [Nat.toDigits_of_lt_base small]
      exact ⟨_, [], rfl, single number small positive⟩
    · obtain ⟨lead, rest, same, leads⟩ :=
        ih (number / 10) (Nat.div_lt_self positive (by decide)) (by omega)
      rw [Nat.toDigits_of_base_le (by decide) large, same]
      exact ⟨lead, _, rfl, leads⟩

theorem digitText_pos : 0 < value.digitText.length := List.length_pos_iff.mpr Nat.toDigits_ne_nil

/-- Some of the first digits are a whole part, unless the number is a zero with more
than its one digit. -/
theorem whole_take {count : Nat} (positive : 0 < count) (bound : count ≤ value.digitText.length) :
    WholePart (value.digitText.take count) := by
  obtain ⟨count, rfl⟩ := Nat.exists_eq_add_of_lt positive
  rcases Nat.eq_zero_or_pos value.coefficient with zero | nonzero
  · have single : value.digitText = ['0'] := by
      rw [digitText, zero]
      rfl
    rw [single, Nat.zero_add, List.take_succ_cons, List.take_nil]
    exact .zero
  · obtain ⟨lead, rest, same, leads⟩ := toDigits_leads nonzero
    have listed := @toDigits_listed value.coefficient
    rw [same] at listed
    rw [digitText, same, Nat.zero_add, List.take_succ_cons]
    exact .run leads fun digit member =>
      listed digit (List.mem_cons_of_mem _ (List.mem_of_mem_take member))

theorem exponent_part (value : Decimal) :
    ExponentPart value.exponentPart (value.leftDigits - value.dotPlace) := by
  rw [exponentPart]
  generalize value.leftDigits - value.dotPlace = power
  have capital : 'E' ∈ ['e', 'E'] := by decide
  by_cases zero : power = 0
  · rw [if_pos zero, zero]
    exact .none
  · rw [if_neg zero]
    have nonempty : Nat.toDigits 10 power.natAbs ≠ [] := Nat.toDigits_ne_nil
    by_cases negative : power < 0
    · have spelled := ExponentPart.minus capital nonempty toDigits_listed
      rw [digitsValue_toDigits] at spelled
      rw [if_pos negative]
      have magnitude : -(power.natAbs : Int) = power := by omega
      rwa [magnitude] at spelled
    · have spelled := ExponentPart.plus capital nonempty toDigits_listed
      rw [digitsValue_toDigits] at spelled
      rw [if_neg negative]
      have magnitude : (power.natAbs : Int) = power := by omega
      rwa [magnitude] at spelled

end Digits

/-- The text of a decimal is a JSON number that spells it. -/
theorem spells (value : Decimal) : NumberText value.toText.toList value := by
  have exponent := exponent_part value
  have coefficient : digitsValue value.digitText = value.coefficient := digitsValue_toDigits _
  have positive := @digitText_pos value
  rw [toText, String.toList_ofList]
  by_cases small : value.dotPlace ≤ 0
  · -- a zero in front of the point, and zeros behind it
    have plain : value.dotPlace = value.leftDigits := by
      unfold dotPlace at small ⊢
      split at small
      · rename_i near
        rw [if_pos near]
      · omega
    have fraction : FractionPart value.fracPart
        (List.replicate (-value.dotPlace).toNat '0' ++ value.digitText) := by
      rw [fracPart, if_pos small]
      refine .run ?_ ?_
      · simp [List.ne_nil_of_length_pos positive]
      · intro digit member
        rcases List.mem_append.mp member with zero | inside
        · rw [List.eq_of_mem_replicate zero]
          decide
        · exact toDigits_listed digit inside
    have whole : WholePart value.intPart := by
      rw [intPart, if_pos small]
      exact .zero
    have spelled := NumberText.spelled value.negative whole fraction exponent
    convert spelled using 1
    rw [intPart, if_pos small]
    have digits : digitsValue (['0'] ++
        (List.replicate (-value.dotPlace).toNat '0' ++ value.digitText)) = value.coefficient :=
      (digitsValue_zeros _ _).trans coefficient
    rw [digits, List.length_append, List.length_replicate]
    have power : value.leftDigits - value.dotPlace -
        (((-value.dotPlace).toNat + value.digitText.length : Nat) : Int) = value.exponent := by
      unfold leftDigits at plain ⊢
      omega
    rw [power]
  by_cases whole : value.digitText.length ≤ value.dotPlace
  · -- no digit behind the point: a whole number, or a single digit and a power
    have padding : (value.dotPlace - value.digitText.length).toNat = 0 := by
      unfold dotPlace leftDigits at whole ⊢
      split at whole
      · rename_i near
        rw [if_pos near]
        omega
      · rename_i far
        rw [if_neg far]
        omega
    have front : value.intPart = value.digitText.take value.digitText.length := by
      rw [intPart, if_neg small, if_pos whole, padding, List.take_length]
      simp
    have fraction : FractionPart value.fracPart [] := by
      rw [fracPart, if_neg small, if_pos whole]
      exact .none
    have spelled := NumberText.spelled value.negative
      (front ▸ whole_take positive (le_refl _)) fraction exponent
    convert spelled using 1
    have power : value.leftDigits - value.dotPlace - ((([] : List Char).length : Nat) : Int) =
        value.exponent := by
      unfold leftDigits at *
      have exact : value.dotPlace = value.digitText.length := by omega
      rw [exact]
      simp
    rw [front, List.take_length, List.append_nil, coefficient, power]
  · -- digits on both sides of the point
    have inside : value.dotPlace.toNat ≤ value.digitText.length := by omega
    have front : value.intPart = value.digitText.take value.dotPlace.toNat := by
      rw [intPart, if_neg small, if_neg whole]
    have fraction : FractionPart value.fracPart (value.digitText.drop value.dotPlace.toNat) := by
      rw [fracPart, if_neg small, if_neg whole]
      refine .run ?_ fun digit member => toDigits_listed digit (List.mem_of_mem_drop member)
      rw [Ne, List.drop_eq_nil_iff]
      omega
    have spelled := NumberText.spelled value.negative
      (front ▸ whole_take (by omega) inside) fraction exponent
    convert spelled using 1
    have power : value.leftDigits - value.dotPlace -
        ((value.digitText.drop value.dotPlace.toNat).length : Int) = value.exponent := by
      rw [List.length_drop, leftDigits]
      omega
    rw [front, List.take_append_drop, coefficient, power]

/-- What the constructor reads from the text of a decimal is the decimal. -/
@[simp] theorem ofText_toText (value : Decimal) : ofText value.toText.toList = value :=
  ofText_spelled (spells value)

/-- Decimals with one text are one decimal, not only one number. -/
theorem toText_injective : Function.Injective toText := by
  intro left right same
  have spelled := spells left
  rw [same] at spelled
  exact spelled_unique spelled (spells right)

/-- The text that a decimal is stored as is a JSON number, reads back as the decimal with
its sign, its digits and its exponent, and is the text of no other decimal. -/
theorem decimal_text_round_trip (value : Decimal) :
    NumberText value.toText.toList value ∧ ofText value.toText.toList = value ∧
      ∀ other : Decimal, other.toText = value.toText → other = value :=
  ⟨spells value, ofText_toText value, fun _ same => toText_injective same⟩

example : (⟨true, 150, -8⟩ : Decimal).toText = "-0.00000150" := by decide
example : (⟨false, 15, -8⟩ : Decimal).toText = "1.5E-7" := by decide

end Decimal
end ModelPilot
