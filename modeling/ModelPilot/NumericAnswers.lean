import ModelPilot.BenchmarkDefinitions
import ModelPilot.DecimalArithmetic
import ModelPilot.Patterns

/-! The numeric evaluator (`_numeric_reason`, `benchmarks/evaluators.py`): which
answers are numbers, and which of them are within the tolerance. -/
namespace ModelPilot
open Patterns RegularExpression

def digits : List Char := ['0', '1', '2', '3', '4', '5', '6', '7', '8', '9']

/-- `[1-9]`. -/
def leadingDigits : List Char := ['1', '2', '3', '4', '5', '6', '7', '8', '9']

/-- `_NUMBER`. -/
def numberPattern : RegularExpression Char :=
  optional (char '-') * (char '0' + oneOf leadingDigits * (oneOf digits).star) *
    optional (char '.' * several digits) *
    optional (oneOf ['e', 'E'] * optional (oneOf ['+', '-']) * several digits)

def digitValue (digit : Char) : Nat := digit.toNat - 48

def digitsValue (text : List Char) : Nat :=
  text.foldl (fun value digit => 10 * value + digitValue digit) 0

/-- `int(text)` of an exponent. -/
def powerOf : List Char → Int
  | '-' :: text => -digitsValue text
  | '+' :: text => digitsValue text
  | text => digitsValue text

def unsignedText : List Char → List Char
  | '-' :: rest => rest
  | '+' :: rest => rest
  | text => text

/-- The digits after a decimal point, and what follows them. -/
def splitFraction : List Char → List Char × List Char
  | '.' :: rest => (rest.takeWhile (· ∈ digits), rest.dropWhile (· ∈ digits))
  | text => ([], text)

/-- The number that a numeric text spells: the sign, all its digits, and the exponent
less the number of fraction digits. -/
def Decimal.ofText (text : List Char) : Decimal :=
  let unsigned := unsignedText text
  let whole := unsigned.takeWhile (· ∈ digits)
  let (fraction, tail) := splitFraction (unsigned.dropWhile (· ∈ digits))
  ⟨text.head? = some '-', digitsValue (whole ++ fraction), powerOf tail.tail - fraction.length⟩

/-- `Decimal(text)` of a numeric text: the number, if the library `holds` its exponent;
else an invalid operation, which raises or gives a NaN. -/
def decimalOf (context : DecimalContext) (holds : Decimal → Bool) (text : List Char) :
    Except PyError (Option Decimal) :=
  let number := Decimal.ofText text
  if holds number then .ok (some number)
  else if context.trapsInvalidOperation then .error (.other "decimal.InvalidOperation")
  else .ok none

/-- `max(left, right)` and `min(left, right)`. -/
def maxDecimal (left right : Decimal) : Decimal := if left.toRat < right.toRat then right else left

def minDecimal (left right : Decimal) : Decimal := if right.toRat < left.toRat then right else left

/-- The difference is within the tolerance: below it, or equal to it without having
been cut. -/
def withinTolerance (expected tolerance number : Decimal) : Bool :=
  let precision := max (max number.digitCount expected.digitCount) tolerance.digitCount + 2
  let context : DecimalContext :=
    { prec := precision, rounding := roundFloor, trapsInvalidOperation := false }
  let (difference, inexact) :=
    context.subtract (maxDecimal number expected) (minDecimal number expected)
  difference.toRat < tolerance.toRat || (difference.toRat = tolerance.toRat && !inexact)

/-- `_numeric_reason`, in the context of its caller. -/
def numericReason (context : DecimalContext) (holds : Decimal → Bool)
    (expected tolerance : Decimal) (answer : String) : EvaluationReason :=
  let text := (strip answer).toList
  if ¬ numberPattern.rmatch text then .invalidNumber
  else
    match decimalOf context holds text with
    | .error _ => .invalidNumber
    | .ok none => .invalidNumber
    | .ok (some number) =>
      if tolerance.toRat = 0 ∨ number.toRat = expected.toRat then
        if number.toRat = expected.toRat then .isMatch else .outsideTolerance
      else if withinTolerance expected tolerance number then .isMatch
      else .outsideTolerance

/-- Texts whose numbers are compared like this. -/
def AnswerTexts.withNumbers (texts : AnswerTexts) (context : DecimalContext)
    (holds : Decimal → Bool) : AnswerTexts :=
  { texts with
    numericReason := ModelPilot.numericReason context holds }

section Grammar

/-- The integer part of a JSON number: no leading zero. -/
inductive WholePart : List Char → Prop where
  | zero : WholePart ['0']
  | run (leads : lead ∈ leadingDigits) (follow : ∀ digit ∈ rest, digit ∈ digits) :
      WholePart (lead :: rest)

/-- Its fraction, with the digits after the point. -/
inductive FractionPart : List Char → List Char → Prop where
  | none : FractionPart [] []
  | run (nonempty : text ≠ []) (listed : ∀ digit ∈ text, digit ∈ digits) :
      FractionPart ('.' :: text) text

/-- Its exponent, with the power it stands for. -/
inductive ExponentPart : List Char → Int → Prop where
  | none : ExponentPart [] 0
  | unsigned (marks : mark ∈ ['e', 'E']) (nonempty : text ≠ [])
      (listed : ∀ digit ∈ text, digit ∈ digits) : ExponentPart (mark :: text) (digitsValue text)
  | plus (marks : mark ∈ ['e', 'E']) (nonempty : text ≠ [])
      (listed : ∀ digit ∈ text, digit ∈ digits) :
      ExponentPart (mark :: '+' :: text) (digitsValue text)
  | minus (marks : mark ∈ ['e', 'E']) (nonempty : text ≠ [])
      (listed : ∀ digit ∈ text, digit ∈ digits) :
      ExponentPart (mark :: '-' :: text) (-digitsValue text)

/-- The JSON number grammar: a text, and the number that it spells. -/
inductive NumberText : List Char → Decimal → Prop where
  | spelled (negative : Bool) (whole : WholePart wholeText)
      (fraction : FractionPart fractionText fractionDigits)
      (exponent : ExponentPart exponentText power) :
      NumberText ((if negative then ['-'] else []) ++ wholeText ++ fractionText ++ exponentText)
        ⟨negative, digitsValue (wholeText ++ fractionDigits), power - fractionDigits.length⟩

variable {text wholeText fractionText fractionDigits exponentText : List Char}

theorem whole_iff :
    (char '0' + oneOf leadingDigits * (oneOf digits).star).rmatch text = true ↔ WholePart text := by
  rw [add_rmatch_iff, char_rmatch_iff, mul_rmatch_iff]
  constructor
  · rintro (rfl | ⟨first, rest, rfl, leads, follow⟩)
    · exact .zero
    · obtain ⟨lead, listed, rfl⟩ := oneOf_iff.mp leads
      exact .run listed (star_iff.mp follow)
  · intro whole
    cases whole with
    | zero => exact .inl rfl
    | @run lead rest leads follow =>
      exact .inr ⟨[lead], rest, rfl, oneOf_iff.mpr ⟨lead, leads, rfl⟩, star_iff.mpr follow⟩

theorem fraction_iff : (optional (char '.' * several digits)).rmatch text = true ↔
    ∃ fractionDigits, FractionPart text fractionDigits := by
  rw [optional_iff, mul_rmatch_iff]
  constructor
  · rintro (⟨point, rest, rfl, points, follow⟩ | rfl)
    · rw [char_rmatch_iff] at points
      obtain ⟨nonempty, listed⟩ := several_iff.mp follow
      subst points
      exact ⟨rest, .run nonempty listed⟩
    · exact ⟨[], .none⟩
  · rintro ⟨fractionDigits, fraction⟩
    cases fraction with
    | none => exact .inr rfl
    | run nonempty listed =>
      exact .inl ⟨['.'], fractionDigits, rfl, (char_rmatch_iff _ _).mpr rfl,
        several_iff.mpr ⟨nonempty, listed⟩⟩

theorem exponent_iff :
    (optional (oneOf ['e', 'E'] * optional (oneOf ['+', '-']) * several digits)).rmatch text =
      true ↔ ∃ power, ExponentPart text power := by
  rw [optional_iff, mul_rmatch_iff]
  constructor
  · rintro (⟨front, rest, rfl, begins, follow⟩ | rfl)
    · obtain ⟨nonempty, listed⟩ := several_iff.mp follow
      obtain ⟨first, sign, rfl, marked, signed⟩ := (mul_rmatch_iff _ _ _).mp begins
      obtain ⟨mark, marks, rfl⟩ := oneOf_iff.mp marked
      rcases optional_iff.mp signed with chosen | rfl
      · obtain ⟨letter, either, rfl⟩ := oneOf_iff.mp chosen
        simp only [List.mem_cons, List.not_mem_nil, or_false] at either
        rcases either with rfl | rfl
        · exact ⟨_, .plus marks nonempty listed⟩
        · exact ⟨_, .minus marks nonempty listed⟩
      · exact ⟨_, .unsigned marks nonempty listed⟩
    · exact ⟨0, .none⟩
  · have matched (sign : List Char) {mark : Char} {rest : List Char} (marks : mark ∈ ['e', 'E'])
        (signed : (optional (oneOf ['+', '-'])).rmatch sign = true) (nonempty : rest ≠ [])
        (listed : ∀ digit ∈ rest, digit ∈ digits) :
        ∃ t u, mark :: (sign ++ rest) = t ++ u ∧
          (oneOf ['e', 'E'] * optional (oneOf ['+', '-'])).rmatch t = true ∧
          (several digits).rmatch u = true :=
      ⟨mark :: sign, rest, rfl, (mul_rmatch_iff _ _ _).mpr
        ⟨[mark], sign, rfl, oneOf_iff.mpr ⟨mark, marks, rfl⟩, signed⟩,
        several_iff.mpr ⟨nonempty, listed⟩⟩
    rintro ⟨power, exponent⟩
    cases exponent with
    | none => exact .inr rfl
    | unsigned marks nonempty listed =>
      exact .inl (matched [] marks (optional_iff.mpr (.inr rfl)) nonempty listed)
    | plus marks nonempty listed =>
      exact .inl (matched ['+'] marks
        (optional_iff.mpr (.inl (oneOf_iff.mpr ⟨'+', by decide, rfl⟩))) nonempty listed)
    | minus marks nonempty listed =>
      exact .inl (matched ['-'] marks
        (optional_iff.mpr (.inl (oneOf_iff.mpr ⟨'-', by decide, rfl⟩))) nonempty listed)

theorem sign_iff : (optional (char '-')).rmatch text = true ↔
    ∃ negative : Bool, text = if negative then ['-'] else [] := by
  rw [optional_iff, char_rmatch_iff]
  constructor
  · rintro (rfl | rfl)
    · exact ⟨true, rfl⟩
    · exact ⟨false, rfl⟩
  · rintro ⟨negative, rfl⟩
    cases negative
    · exact .inr rfl
    · exact .inl rfl

/-- The regular expression matches exactly the texts of the grammar. -/
theorem matches_iff : numberPattern.rmatch text = true ↔ ∃ number, NumberText text number := by
  rw [numberPattern, mul_rmatch_iff]
  constructor
  · rintro ⟨front, exponentText, rfl, front_matched, exponents⟩
    obtain ⟨middle, fractionText, rfl, middle_matched, fractions⟩ :=
      (mul_rmatch_iff _ _ _).mp front_matched
    obtain ⟨sign, wholeText, rfl, signs, wholes⟩ := (mul_rmatch_iff _ _ _).mp middle_matched
    obtain ⟨negative, rfl⟩ := sign_iff.mp signs
    obtain ⟨fractionDigits, fraction⟩ := fraction_iff.mp fractions
    obtain ⟨power, exponent⟩ := exponent_iff.mp exponents
    exact ⟨_, .spelled negative (whole_iff.mp wholes) fraction exponent⟩
  · rintro ⟨_, spelled⟩
    cases spelled with
    | spelled negative whole fraction exponent =>
      exact ⟨_, _, rfl, (mul_rmatch_iff _ _ _).mpr ⟨_, _, rfl, (mul_rmatch_iff _ _ _).mpr
        ⟨_, _, rfl, sign_iff.mpr ⟨negative, rfl⟩, whole_iff.mpr whole⟩,
        fraction_iff.mpr ⟨_, fraction⟩⟩, exponent_iff.mpr ⟨_, exponent⟩⟩

/-- A text that does not go on with a digit. -/
def Ends (text : List Char) : Prop := ∀ first, text.head? = some first → first ∉ digits

theorem split_digits (listed : ∀ digit ∈ text, digit ∈ digits) (ends : Ends rest) :
    (text ++ rest).takeWhile (· ∈ digits) = text ∧ (text ++ rest).dropWhile (· ∈ digits) = rest := by
  have nothing : rest.takeWhile (· ∈ digits) = [] ∧ rest.dropWhile (· ∈ digits) = rest := by
    cases rest with
    | nil => exact ⟨rfl, rfl⟩
    | cons first later =>
      have other := ends first rfl
      simp [other]
  have all : ∀ digit ∈ text, decide (digit ∈ digits) = true := by simpa using listed
  rw [List.takeWhile_append_of_pos all, List.dropWhile_append_of_pos all, nothing.1, nothing.2,
    List.append_nil]
  exact ⟨rfl, rfl⟩

theorem whole_digits (whole : WholePart text) :
    ∃ first rest, text = first :: rest ∧ first ∈ digits ∧ ∀ digit ∈ rest, digit ∈ digits := by
  cases whole with
  | zero => exact ⟨'0', [], rfl, by decide, by simp⟩
  | @run lead rest leads follow =>
    refine ⟨lead, rest, rfl, ?_, follow⟩
    have listed : ∀ letter ∈ leadingDigits, letter ∈ digits := by simp [leadingDigits, digits]
    exact listed lead leads

theorem unsignedText_digit (listed : first ∈ digits) (rest : List Char) :
    unsignedText (first :: rest) = first :: rest := by
  have minus : '-' ∉ digits := by decide
  have plus : '+' ∉ digits := by decide
  unfold unsignedText
  split
  · rename_i same
    cases same
    exact absurd listed minus
  · rename_i same
    cases same
    exact absurd listed plus
  · rfl

theorem powerOf_digits (listed : ∀ digit ∈ text, digit ∈ digits) :
    powerOf text = digitsValue text := by
  have minus : '-' ∉ digits := by decide
  have plus : '+' ∉ digits := by decide
  unfold powerOf
  split
  · exact absurd (listed _ List.mem_cons_self) minus
  · exact absurd (listed _ List.mem_cons_self) plus
  · rfl

theorem exponent_spec (exponent : ExponentPart exponentText power) :
    powerOf exponentText.tail = power ∧ Ends exponentText ∧ exponentText.head? ≠ some '.' := by
  have ends {mark : Char} (marks : mark ∈ ['e', 'E']) (rest : List Char) :
      Ends (mark :: rest) ∧ (mark :: rest).head? ≠ some '.' := by
    have unlisted : ∀ letter ∈ ['e', 'E'], letter ∉ digits ∧ letter ≠ '.' := by simp [digits]
    obtain ⟨other, pointless⟩ := unlisted mark marks
    refine ⟨?_, by simpa using pointless⟩
    rintro first ⟨⟩
    exact other
  cases exponent with
  | none => exact ⟨rfl, by rintro _ ⟨⟩, by simp⟩
  | unsigned marks nonempty listed => exact ⟨powerOf_digits listed, ends marks _⟩
  | plus marks => exact ⟨rfl, ends marks _⟩
  | minus marks => exact ⟨rfl, ends marks _⟩

theorem fraction_spec (fraction : FractionPart fractionText fractionDigits)
    (ends : Ends exponentText) (pointless : exponentText.head? ≠ some '.') :
    splitFraction (fractionText ++ exponentText) = (fractionDigits, exponentText) ∧
      Ends (fractionText ++ exponentText) := by
  cases fraction with
  | none =>
    refine ⟨?_, ends⟩
    rw [List.nil_append]
    unfold splitFraction
    split
    · exact absurd rfl pointless
    · rfl
  | run nonempty listed =>
    obtain ⟨taken, dropped⟩ := split_digits listed ends
    refine ⟨?_, ?_⟩
    · rw [List.cons_append, splitFraction, taken, dropped]
    · rintro first ⟨⟩
      decide

/-- The grammar gives the number that the constructor reads. -/
theorem ofText_spelled (spelled : NumberText text number) : Decimal.ofText text = number := by
  cases spelled with
  | @spelled wholeText fractionText fractionDigits exponentText power negative whole fraction
      exponent =>
    obtain ⟨powers, ends, pointless⟩ := exponent_spec exponent
    obtain ⟨fractions, stops⟩ := fraction_spec fraction ends pointless
    obtain ⟨first, rest, rfl, leads, follow⟩ := whole_digits whole
    obtain ⟨taken, dropped⟩ :=
      split_digits (List.forall_mem_cons.mpr ⟨leads, follow⟩) stops
    have unsigned : unsignedText ((if negative then ['-'] else []) ++ (first :: rest) ++
        fractionText ++ exponentText) = first :: rest ++ (fractionText ++ exponentText) := by
      cases negative with
      | true => simp [unsignedText]
      | false =>
        simp only [Bool.false_eq_true, if_false, List.nil_append, List.append_assoc,
          List.cons_append]
        exact unsignedText_digit leads _
    have sign : decide (((if negative then ['-'] else []) ++ (first :: rest) ++ fractionText ++
        exponentText).head? = some '-') = negative := by
      have plain : first ≠ '-' := by
        rintro rfl
        exact absurd leads (by decide)
      cases negative <;> simp [plain]
    rw [Decimal.ofText, unsigned, taken, dropped, fractions]
    dsimp only
    rw [powers, sign]

/-- A text spells one number. -/
theorem spelled_unique (one : NumberText text number) (two : NumberText text other) :
    number = other :=
  (ofText_spelled one).symm.trans (ofText_spelled two)

end Grammar

section Tolerance

theorem difference_abs (number expected : Decimal) :
    (maxDecimal number expected).toRat - (minDecimal number expected).toRat =
      |number.toRat - expected.toRat| := by
  unfold maxDecimal minDecimal
  rcases lt_trichotomy number.toRat expected.toRat with less | same | greater
  · rw [if_pos less, if_neg less.le.not_gt, abs_of_neg (sub_neg.mpr less), neg_sub]
  · rw [if_neg same.not_lt, if_neg same.symm.not_lt, same, sub_self, abs_zero]
  · rw [if_neg greater.le.not_gt, if_pos greater, abs_of_pos (sub_pos.mpr greater)]

/-- Rounding the difference down and watching the flag decides the exact inequality:
the tolerance has fewer digits than the precision. -/
theorem withinTolerance_iff (expected tolerance number : Decimal) :
    withinTolerance expected tolerance number = true ↔
      |number.toRat - expected.toRat| ≤ tolerance.toRat := by
  have floors := DecimalContext.subtract_floors
    (max (max number.digitCount expected.digitCount) tolerance.digitCount + 2)
    (maxDecimal number expected) (minDecimal number expected)
  rw [difference_abs] at floors
  have few : tolerance.coefficient <
      10 ^ (max (max number.digitCount expected.digitCount) tolerance.digitCount + 2) :=
    lt_of_lt_of_le tolerance.coefficient_lt (Nat.pow_le_pow_right (by norm_num)
      (le_trans (le_max_right _ _) (Nat.le_add_right _ 2)))
  simp only [withinTolerance, Bool.or_eq_true, Bool.and_eq_true, decide_eq_true_eq,
    Bool.not_eq_true']
  constructor
  · rintro (under | ⟨same, exact⟩)
    · by_contra outside
      have kept := floors.greatest (abs_nonneg _) tolerance few (not_le.mp outside).le
      exact absurd under (not_lt.mpr kept)
    · exact (floors.flagged.mp exact ▸ same).le
  · intro inside
    rcases lt_or_eq_of_le (floors.below.trans inside) with under | same
    · exact .inl under
    · refine .inr ⟨same, floors.flagged.mpr (le_antisymm floors.below ?_)⟩
      exact inside.trans same.symm.le

theorem numericReason_spelled {context : DecimalContext} {holds : Decimal → Bool}
    {expected tolerance number : Decimal} {answer : String} (nonneg : 0 ≤ tolerance.toRat)
    (spelled : NumberText (strip answer).toList number) (held : holds number = true) :
    numericReason context holds expected tolerance answer =
      if |number.toRat - expected.toRat| ≤ tolerance.toRat then .isMatch
      else .outsideTolerance := by
  have matched := matches_iff.mpr ⟨number, spelled⟩
  have read : decimalOf context holds (strip answer).toList = .ok (some number) := by
    rw [decimalOf, ofText_spelled spelled, if_pos held]
  simp only [numericReason, matched, not_true_eq_false, if_false, read, withinTolerance_iff]
  split
  · rename_i decided
    have exact : |number.toRat - expected.toRat| ≤ tolerance.toRat ↔
        number.toRat = expected.toRat := by
      rcases decided with zero | same
      · rw [zero, abs_nonpos_iff, sub_eq_zero]
      · simp [same, nonneg]
    simp only [exact]
  · rfl

theorem numericReason_unspelled {context : DecimalContext} {holds : Decimal → Bool}
    {expected tolerance : Decimal} {answer : String}
    (unspelled : ¬ ∃ number, NumberText (strip answer).toList number) :
    numericReason context holds expected tolerance answer = .invalidNumber := by
  rw [← matches_iff] at unspelled
  rw [numericReason, if_pos unspelled]

/-- A numeric answer matches exactly when the stripped text is a JSON number within
the inclusive tolerance, in every context of the caller. -/
theorem numeric_tolerance_exact (texts : AnswerTexts) (context : DecimalContext)
    (holds : Decimal → Bool) (expected tolerance : Decimal) (answer : String)
    (nonneg : 0 ≤ tolerance.toRat)
    (held : ∀ number, NumberText (strip answer).toList number → holds number = true) :
    ∃ evaluation, evaluateCase (texts.withNumbers context holds)
        { rule := .numericTolerance expected tolerance } answer = .ok evaluation ∧
      (evaluation.reason = .isMatch ↔ ∃ number, NumberText (strip answer).toList number ∧
        |number.toRat - expected.toRat| ≤ tolerance.toRat) ∧
      (evaluation.reason = .outsideTolerance ↔ ∃ number, NumberText (strip answer).toList number ∧
        ¬ |number.toRat - expected.toRat| ≤ tolerance.toRat) ∧
      (evaluation.reason = .invalidNumber ↔ ¬ ∃ number, NumberText (strip answer).toList number) := by
  refine ⟨_, evaluateCase_ok ?_ answer, ?_⟩
  · simp [EvaluatorSpec.check, then_ok_iff, nonneg]
  have reason : ((EvaluatorSpec.mk (.numericTolerance expected tolerance) "1").evaluation
      ((EvaluatorSpec.mk (.numericTolerance expected tolerance) "1").reason
        (texts.withNumbers context holds) answer)).reason =
      numericReason context holds expected tolerance answer := by
    simp only [EvaluatorSpec.evaluation, EvaluatorSpec.reason, AnswerTexts.withNumbers]
  rw [reason]
  by_cases spells : ∃ number, NumberText (strip answer).toList number
  · obtain ⟨number, spelled⟩ := spells
    have only {bounded : Decimal → Prop} :
        (∃ other, NumberText (strip answer).toList other ∧ bounded other) ↔ bounded number := by
      constructor
      · rintro ⟨other, also, holding⟩
        rwa [spelled_unique spelled also]
      · exact fun holding => ⟨number, spelled, holding⟩
    rw [numericReason_spelled nonneg spelled (held number spelled), only, only]
    refine ⟨?_, ?_, iff_of_false ?_ (not_not.mpr ⟨number, spelled⟩)⟩
    · split <;> simp [*]
    · split <;> simp [*]
    · split <;> simp
  · rw [numericReason_unspelled spells]
    have none {bounded : Decimal → Prop} :
        ¬ ∃ other, NumberText (strip answer).toList other ∧ bounded other := by
      rintro ⟨other, also, _⟩
      exact spells ⟨other, also⟩
    simp [none, spells]

/-- Exponents that the decimal library holds. -/
def withinLimits (number : Decimal) : Bool := number.exponent.natAbs ≤ 999999999999999999

/-- Texts that are not normalized and of which none is JSON. -/
def plainTexts : AnswerTexts where
  parsesJson := fun _ => false
  normalizeText := id
  numericReason := fun _ _ _ => .mismatch
  jsonReason := fun _ _ => .mismatch

/-- A caller's context of two digits, in which invalid operations give a NaN. -/
def narrowContext : DecimalContext where
  prec := 2
  rounding := roundFloor
  trapsInvalidOperation := false

/-- 1.5 is at the boundary of 1 within 0.5. -/
theorem boundary_matches : ∃ evaluation, evaluateCase (plainTexts.withNumbers narrowContext
      withinLimits) { rule := .numericTolerance ⟨false, 1, 0⟩ ⟨false, 5, -1⟩ } " 1.5\n" =
    .ok evaluation ∧ evaluation.reason = .isMatch := by
  have stripped : (strip " 1.5\n").toList = ['1', '.', '5'] := by decide
  have whole : WholePart ['1'] := .run (by decide) (by simp)
  have fraction : FractionPart ['.', '5'] ['5'] := .run (by simp) (by simp [digits])
  have spelled : NumberText ['1', '.', '5'] ⟨false, 15, -1⟩ := .spelled false whole fraction .none
  obtain ⟨evaluation, evaluated, matched, _⟩ := numeric_tolerance_exact plainTexts narrowContext
    withinLimits ⟨false, 1, 0⟩ ⟨false, 5, -1⟩ " 1.5\n" (by norm_num [Decimal.toRat]) (by
      intro number also
      rw [← ofText_spelled also, stripped]
      decide)
  refine ⟨evaluation, evaluated, matched.mpr ⟨_, stripped ▸ spelled, ?_⟩⟩
  norm_num [Decimal.toRat, abs_of_pos]

end Tolerance
end ModelPilot
