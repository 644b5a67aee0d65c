import Mathlib.Data.List.Infix
import ModelPilot.Decimals
import ModelPilot.Dict

/-! Benchmark definitions and their validation (`benchmarks/models.py`), and
what an evaluator says about an answer (`benchmarks/evaluators.py`). A `…Fields`
record holds unchecked values; `check` is its validation. -/
namespace ModelPilot

/-- The characters `\s` matches in a constraint pattern. -/
def isWhiteSpace (char : Char) : Bool :=
  let code := char.toNat
  (9 ≤ code && code ≤ 13) || (8192 ≤ code && code ≤ 8202) ||
    code ∈ [32, 133, 160, 5760, 8232, 8233, 8239, 8287, 12288]

/-- The characters `str.strip` removes: the above and four separators. -/
def isStripped (char : Char) : Bool :=
  isWhiteSpace char || (28 ≤ char.toNat && char.toNat ≤ 31)

/-- `text.strip()`. -/
def strip (text : String) : String :=
  String.ofList
    ((text.toList.dropWhile isStripped).reverse.dropWhile isStripped).reverse

/-- `text.lower() == "auto"`; only ASCII letters lower to these four. -/
def lowersToAuto (text : String) : Bool := text.toList.map Char.toLower = "auto".toList

/-- `Identifier`. -/
def isIdentifier (text : String) : Bool :=
  match text.toList with
  | [] => false
  | first :: rest =>
    first.isAlphanum && rest.all fun char => char.isAlphanum || char ∈ ['.', '_', '-']

theorem ne_empty_of_identifier (identifier : isIdentifier text = true) : text ≠ "" := by
  rintro rfl
  exact absurd identifier (by decide)

/-- `NonBlankText`. -/
def isNonBlank (text : String) : Bool := text.toList.any fun char => !isWhiteSpace char

/-- The pattern of a SHA-256 hex digest. -/
def isFingerprint (text : String) : Bool :=
  text.length = 64 && text.toList.all fun char => char.isDigit || (97 ≤ char.toNat && char.toNat ≤ 102)

inductive BenchmarkCategory where
  | coding
  | reasoning
  | structuredOutput
  | math
  | instructionFollowing
  deriving DecidableEq, Repr

inductive MessageRole where
  | system
  | user
  | assistant
  deriving DecidableEq, Repr

structure BenchmarkMessage where
  role : MessageRole
  content : String
  deriving DecidableEq, Repr

inductive EvaluatorKind where
  | exactMatch
  | normalizedExactMatch
  | contains
  | numericTolerance
  | jsonEqual
  deriving DecidableEq, Repr

/-- What an evaluator compares an answer with. -/
inductive EvaluatorRule where
  | exactMatch (expectedText : String)
  | normalizedExactMatch (expectedText : String)
  | contains (expectedText : String)
  | numericTolerance (expectedNumber tolerance : Decimal)
  | jsonEqual (expectedJson : String)
  deriving DecidableEq, Repr

structure EvaluatorSpec where
  rule : EvaluatorRule
  evaluatorVersion : String := "1"
  deriving DecidableEq, Repr

def EvaluatorSpec.kind (spec : EvaluatorSpec) : EvaluatorKind :=
  match spec.rule with
  | .exactMatch _ => .exactMatch
  | .normalizedExactMatch _ => .normalizedExactMatch
  | .contains _ => .contains
  | .numericTolerance _ _ => .numericTolerance
  | .jsonEqual _ => .jsonEqual

inductive EvaluationReason where
  | isMatch
  | mismatch
  | invalidNumber
  | outsideTolerance
  | invalidJson
  deriving DecidableEq, Repr

/-- How answer texts are read: `parse_json_document` accepts a text, Unicode
normalization, and the verdicts of the numeric and the JSON comparison. Results
about runs hold whatever these decide. -/
structure AnswerTexts where
  parsesJson : String → Bool
  normalizeText : String → String
  numericReason : Decimal → Decimal → String → EvaluationReason
  jsonReason : String → String → EvaluationReason

structure BenchmarkCase where
  caseId : String
  category : BenchmarkCategory
  messages : List BenchmarkMessage
  evaluator : EvaluatorSpec
  weight : ℚ := 1
  deriving DecidableEq

structure SuiteFields where
  suiteId : String
  version : String
  name : String
  description : String := ""
  cases : List BenchmarkCase
  deriving DecidableEq

def BenchmarkMessage.check (message : BenchmarkMessage) : Except PyError Unit :=
  require (isNonBlank message.content) "content"

def EvaluatorSpec.check (texts : AnswerTexts) (spec : EvaluatorSpec) : Except PyError Unit := do
  require (spec.evaluatorVersion = "1") "evaluator_version"
  match spec.rule with
  | .contains expectedText => require (expectedText ≠ "") "expected_text"
  | .numericTolerance _ tolerance => require (0 ≤ tolerance.toRat) "tolerance"
  | .jsonEqual expectedJson => require (texts.parsesJson expectedJson) "expected_json"
  | _ => .ok ()

def BenchmarkCase.check (texts : AnswerTexts) (case_ : BenchmarkCase) : Except PyError Unit := do
  require (isIdentifier case_.caseId) "case_id"
  require (case_.messages ≠ []) "messages"
  checkAll BenchmarkMessage.check case_.messages
  case_.evaluator.check texts
  require (0 < case_.weight) "weight"

def SuiteFields.check (texts : AnswerTexts) (suite : SuiteFields) : Except PyError Unit := do
  require (isIdentifier suite.suiteId) "suite_id"
  require (isIdentifier suite.version) "version"
  require (isNonBlank suite.name) "name"
  require (suite.cases ≠ []) "cases"
  checkAll (BenchmarkCase.check texts) suite.cases
  require (suite.cases.map (·.caseId)).Nodup "duplicate case_id in benchmark suite"

/-- A validated suite. -/
structure BenchmarkSuite (texts : AnswerTexts) extends SuiteFields where
  valid : toSuiteFields.check texts = .ok ()

namespace BenchmarkSuite
variable {texts : AnswerTexts}

/-- `BenchmarkSuite.model_validate`. -/
def modelValidate (texts : AnswerTexts) (fields : SuiteFields) :
    Except PyError (BenchmarkSuite texts) :=
  match valid : fields.check texts with
  | .ok () => .ok ⟨fields, valid⟩
  | .error error => .error error

/-- A validated suite survives re-validation. -/
theorem modelValidate_self (suite : BenchmarkSuite texts) :
    modelValidate texts suite.toSuiteFields = .ok suite :=
  validated_ok (BenchmarkSuite.mk suite.toSuiteFields) suite.valid

theorem modelValidate_fields {suite : BenchmarkSuite texts}
    (accepted : modelValidate texts fields = .ok suite) : suite.toSuiteFields = fields := by
  unfold modelValidate at accepted
  split at accepted
  · cases accepted
    rfl
  · cases accepted

/-- The facts validation establishes. -/
structure Facts (suite : SuiteFields) : Prop where
  suiteId : isIdentifier suite.suiteId = true
  version : isIdentifier suite.version = true
  nonempty : suite.cases ≠ []
  caseIds : ∀ case_ ∈ suite.cases, isIdentifier case_.caseId = true
  versions : ∀ case_ ∈ suite.cases, case_.evaluator.evaluatorVersion = "1"
  weights : ∀ case_ ∈ suite.cases, 0 < case_.weight
  distinct : (suite.cases.map (·.caseId)).Nodup

theorem facts (suite : BenchmarkSuite texts) : Facts suite.toSuiteFields := by
  have valid := suite.valid
  simp only [SuiteFields.check, then_ok_iff, require_ok_iff, checkAll_ok_iff,
    BenchmarkCase.check, EvaluatorSpec.check] at valid
  obtain ⟨suiteId, version, _, nonempty, cases, distinct⟩ := valid
  exact ⟨suiteId, version, nonempty, fun case_ member => (cases case_ member).1,
    fun case_ member => (cases case_ member).2.2.2.1.1,
    fun case_ member => (cases case_ member).2.2.2.2, distinct⟩

end BenchmarkSuite

structure CaseEvaluation where
  evaluatorKind : EvaluatorKind
  evaluatorVersion : String := "1"
  score : ℚ
  passed : Bool
  reason : EvaluationReason
  deriving DecidableEq

namespace CaseEvaluation

/-- Field constraints and `consistent_result`. -/
def check (evaluation : CaseEvaluation) : Except PyError Unit := do
  require (evaluation.evaluatorVersion = "1") "evaluator_version"
  require (Rounding.InUnit evaluation.score) "score"
  require (evaluation.passed = decide (evaluation.score = 1) ∧
    evaluation.passed = decide (evaluation.reason = .isMatch)) "passed, score and reason disagree"
  require (evaluation.reason = .invalidNumber ∨ evaluation.reason = .invalidJson →
    evaluation.score = 0) "invalid answers must score zero"

end CaseEvaluation

/-- `pattern in text`. -/
def containsText (pattern text : String) : Bool := pattern.toList <:+: text.toList

/-- The verdict on an answer. -/
def EvaluatorSpec.reason (texts : AnswerTexts) (spec : EvaluatorSpec) (answer : String) :
    EvaluationReason :=
  match spec.rule with
  | .exactMatch expectedText => if answer = expectedText then .isMatch else .mismatch
  | .normalizedExactMatch expectedText =>
    if texts.normalizeText answer = texts.normalizeText expectedText then .isMatch else .mismatch
  | .contains expectedText => if containsText expectedText answer then .isMatch else .mismatch
  | .numericTolerance expectedNumber tolerance =>
    texts.numericReason expectedNumber tolerance answer
  | .jsonEqual expectedJson => texts.jsonReason expectedJson answer

/-- The evaluation of an answer with a verdict. -/
def EvaluatorSpec.evaluation (spec : EvaluatorSpec) (reason : EvaluationReason) :
    CaseEvaluation where
  evaluatorKind := spec.kind
  score := if reason = .isMatch then 1 else 0
  passed := reason = .isMatch
  reason

/-- The document a JSON specification expects is parsed before each use. -/
def EvaluatorRule.parseExpected (texts : AnswerTexts) : EvaluatorRule → Except PyError Unit
  | .jsonEqual expectedJson => require (texts.parsesJson expectedJson) "expected_json"
  | _ => .ok ()

/-- `evaluate_case`. -/
def evaluateCase (texts : AnswerTexts) (spec : EvaluatorSpec) (answer : String) :
    Except PyError CaseEvaluation := do
  require (spec.evaluatorVersion = "1") "unsupported evaluator version"
  spec.rule.parseExpected texts
  let evaluation := spec.evaluation (spec.reason texts answer)
  evaluation.check
  .ok evaluation

theorem evaluation_check (spec : EvaluatorSpec) (reason : EvaluationReason) :
    (spec.evaluation reason).check = .ok () := by
  simp only [CaseEvaluation.check, EvaluatorSpec.evaluation, then_ok_iff, require_ok_iff]
  cases reason <;> simp [Rounding.InUnit]

/-- A validated specification evaluates every answer. -/
theorem evaluateCase_ok {texts : AnswerTexts} {spec : EvaluatorSpec}
    (valid : spec.check texts = .ok ()) (answer : String) :
    evaluateCase texts spec answer = .ok (spec.evaluation (spec.reason texts answer)) := by
  simp only [EvaluatorSpec.check, then_ok_iff, require_ok_iff] at valid
  simp only [evaluateCase, then_ok_iff, require_ok_iff, evaluation_check, and_true]
  refine ⟨valid.1, ?_⟩
  cases rule : spec.rule with
  | jsonEqual expectedJson => simpa [EvaluatorRule.parseExpected, rule] using valid.2
  | _ => rfl

end ModelPilot
