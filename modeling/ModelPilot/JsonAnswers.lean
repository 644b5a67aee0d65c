import ModelPilot.JsonDocuments

/-! The JSON evaluator (`_json_equal`, `benchmarks/evaluators.py`): two documents are
equal when they denote one value. -/
namespace ModelPilot

/-- `left == right` of `int` and `Decimal` values, which is exact. -/
def JsonNumber.equals (left right : JsonNumber) : Bool := left.toRat = right.toRat

/-- `left.keys() == right.keys()`. -/
def keysEqual (left right : List (PyText × JsonData)) : Bool :=
  left.length == right.length &&
    left.all fun member => (DictEntries.lookup member.1 right).isSome

mutual

/-- `_json_equal`: a Boolean is not a number here. -/
def jsonEqual : JsonData → JsonData → Bool
  | .bool left, .bool right => left == right
  | .bool _, _ => false
  | _, .bool _ => false
  | .number left, .number right => left.equals right
  | .obj left, .obj right => keysEqual left right && membersEqual left right
  | .arr left, .arr right => left.length == right.length && itemsEqual left right
  | .str left, .str right => left == right
  | .null, .null => true
  | _, _ => false

def itemsEqual : List JsonData → List JsonData → Bool
  | left :: lefts, right :: rights => jsonEqual left right && itemsEqual lefts rights
  | _, _ => true

def membersEqual : List (PyText × JsonData) → List (PyText × JsonData) → Bool
  | [], _ => true
  | (key, value) :: members, others =>
    match DictEntries.lookup key others with
    | none => false
    | some other => jsonEqual value other && membersEqual members others

end

/-- The value of a document. -/
def JsonDocument.value (document : JsonDocument) : JsonValue PyText ℚ :=
  document.tree.denote JsonNumber.toRat

/-- Texts whose JSON documents are read and compared like this. What is refused raises
a `ValueError`, which makes an answer invalid. -/
def AnswerTexts.withJson (texts : AnswerTexts) (numbers : JsonNumbers) : AnswerTexts :=
  { texts with
    parsesJson := fun text => (parseJsonDocument numbers text).toOption.isSome
    jsonReason := fun expected answer =>
      match parseJsonDocument numbers expected, parseJsonDocument numbers answer with
      | .ok document, .ok reply =>
        if jsonEqual document.tree reply.tree then .isMatch else .mismatch
      | _, _ => .invalidJson }

section Equality
variable {measure : JsonNumber → μ}

theorem itemsEqual_iff {left right : List JsonData}
    (each : ∀ item ∈ left, ∀ other ∈ right,
      (jsonEqual item other = true ↔ item.denote measure = other.denote measure)) :
    left.length = right.length ∧ itemsEqual left right = true ↔
      left.map (JsonTree.denote measure) = right.map (JsonTree.denote measure) := by
  induction left generalizing right with
  | nil => cases right <;> simp [itemsEqual]
  | cons item rest ih =>
    cases right with
    | nil => simp
    | cons other others =>
      have first := each item List.mem_cons_self other List.mem_cons_self
      have later := ih fun item inside other within =>
        each item (List.mem_cons_of_mem _ inside) other (List.mem_cons_of_mem _ within)
      rw [itemsEqual, Bool.and_eq_true, List.map_cons, List.map_cons, List.cons.injEq, ← first,
        ← later, List.length_cons, List.length_cons, Nat.add_right_cancel_iff]
      exact and_left_comm

theorem membersEqual_iff {left right : List (PyText × JsonData)} :
    membersEqual left right = true ↔ ∀ member ∈ left, ∃ tree,
      DictEntries.lookup member.1 right = some tree ∧ jsonEqual member.2 tree = true := by
  induction left with
  | nil => simp [membersEqual]
  | cons member rest ih =>
    obtain ⟨key, value⟩ := member
    rw [membersEqual, List.forall_mem_cons, ← ih]
    cases DictEntries.lookup key right <;> simp

theorem keysEqual_iff {left right : List (PyText × JsonData)} :
    keysEqual left right = true ↔ left.length = right.length ∧
      ∀ member ∈ left, (DictEntries.lookup member.1 right).isSome := by
  simp [keysEqual]

/-- Equal are the trees that denote one value, however numbers are measured. -/
theorem jsonEqual_iff
    (faithful : ∀ one two, measure one = measure two ↔ one.toRat = two.toRat)
    {left right : JsonData} (once : left.WellFormed fun _ => True)
    (also : right.WellFormed fun _ => True) :
    jsonEqual left right = true ↔ left.denote measure = right.denote measure := by
  induction left using JsonTree.induction generalizing right with
  | null => cases right <;> simp [jsonEqual, JsonTree.denote]
  | bool value => cases right <;> simp [jsonEqual, JsonTree.denote]
  | number value =>
    cases right <;> simp [jsonEqual, JsonTree.denote, JsonNumber.equals, faithful]
  | str text => cases right <;> simp [jsonEqual, JsonTree.denote]
  | arr items ih =>
    cases right with
    | arr others =>
      have each : ∀ item ∈ items, ∀ other ∈ others, (jsonEqual item other = true ↔
          item.denote measure = other.denote measure) := fun item inside other within =>
        ih item inside (JsonTree.wellFormed_arr_iff.mp once item inside)
          (JsonTree.wellFormed_arr_iff.mp also other within)
      rw [jsonEqual, Bool.and_eq_true, beq_iff_eq, itemsEqual_iff each, JsonTree.denote,
        JsonTree.denote, JsonTree.denoteItems_eq, JsonTree.denoteItems_eq, JsonValue.arr.injEq]
    | _ => simp [jsonEqual, JsonTree.denote]
  | obj members ih =>
    cases right with
    | obj others =>
      obtain ⟨distinct, inside⟩ := JsonTree.wellFormed_obj_iff.mp once
      obtain ⟨only, within⟩ := JsonTree.wellFormed_obj_iff.mp also
      have each {member : PyText × JsonData} (held : member ∈ members) {tree : JsonData}
          (found : DictEntries.lookup member.1 others = some tree) :
          jsonEqual member.2 tree = true ↔
            member.2.denote measure = tree.denote measure :=
        ih member held (inside member held)
          (within _ ((DictEntries.lookup_eq_some_iff only).mp found))
      rw [jsonEqual, Bool.and_eq_true, keysEqual_iff, membersEqual_iff,
        JsonTree.obj_denote_iff distinct only]
      constructor
      · rintro ⟨⟨length, _⟩, equal⟩
        refine ⟨length, fun member held => ?_⟩
        obtain ⟨tree, found, same⟩ := equal member held
        exact ⟨tree, found, (each held found).mp same⟩
      · rintro ⟨length, equal⟩
        refine ⟨⟨length, fun member held => ?_⟩, fun member held => ?_⟩
        · obtain ⟨tree, found, _⟩ := equal member held
          rw [found]
          rfl
        · obtain ⟨tree, found, same⟩ := equal member held
          exact ⟨tree, found, (each held found).mpr same⟩
    | _ => simp [jsonEqual, JsonTree.denote]

end Equality

/-- Two texts of one document, up to the order of members and the spelling of numbers. -/
def RespelledText (same : NumberSpelling → NumberSpelling → Prop) (text other : String) : Prop :=
  ∃ spelling another, JsonScanner.scanDocument text = some spelling ∧
    JsonScanner.scanDocument other = some another ∧ spelling.Respelled same another

/-- Two spellings of one number. -/
def SameNumber (one two : NumberSpelling) : Prop := one.value = two.value

def JsonNumbers.Accepts (numbers : JsonNumbers) (text : String) : Prop :=
  ∃ document, parseJsonDocument numbers text = .ok document

section Documents
variable {numbers : JsonNumbers}

theorem documents_equal_iff (left right : JsonDocument) :
    jsonEqual left.tree right.tree = true ↔ left.value = right.value :=
  jsonEqual_iff (fun _ _ => Iff.rfl) left.distinct right.distinct

/-- The value of a document is the one that its text spells. -/
theorem document_spelled (parsed : parseJsonDocument numbers text = .ok document) :
    ∃ spelling, JsonScanner.scanDocument text = some spelling ∧
      spelling.WellFormed (fun _ => True) ∧
      spelling.denote NumberSpelling.value = document.tree.denote JsonNumber.measure := by
  obtain ⟨spelling, scanned, built⟩ := parse_ok_iff.mp parsed
  have formed := construct_ok_iff.mp ⟨_, built⟩
  exact ⟨spelling, scanned, formed.mono fun _ _ => trivial, (construct_spec built).2⟩

theorem respelled_value {document another : JsonDocument}
    (respelled : RespelledText SameNumber text other)
    (parsed : parseJsonDocument numbers text = .ok document)
    (also : parseJsonDocument numbers other = .ok another) : document.value = another.value := by
  obtain ⟨spelling, changed, scanned, rescanned, respelled⟩ := respelled
  obtain ⟨first, found, formed, denoted⟩ := document_spelled parsed
  obtain ⟨second, refound, _, redenoted⟩ := document_spelled also
  cases scanned.symm.trans found
  cases rescanned.symm.trans refound
  have measured : document.tree.denote JsonNumber.measure =
      another.tree.denote JsonNumber.measure := by
    rw [← denoted, ← redenoted, respelled.denote_eq formed]
  rw [← documents_equal_iff]
  exact (jsonEqual_iff (fun _ _ => Option.some_inj) document.distinct another.distinct).mpr measured

/-- Members in another order are accepted as before. -/
theorem reordered_accepted (reordered : RespelledText Eq text other)
    (accepted : numbers.Accepts text) : numbers.Accepts other := by
  obtain ⟨spelling, changed, scanned, rescanned, respelled⟩ := reordered
  obtain ⟨found, read, formed⟩ := accepts_iff.mp accepted
  cases scanned.symm.trans read
  refine accepts_iff.mpr ⟨changed, rescanned, respelled.wellFormed ?_ formed⟩
  rintro value _ rfl holds
  exact holds

theorem jsonReason_eq (texts : AnswerTexts) {document : JsonDocument}
    (parsed : parseJsonDocument numbers expected = .ok document) (answer : String) :
    (texts.withJson numbers).jsonReason expected answer =
      match parseJsonDocument numbers answer with
      | .ok reply => if jsonEqual document.tree reply.tree then .isMatch else .mismatch
      | .error _ => .invalidJson := by
  simp only [AnswerTexts.withJson, parsed]
  cases parseJsonDocument numbers answer <;> rfl

theorem evaluateCase_json (texts : AnswerTexts) {document : JsonDocument}
    (parsed : parseJsonDocument numbers expected = .ok document) (answer : String) :
    evaluateCase (texts.withJson numbers) { rule := .jsonEqual expected } answer =
      .ok ((EvaluatorSpec.mk (.jsonEqual expected) "1").evaluation
        ((texts.withJson numbers).jsonReason expected answer)) := by
  refine (evaluateCase_ok ?_ answer).trans ?_
  · simp [EvaluatorSpec.check, then_ok_iff, AnswerTexts.withJson, parsed, Except.toOption]
  · simp only [EvaluatorSpec.reason]

/-- JSON answers are compared by meaning: equality is the equality of values, it decides
whether an answer passes, and neither the order of members nor the spelling of numbers
matters. -/
theorem json_equal_exact (texts : AnswerTexts) (numbers : JsonNumbers) :
    Equivalence (fun left right : JsonDocument => jsonEqual left.tree right.tree = true) ∧
    (∀ left right : JsonDocument,
      jsonEqual left.tree right.tree = true ↔ left.value = right.value) ∧
    (∀ expected answer document, parseJsonDocument numbers expected = .ok document →
      ∃ evaluation, evaluateCase (texts.withJson numbers) { rule := .jsonEqual expected }
          answer = .ok evaluation ∧
        (∀ reply, parseJsonDocument numbers answer = .ok reply →
          (evaluation.passed = true ↔ document.value = reply.value)) ∧
        (¬ numbers.Accepts answer → evaluation.score = 0 ∧ evaluation.passed = false)) ∧
    (∀ expected other answer reply, RespelledText SameNumber expected other →
      RespelledText SameNumber answer reply → numbers.Accepts expected → numbers.Accepts other →
      numbers.Accepts answer → numbers.Accepts reply →
      evaluateCase (texts.withJson numbers) { rule := .jsonEqual expected } answer =
        evaluateCase (texts.withJson numbers) { rule := .jsonEqual other } reply) ∧
    (∀ text other, RespelledText Eq text other → numbers.Accepts text →
      numbers.Accepts other) := by
  refine ⟨⟨?_, ?_, ?_⟩, documents_equal_iff, ?_, ?_, fun _ _ => reordered_accepted⟩
  · exact fun document => (documents_equal_iff document document).mpr rfl
  · intro left right same
    exact (documents_equal_iff right left).mpr ((documents_equal_iff left right).mp same).symm
  · intro left middle right first second
    exact (documents_equal_iff left right).mpr (((documents_equal_iff left middle).mp first).trans
      ((documents_equal_iff middle right).mp second))
  · intro expected answer document parsed
    refine ⟨_, evaluateCase_json texts parsed answer, ?_, ?_⟩
    · intro reply read
      rw [jsonReason_eq texts parsed, read, ← documents_equal_iff]
      by_cases equal : jsonEqual document.tree reply.tree = true <;>
        simp [EvaluatorSpec.evaluation, equal]
    · intro refused
      rw [jsonReason_eq texts parsed]
      cases read : parseJsonDocument numbers answer with
      | ok reply => exact absurd ⟨reply, read⟩ refused
      | error _ => simp [EvaluatorSpec.evaluation]
  · rintro expected other answer reply respelled replied ⟨document, parsed⟩ ⟨another, reparsed⟩
      ⟨given, read⟩ ⟨regiven, reread⟩
    have same : jsonEqual document.tree given.tree = jsonEqual another.tree regiven.tree := by
      rw [Bool.eq_iff_iff, documents_equal_iff, documents_equal_iff,
        respelled_value respelled parsed reparsed, respelled_value replied read reread]
    rw [evaluateCase_json texts parsed, evaluateCase_json texts reparsed,
      jsonReason_eq texts parsed, jsonReason_eq texts reparsed, read, reread]
    simp only [same]
    rfl

/-- The default digit limit, and decimals within the limits of the library. -/
def plainNumbers : JsonNumbers where
  context := narrowContext
  holds := withinLimits

/-- Members in another order, and a decimal for an integer, pass. -/
theorem respelled_answer_passes : ∃ evaluation, evaluateCase (plainTexts.withJson plainNumbers)
      { rule := .jsonEqual "\x7b\"a\":1,\"b\":true\x7d" }
      " \x7b\"b\": true, \"a\": 1.0\x7d" = .ok evaluation ∧
    evaluation.passed = true := by
  have parses : (do
      let document ← (parseJsonDocument plainNumbers "\x7b\"a\":1,\"b\":true\x7d").toOption
      let reply ← (parseJsonDocument plainNumbers " \x7b\"b\": true, \"a\": 1.0\x7d").toOption
      some (jsonEqual document.tree reply.tree)) = some true := by decide +kernel
  obtain ⟨document, found, parses⟩ := Option.bind_eq_some_iff.mp parses
  obtain ⟨reply, answered, equal⟩ := Option.bind_eq_some_iff.mp parses
  obtain ⟨_, meaning, evaluates, _⟩ := json_equal_exact plainTexts plainNumbers
  obtain ⟨evaluation, evaluated, passes, _⟩ :=
    evaluates _ " \x7b\"b\": true, \"a\": 1.0\x7d" document (toOption_eq_some_iff.mp found)
  exact ⟨evaluation, evaluated, (passes reply (toOption_eq_some_iff.mp answered)).mpr
    ((meaning document reply).mp (Option.some.inj equal))⟩

end Documents
end ModelPilot
