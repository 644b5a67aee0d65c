import Mathlib.Data.List.Forall2
import ModelPilot.JsonScanner

/-! Strict JSON documents (`benchmarks/_json.py`): the hooks that build the values of
`json.loads`, and which spellings they accept. -/
namespace ModelPilot

/-- A number of a document. -/
inductive JsonNumber where
  | int (value : Int)
  | decimal (value : Decimal)
  deriving DecidableEq

def JsonNumber.toRat : JsonNumber → ℚ
  | .int value => value
  | .decimal value => value.toRat

/-- How the interpreter reads numbers: the most digits of an `int`, where 0 is no
limit, the decimal context, and the decimals that its library holds. -/
structure JsonNumbers where
  intMaxStrDigits : Nat := 4300
  context : DecimalContext
  holds : Decimal → Bool

abbrev JsonData := JsonTree PyText JsonNumber

/-- `_object`. -/
def objectHook (result : Dict PyText α) : List (PyText × α) → Except PyError (Dict PyText α)
  | [] => .ok result
  | (key, value) :: pairs =>
    if key ∈ result.keys then .error (.value "duplicate JSON object key")
    else objectHook (result.set key value) pairs

namespace JsonNumbers

/-- `int(text)`. -/
def intHook (numbers : JsonNumbers) (text : List Char) : Except PyError Int :=
  if numbers.intMaxStrDigits ≠ 0 ∧ numbers.intMaxStrDigits < (unsignedText text).length then
    .error (.value "Exceeds the limit for integer string conversion")
  else .ok (powerOf text)

/-- `_decimal`. -/
def decimalHook (numbers : JsonNumbers) (text : List Char) : Except PyError Decimal :=
  if ¬ isFloat (Decimal.ofText text).toRat then .error (.value "non-finite JSON number")
  else
    match decimalOf numbers.context numbers.holds text with
    | .error _ => .error (.value "unsupported JSON number")
    | .ok none => .error (.value "non-finite JSON number")
    | .ok (some number) => .ok number

/-- `parse_int`, `parse_float` and `parse_constant`. -/
def read (numbers : JsonNumbers) : NumberSpelling → Except PyError JsonNumber
  | .integer text => (numbers.intHook text).map .int
  | .fraction text => (numbers.decimalHook text).map .decimal
  | .constant _ => .error (.value "non-finite JSON number")

mutual

/-- The data of a spelling, by the hooks. -/
def construct (numbers : JsonNumbers) : JsonSpelling → Except PyError JsonData
  | .null => .ok .null
  | .bool value => .ok (.bool value)
  | .number spelling => (numbers.read spelling).map .number
  | .str text => .ok (.str text)
  | .arr items => (constructItems numbers items).map .arr
  | .obj pairs => do
    let pairs ← constructPairs numbers pairs
    let result ← objectHook .empty pairs
    .ok (.obj result.entries)

def constructItems (numbers : JsonNumbers) : List JsonSpelling → Except PyError (List JsonData)
  | [] => .ok []
  | item :: items => do
    let data ← numbers.construct item
    let others ← constructItems numbers items
    .ok (data :: others)

def constructPairs (numbers : JsonNumbers) :
    List (PyText × JsonSpelling) → Except PyError (List (PyText × JsonData))
  | [] => .ok []
  | (key, value) :: pairs => do
    let data ← numbers.construct value
    let others ← constructPairs numbers pairs
    .ok ((key, data) :: others)

end

/-- The hooks accept a number. -/
def Reads (numbers : JsonNumbers) (spelling : NumberSpelling) : Prop :=
  ∃ number, numbers.read spelling = .ok number

end JsonNumbers

section Related
variable {relation : α → β → Prop} {items : List α} {results : List β}

/-- What relates two items, over lists of them. -/
theorem forall₂_spec {good : β → Prop} {left : α → γ} {right : β → γ}
    (each : ∀ item ∈ items, ∀ result, relation item result →
      good result ∧ left item = right result)
    (related : List.Forall₂ relation items results) :
    (∀ result ∈ results, good result) ∧ items.map left = results.map right := by
  induction related with
  | nil => simp
  | cons first _ ih =>
    obtain ⟨head, tail⟩ := List.forall_mem_cons.mp each
    obtain ⟨goods, same⟩ := ih tail
    rw [List.map_cons, List.map_cons, (head _ first).2, same]
    exact ⟨List.forall_mem_cons.mpr ⟨(head _ first).1, goods⟩, rfl⟩

theorem exists_forall₂_iff :
    (∃ results, List.Forall₂ relation items results) ↔
      ∀ item ∈ items, ∃ result, relation item result := by
  induction items with
  | nil => simp
  | cons item rest ih =>
    rw [List.forall_mem_cons, ← ih]
    constructor
    · rintro ⟨results, related⟩
      cases related with
      | cons first later => exact ⟨⟨_, first⟩, _, later⟩
    · rintro ⟨⟨result, first⟩, results, later⟩
      exact ⟨_, .cons first later⟩

end Related

section Hooks
variable {numbers : JsonNumbers}

/-- The loop over the pairs ends with all of them when no key is repeated. -/
theorem objectHook_ok_iff {result final : Dict PyText α} {pairs : List (PyText × α)} :
    objectHook result pairs = .ok final ↔
      final.entries = result.entries ++ pairs ∧
        ((result.entries ++ pairs).map Prod.fst).Nodup := by
  induction pairs generalizing result with
  | nil =>
    rw [List.append_nil]
    constructor
    · intro ended
      obtain rfl := Except.ok.inj ended
      exact ⟨rfl, result.distinct⟩
    · rintro ⟨same, _⟩
      rw [objectHook, Dict.ext_entries same]
  | cons pair rest ih =>
    obtain ⟨key, value⟩ := pair
    rw [objectHook]
    by_cases known : key ∈ result.keys
    · rw [if_pos known]
      refine iff_of_false (by rintro ⟨⟩) ?_
      rintro ⟨_, distinct⟩
      rw [List.map_append, List.nodup_append'] at distinct
      exact distinct.2.2 known List.mem_cons_self
    · have appended : (result.set key value).entries = result.entries ++ [(key, value)] :=
        DictEntries.insert_fresh _ _ _ known
      rw [if_neg known, ih, appended, List.append_assoc, List.singleton_append]

theorem constructItems_ok_iff {items : List JsonSpelling} {data : List JsonData} :
    numbers.constructItems items = .ok data ↔
      List.Forall₂ (fun item tree => numbers.construct item = .ok tree) items data := by
  induction items generalizing data with
  | nil => simp [JsonNumbers.constructItems, eq_comm]
  | cons item rest ih =>
    rw [JsonNumbers.constructItems, bind_ok_iff, List.forall₂_cons_left_iff]
    constructor
    · rintro ⟨tree, built, followed⟩
      obtain ⟨others, later, ended⟩ := bind_ok_iff.mp followed
      cases ended
      exact ⟨tree, others, built, ih.mp later, rfl⟩
    · rintro ⟨tree, others, built, later, rfl⟩
      exact ⟨tree, built, bind_ok_iff.mpr ⟨others, ih.mpr later, rfl⟩⟩

theorem constructPairs_ok_iff {pairs : List (PyText × JsonSpelling)}
    {members : List (PyText × JsonData)} :
    numbers.constructPairs pairs = .ok members ↔
      List.Forall₂ (fun pair member => pair.1 = member.1 ∧
        numbers.construct pair.2 = .ok member.2) pairs members := by
  induction pairs generalizing members with
  | nil => simp [JsonNumbers.constructPairs, eq_comm]
  | cons pair rest ih =>
    obtain ⟨key, value⟩ := pair
    rw [JsonNumbers.constructPairs, bind_ok_iff, List.forall₂_cons_left_iff]
    constructor
    · rintro ⟨tree, built, followed⟩
      obtain ⟨others, later, ended⟩ := bind_ok_iff.mp followed
      cases ended
      exact ⟨(key, tree), others, ⟨rfl, built⟩, ih.mp later, rfl⟩
    · rintro ⟨⟨name, tree⟩, others, ⟨rfl, built⟩, later, rfl⟩
      exact ⟨tree, built, bind_ok_iff.mpr ⟨others, ih.mpr later, rfl⟩⟩

theorem decimalOf_ok {context : DecimalContext} {holds : Decimal → Bool}
    (read : decimalOf context holds text = .ok (some number)) : number = Decimal.ofText text := by
  simp only [decimalOf] at read
  split at read
  · cases read
    rfl
  · split at read <;> cases read

theorem decimalHook_ok (accepted : numbers.decimalHook text = .ok number) :
    number = Decimal.ofText text := by
  unfold JsonNumbers.decimalHook at accepted
  split at accepted
  · cases accepted
  · split at accepted
    · cases accepted
    · cases accepted
    · rename_i read
      cases accepted
      exact decimalOf_ok read

/-- The hooks keep the number that is spelled. -/
theorem read_value (accepted : numbers.read spelling = .ok number) :
    spelling.value = some number.toRat := by
  cases spelling with
  | integer text =>
    obtain ⟨value, hooked, rfl⟩ := map_ok_iff.mp accepted
    unfold JsonNumbers.intHook at hooked
    split at hooked
    · cases hooked
    · cases hooked
      rfl
  | fraction text =>
    obtain ⟨decimal, hooked, rfl⟩ := map_ok_iff.mp accepted
    rw [decimalHook_ok hooked]
    rfl
  | constant name => cases accepted

theorem construct_arr_iff {items : List JsonSpelling} {tree : JsonData} :
    numbers.construct (.arr items) = .ok tree ↔ ∃ data,
      List.Forall₂ (fun item tree => numbers.construct item = .ok tree) items data ∧
        .arr data = tree := by
  rw [JsonNumbers.construct, map_ok_iff]
  simp only [constructItems_ok_iff]

theorem construct_obj_iff {pairs : List (PyText × JsonSpelling)} {tree : JsonData} :
    numbers.construct (.obj pairs) = .ok tree ↔ ∃ members,
      List.Forall₂ (fun pair member => pair.1 = member.1 ∧
        numbers.construct pair.2 = .ok member.2) pairs members ∧
        (members.map Prod.fst).Nodup ∧ .obj members = tree := by
  rw [JsonNumbers.construct, bind_ok_iff]
  simp only [constructPairs_ok_iff, bind_ok_iff, objectHook_ok_iff, Dict.empty, List.nil_append]
  constructor
  · rintro ⟨members, built, result, ⟨rfl, distinct⟩, ended⟩
    exact ⟨_, built, distinct, Except.ok.inj ended⟩
  · rintro ⟨members, built, distinct, rfl⟩
    exact ⟨members, built, ⟨members, distinct⟩, ⟨rfl, distinct⟩, rfl⟩

theorem names_built {pairs : List (PyText × JsonSpelling)} {members : List (PyText × JsonData)}
    (related : List.Forall₂ (fun pair member => pair.1 = member.1 ∧
      numbers.construct pair.2 = .ok member.2) pairs members) :
    pairs.map Prod.fst = members.map Prod.fst :=
  (forall₂_spec (fun _ _ _ paired => ⟨trivial, paired.1⟩) related).2

/-- What is accepted: objects without repeated names, of numbers that the hooks read. -/
theorem construct_ok_iff {spelling : JsonSpelling} :
    (∃ tree, numbers.construct spelling = .ok tree) ↔ spelling.WellFormed numbers.Reads := by
  induction spelling using JsonTree.induction with
  | null => exact iff_of_true ⟨_, rfl⟩ .null
  | bool value => exact iff_of_true ⟨_, rfl⟩ (.bool value)
  | number spelled =>
    rw [JsonTree.wellFormed_number_iff]
    constructor
    · rintro ⟨tree, built⟩
      obtain ⟨number, read, _⟩ := map_ok_iff.mp built
      exact ⟨number, read⟩
    · rintro ⟨number, read⟩
      exact ⟨_, map_ok_iff.mpr ⟨number, read, rfl⟩⟩
  | str text => exact iff_of_true ⟨_, rfl⟩ (.str text)
  | arr items ih =>
    have each : (∀ item ∈ items, ∃ tree, numbers.construct item = .ok tree) ↔
        ∀ item ∈ items, item.WellFormed numbers.Reads := forall₂_congr ih
    rw [JsonTree.wellFormed_arr_iff, ← each, ← exists_forall₂_iff]
    constructor
    · rintro ⟨tree, built⟩
      obtain ⟨data, related, _⟩ := construct_arr_iff.mp built
      exact ⟨data, related⟩
    · rintro ⟨data, related⟩
      exact ⟨_, construct_arr_iff.mpr ⟨data, related, rfl⟩⟩
  | obj pairs ih =>
    have each : (∀ pair ∈ pairs, ∃ member : PyText × JsonData, pair.1 = member.1 ∧
        numbers.construct pair.2 = .ok member.2) ↔
        ∀ pair ∈ pairs, pair.2.WellFormed numbers.Reads := by
      refine forall₂_congr fun pair inside => ?_
      rw [← ih pair inside]
      constructor
      · rintro ⟨member, _, built⟩
        exact ⟨_, built⟩
      · rintro ⟨tree, built⟩
        exact ⟨(pair.1, tree), rfl, built⟩
    rw [JsonTree.wellFormed_obj_iff, ← each, ← exists_forall₂_iff]
    constructor
    · rintro ⟨tree, built⟩
      obtain ⟨members, related, distinct, _⟩ := construct_obj_iff.mp built
      exact ⟨by rwa [names_built related], members, related⟩
    · rintro ⟨distinct, members, related⟩
      exact ⟨_, construct_obj_iff.mpr ⟨members, related, by rwa [← names_built related], rfl⟩⟩

/-- The number that data hold, as its spelling has it. -/
def JsonNumber.measure (number : JsonNumber) : Option ℚ := some number.toRat

/-- What it is built into: no object repeats a name, and the value is the same. -/
theorem construct_spec {spelling : JsonSpelling} {tree : JsonData}
    (built : numbers.construct spelling = .ok tree) :
    tree.WellFormed (fun _ => True) ∧
      spelling.denote NumberSpelling.value = tree.denote JsonNumber.measure := by
  induction spelling using JsonTree.induction generalizing tree with
  | null =>
    cases built
    exact ⟨.null, rfl⟩
  | bool value =>
    cases built
    exact ⟨.bool value, rfl⟩
  | number spelled =>
    obtain ⟨number, read, rfl⟩ := map_ok_iff.mp built
    refine ⟨.number trivial, ?_⟩
    rw [JsonTree.denote, JsonTree.denote, read_value read, JsonNumber.measure]
  | str text =>
    cases built
    exact ⟨.str text, rfl⟩
  | arr items ih =>
    obtain ⟨data, each, rfl⟩ := construct_arr_iff.mp built
    obtain ⟨inside, denoted⟩ :=
      forall₂_spec (fun item inside _ constructed => ih item inside constructed) each
    refine ⟨.arr inside, ?_⟩
    rw [JsonTree.denote, JsonTree.denote, JsonTree.denoteItems_eq, JsonTree.denoteItems_eq, denoted]
  | obj pairs ih =>
    obtain ⟨members, each, distinct, rfl⟩ := construct_obj_iff.mp built
    have step : ∀ pair ∈ pairs, ∀ member : PyText × JsonData, pair.1 = member.1 ∧
        numbers.construct pair.2 = .ok member.2 → member.2.WellFormed (fun _ => True) ∧
          Prod.map id (JsonTree.denote NumberSpelling.value) pair =
            Prod.map id (JsonTree.denote JsonNumber.measure) member := by
      rintro pair inside member ⟨named, constructed⟩
      obtain ⟨formed, denoted⟩ := ih pair inside constructed
      exact ⟨formed, Prod.ext named denoted⟩
    obtain ⟨inside, denoted⟩ := forall₂_spec step each
    refine ⟨.obj distinct inside, ?_⟩
    rw [JsonTree.denote, JsonTree.denote, JsonTree.denoteMembers_eq, JsonTree.denoteMembers_eq,
      denoted]

end Hooks

/-- A parsed document: none of its objects repeats a name. -/
structure JsonDocument where
  tree : JsonData
  distinct : tree.WellFormed fun _ => True

/-- `parse_json_document`. -/
def parseJsonDocument (numbers : JsonNumbers) (text : String) : Except PyError JsonDocument :=
  match JsonScanner.scanDocument text with
  | none => .error (.value "json.JSONDecodeError")
  | some spelling =>
    match built : numbers.construct spelling with
    | .ok tree => .ok ⟨tree, (construct_spec built).1⟩
    | .error error => .error error

section Documents
variable {numbers : JsonNumbers}

theorem parse_ok_iff {document : JsonDocument} :
    parseJsonDocument numbers text = .ok document ↔
      ∃ spelling, JsonScanner.scanDocument text = some spelling ∧
        numbers.construct spelling = .ok document.tree := by
  unfold parseJsonDocument
  split
  · rename_i unread
    simp [unread]
  · rename_i spelling read
    simp only [read, Option.some.injEq, exists_eq_left']
    split
    · rename_i tree built
      constructor
      · rintro ⟨⟩
        exact built
      · intro same
        obtain rfl := Except.ok.inj (built.symm.trans same)
        rfl
    · rename_i refused
      rw [refused]
      exact iff_of_false (by rintro ⟨⟩) (by rintro ⟨⟩)

/-- A text is accepted when it is a document whose objects repeat no name and whose
numbers are read. -/
theorem accepts_iff : (∃ document, parseJsonDocument numbers text = .ok document) ↔
    ∃ spelling, JsonScanner.scanDocument text = some spelling ∧
      spelling.WellFormed numbers.Reads := by
  constructor
  · rintro ⟨document, parsed⟩
    obtain ⟨spelling, scanned, built⟩ := parse_ok_iff.mp parsed
    exact ⟨spelling, scanned, construct_ok_iff.mp ⟨_, built⟩⟩
  · rintro ⟨spelling, scanned, formed⟩
    obtain ⟨tree, built⟩ := construct_ok_iff.mpr formed
    exact ⟨⟨tree, (construct_spec built).1⟩, parse_ok_iff.mpr ⟨spelling, scanned, built⟩⟩

/-- A step that raises nothing but a `ValueError`. -/
def RaisesValue (result : Except PyError α) : Prop :=
  ∀ error, result = .error error → ∃ message, error = .value message

theorem RaisesValue.ok (value : α) : RaisesValue (.ok value) := by
  rintro _ ⟨⟩

theorem RaisesValue.refuse (message : String) :
    RaisesValue (.error (.value message) : Except PyError α) := by
  rintro _ ⟨⟩
  exact ⟨message, rfl⟩

theorem RaisesValue.map {result : Except PyError α} {change : α → β}
    (raises : RaisesValue result) : RaisesValue (result.map change) := by
  intro error failed
  cases result with
  | error reason =>
    cases failed
    exact raises _ rfl
  | ok _ => cases failed

theorem RaisesValue.bind {result : Except PyError α} {next : α → Except PyError β}
    (raises : RaisesValue result) (later : ∀ value, RaisesValue (next value)) :
    RaisesValue (result >>= next) := by
  cases result with
  | error reason =>
    rintro _ ⟨⟩
    exact raises _ rfl
  | ok value => exact later value

theorem read_raises (numbers : JsonNumbers) (spelling : NumberSpelling) :
    RaisesValue (numbers.read spelling) := by
  cases spelling with
  | integer text =>
    refine .map ?_
    unfold JsonNumbers.intHook
    split
    · exact .refuse _
    · exact .ok _
  | fraction text =>
    refine .map ?_
    unfold JsonNumbers.decimalHook
    split
    · exact .refuse _
    · split
      · exact .refuse _
      · exact .refuse _
      · exact .ok _
  | constant name => exact .refuse _

theorem objectHook_raises (result : Dict PyText α) (pairs : List (PyText × α)) :
    RaisesValue (objectHook result pairs) := by
  induction pairs generalizing result with
  | nil => exact .ok _
  | cons pair rest ih =>
    rw [objectHook]
    split
    · exact .refuse _
    · exact ih _

theorem construct_raises (numbers : JsonNumbers) (spelling : JsonSpelling) :
    RaisesValue (numbers.construct spelling) := by
  induction spelling using JsonTree.induction with
  | null => exact .ok _
  | bool value => exact .ok _
  | number spelled => exact (read_raises numbers spelled).map
  | str text => exact .ok _
  | arr items ih =>
    refine .map ?_
    induction items with
    | nil => exact .ok _
    | cons item rest later =>
      obtain ⟨first, others⟩ := List.forall_mem_cons.mp ih
      exact first.bind fun _ => (later others).bind fun _ => .ok _
  | obj pairs ih =>
    refine .bind ?_ fun _ => (objectHook_raises _ _).bind fun _ => .ok _
    induction pairs with
    | nil => exact .ok _
    | cons pair rest later =>
      obtain ⟨first, others⟩ := List.forall_mem_cons.mp ih
      exact first.bind fun _ => (later others).bind fun _ => .ok _

/-- Whatever is refused is refused with a `ValueError`. -/
theorem parse_raises (numbers : JsonNumbers) (text : String) :
    RaisesValue (parseJsonDocument numbers text) := by
  unfold parseJsonDocument
  split
  · exact .refuse _
  · rename_i spelling _
    split
    · exact .ok _
    · rename_i refused
      rintro _ ⟨⟩
      exact construct_raises numbers spelling _ refused

end Documents
end ModelPilot
