import ModelPilot.AdapterCalls

/-! What the adapters make of an answer. A call ends in an outcome unless the clock
steps back, the model is unnamed or the answer has a status that outcomes do not
allow; usage that is not valid makes a failure of an accepted completion. -/
namespace ModelPilot

section Usage

/-- A count that is absent, null or a non-negative integer. -/
def ValidCount (value : Option Json) : Prop :=
  value = none ∨ value = some .null ∨ ∃ count : Nat, value = some (.int count)

/-- The reported count, when it is a non-negative integer. -/
def reportedCount : Option Json → Option Nat
  | some (.int (.ofNat count)) => some count
  | _ => none

/-- The member of a JSON object. -/
def Json.member (name : String) : Json → Option Json
  | .obj members => Dict.get? (Dict.ofList members) name
  | _ => none

/-- The names under which an upstream reports its token counts. -/
structure CountNames where
  input : String
  output : String
  total : String

/-- Usage that is null or an object, with valid counts. -/
structure ValidUsage (names : CountNames) (usage : Json) : Prop where
  shape : usage = .null ∨ ∃ members, usage = .obj members
  input : ValidCount (usage.member names.input)
  output : ValidCount (usage.member names.output)
  total : ValidCount (usage.member names.total)

def reportedUsage (names : CountNames) (usage : Json) : TokenUsage where
  inputTokens := reportedCount (usage.member names.input)
  outputTokens := reportedCount (usage.member names.output)
  totalTokens := reportedCount (usage.member names.total)

def completionNames : CountNames := ⟨"prompt_tokens", "completion_tokens", "total_tokens"⟩

def geminiNames : CountNames := ⟨"promptTokenCount", "candidatesTokenCount", "totalTokenCount"⟩

theorem optionalTokenCount_ok_iff {usage : Payload} :
    optionalTokenCount usage field = .ok count ↔
      ValidCount (usage.get? field) ∧ count = reportedCount (usage.get? field) := by
  unfold optionalTokenCount ValidCount reportedCount
  cases usage.get? field with
  | none => simp [eq_comm]
  | some value =>
    cases value with
    | null => simp [eq_comm]
    | int value => cases value <;> simp [eq_comm]
    | _ => simp

theorem normalizeTokenUsage_ok_iff : normalizeTokenUsage usage = .ok counts ↔
    ValidUsage completionNames usage ∧ counts = reportedUsage completionNames usage := by
  cases usage with
  | null =>
    have valid : ValidUsage completionNames .null := ⟨.inl rfl, .inl rfl, .inl rfl, .inl rfl⟩
    simp only [valid, true_and, normalizeTokenUsage, Except.ok.injEq]
    exact eq_comm
  | obj members =>
    simp only [normalizeTokenUsage, bind_ok_iff, Except.ok.injEq, optionalTokenCount_ok_iff]
    constructor
    · rintro ⟨_, ⟨input, rfl⟩, _, ⟨output, rfl⟩, _, ⟨total, rfl⟩, rfl⟩
      exact ⟨⟨.inr ⟨members, rfl⟩, input, output, total⟩, rfl⟩
    · rintro ⟨valid, rfl⟩
      exact ⟨_, ⟨valid.input, rfl⟩, _, ⟨valid.output, rfl⟩, _, ⟨valid.total, rfl⟩, rfl⟩
  | _ =>
    simp only [normalizeTokenUsage, reduceCtorEq, false_iff, not_and]
    rintro ⟨null | ⟨_, object⟩⟩
    · cases null
    · cases object

/-- A value that is present and not null. -/
def kept : Option Json → Option Json
  | none => none
  | some .null => none
  | some value => some value

theorem validCount_kept : ValidCount (kept value) ↔ ValidCount value := by
  unfold kept
  split <;> simp [ValidCount]

theorem reportedCount_kept : reportedCount (kept value) = reportedCount value := by
  unfold kept
  split <;> rfl

open GeminiProvider in
/-- Usage metadata is renamed count by count. -/
theorem member_renamed (usage : Payload) :
    (Json.obj (fieldNames.filterMap (renamed usage))).member "prompt_tokens" =
        kept (usage.get? "promptTokenCount") ∧
      (Json.obj (fieldNames.filterMap (renamed usage))).member "completion_tokens" =
        kept (usage.get? "candidatesTokenCount") ∧
      (Json.obj (fieldNames.filterMap (renamed usage))).member "total_tokens" =
        kept (usage.get? "totalTokenCount") := by
  have each (names : String × String) : renamed usage names =
      (kept (usage.get? names.1)).map fun value => (names.2, value) := by
    rw [renamed]
    cases usage.get? names.1 with
    | none => rfl
    | some value => cases value <;> rfl
  simp only [fieldNames, List.filterMap_cons, List.filterMap_nil, each, Json.member,
    Dict.get?_ofList]
  cases kept (usage.get? "promptTokenCount") <;>
    cases kept (usage.get? "candidatesTokenCount") <;>
    cases kept (usage.get? "totalTokenCount") <;>
    simp [DictEntries.lookup]

/-- An object without members, given as null, has the members of the object. -/
theorem emptied_object (entries : List (String × Json)) :
    ((if entries.isEmpty then Json.null else .obj entries) = .null ∨
      ∃ members, (if entries.isEmpty then Json.null else .obj entries) = .obj members) ∧
    ∀ name, (if entries.isEmpty then Json.null else .obj entries).member name =
      (Json.obj entries).member name := by
  split
  · rename_i empty
    rw [List.isEmpty_iff.mp empty]
    exact ⟨.inl rfl, fun _ => rfl⟩
  · exact ⟨.inr ⟨entries, rfl⟩, fun _ => rfl⟩

/-- Gemini usage is null or an object, and renaming keeps its counts. -/
theorem geminiUsage_cases (usage : Json) :
    (∃ normalized, GeminiProvider.geminiUsage usage = .ok normalized ∧
      (ValidUsage completionNames normalized ↔ ValidUsage geminiNames usage) ∧
      reportedUsage completionNames normalized = reportedUsage geminiNames usage) ∨
    ((∃ error, GeminiProvider.geminiUsage usage = .error error) ∧
      ¬ ValidUsage geminiNames usage) := by
  cases usage with
  | null =>
    have valid (names : CountNames) : ValidUsage names .null :=
      ⟨.inl rfl, .inl rfl, .inl rfl, .inl rfl⟩
    exact .inl ⟨.null, rfl, iff_of_true (valid _) (valid _), rfl⟩
  | obj members =>
    obtain ⟨input, output, total⟩ := member_renamed (Dict.ofList members)
    refine .inl ⟨_, rfl, ?_⟩
    generalize GeminiProvider.fieldNames.filterMap (GeminiProvider.renamed (Dict.ofList members)) =
      entries at *
    obtain ⟨shape, same⟩ := emptied_object entries
    refine ⟨⟨fun valid => ?_, fun valid => ?_⟩, ?_⟩
    · obtain ⟨_, inputs, outputs, totals⟩ := valid
      simp only [completionNames, same, input, output, total, validCount_kept]
        at inputs outputs totals
      exact ⟨.inr ⟨members, rfl⟩, inputs, outputs, totals⟩
    · refine ⟨shape, ?_, ?_, ?_⟩
      · rw [same, completionNames, input, validCount_kept]
        exact valid.input
      · rw [same, completionNames, output, validCount_kept]
        exact valid.output
      · rw [same, completionNames, total, validCount_kept]
        exact valid.total
    · simp only [reportedUsage, completionNames, geminiNames, same, input, output, total,
        reportedCount_kept]
      rfl
  | _ =>
    refine .inr ⟨⟨_, rfl⟩, ?_⟩
    rintro ⟨null | ⟨_, object⟩⟩
    · cases null
    · cases object

end Usage

section Bodies

/-- A completion object: a JSON object with a list of choices. -/
def CompletionBody (body : Json) : Prop :=
  ∃ members choices, body = .obj members ∧ body.member "choices" = some (.arr choices)

/-- A generated content: the first part of its first candidate has a text. -/
def GeneratedBody (body : Json) : Prop :=
  ∃ candidate candidates content part parts text,
    body.member "candidates" = some (.arr (candidate :: candidates)) ∧
    candidate.member "content" = some content ∧
    content.member "parts" = some (.arr (part :: parts)) ∧
    part.member "text" = some (.str text)

open Provider (Quiet)

/-- A step whose only error is an invalid response. -/
def Refuses (result : Except CallError α) : Prop :=
  ∀ error, result = .error error → ∃ message, error = .invalidProviderResponse message

theorem refuses_ok (value : α) : Refuses (.ok value) := by
  rintro error ⟨⟩

theorem refuses_error (message : String) :
    Refuses (.error (.invalidProviderResponse message) : Except CallError α) := by
  rintro error ⟨⟩
  exact ⟨message, rfl⟩

theorem Refuses.bind {result : Except CallError α} {next : α → Except CallError β}
    (first : Refuses result) (rest : ∀ value, Refuses (next value)) :
    Refuses (result >>= next) := by
  cases result with
  | error error =>
    rintro _ ⟨⟩
    exact first error rfl
  | ok value => exact rest value

theorem Refuses.quiet {result : Except CallError α} (refuses : Refuses result) :
    Quiet result := by
  intro error raised
  obtain ⟨message, rfl⟩ := refuses error raised
  simp [CallError.invalidProviderResponse]

theorem optionalTokenCount_refuses (usage : Payload) (field : String) :
    Refuses (optionalTokenCount usage field) := by
  unfold optionalTokenCount
  split
  · exact refuses_ok _
  · exact refuses_ok _
  · exact refuses_ok _
  · exact refuses_error _

theorem normalizeTokenUsage_refuses (usage : Json) : Refuses (normalizeTokenUsage usage) := by
  unfold normalizeTokenUsage
  split
  · exact refuses_ok _
  · exact Refuses.bind (optionalTokenCount_refuses _ _) fun _ =>
      Refuses.bind (optionalTokenCount_refuses _ _) fun _ =>
        Refuses.bind (optionalTokenCount_refuses _ _) fun _ => refuses_ok _
  · exact refuses_error _

theorem item_ok_iff {data value : Json} :
    data.item name = .ok value ↔ data.member name = some value := by
  cases data with
  | obj members =>
    rw [Json.item, Json.member]
    cases (Dict.ofList members).get? name <;> simp
  | _ => simp [Json.item, Json.member]

theorem item_quiet (name : String) (data : Json) : Quiet (data.item name) := by
  unfold Json.item
  split
  · split
    · exact Provider.quiet_ok _
    · exact Provider.quiet_error (by simp)
  · exact Provider.quiet_error (by decide)

theorem first_quiet (data : Json) : Quiet data.first := by
  unfold Json.first
  split
  · exact Provider.quiet_ok _
  · exact Provider.quiet_error (by decide)
  · split
    · exact Provider.quiet_ok _
    · exact Provider.quiet_error (by decide)
  · exact Provider.quiet_error (by decide)
  · exact Provider.quiet_error (by decide)

/-- The first of a list; what a text begins with is a text, which has no members. -/
theorem first_member {data found value : Json} (first : data.first = .ok found)
    (inside : found.member name = some value) : ∃ items, data = .arr (found :: items) := by
  cases data with
  | arr items =>
    cases items with
    | nil => cases first
    | cons item items =>
      cases first
      exact ⟨items, rfl⟩
  | str text =>
    rw [Json.first] at first
    split at first
    · cases first
      cases inside
    · cases first
  | _ => cases first

theorem candidateText_quiet (data : Json) : Quiet (GeminiProvider.candidateText data) :=
  Quiet.bind (item_quiet _ _) fun _ => Quiet.bind (first_quiet _) fun _ =>
    Quiet.bind (item_quiet _ _) fun _ => Quiet.bind (item_quiet _ _) fun _ =>
      Quiet.bind (first_quiet _) fun _ => item_quiet _ _

theorem candidateText_ok_iff {data : Json} :
    (∃ text, GeminiProvider.candidateText data = .ok (.str text)) ↔ GeneratedBody data := by
  simp only [GeminiProvider.candidateText, bind_ok_iff, item_ok_iff]
  constructor
  · rintro ⟨text, candidates, listed, candidate, begun, content, held, parts, given, part, opened,
      said⟩
    obtain ⟨others, rfl⟩ := first_member begun held
    obtain ⟨rest, rfl⟩ := first_member opened said
    exact ⟨candidate, others, content, part, rest, text, listed, held, given, said⟩
  · rintro ⟨candidate, others, content, part, rest, text, listed, held, given, said⟩
    exact ⟨text, _, listed, candidate, rfl, content, held, _, given, part, rfl, said⟩

theorem geminiUsage_refuses (usage : Json) : Refuses (GeminiProvider.geminiUsage usage) := by
  unfold GeminiProvider.geminiUsage
  split
  · exact refuses_ok _
  · exact refuses_ok _
  · exact refuses_error _

theorem readCompletion_ok_iff {body : Json} {data : Payload} {usage : TokenUsage} :
    OpenAICompatibleProvider.read body = .ok (data, usage) ↔
      (∃ members choices, body = .obj members ∧ data = Dict.ofList members ∧
        data.get? "choices" = some (.arr choices)) ∧
      ValidUsage completionNames ((body.member "usage").getD .null) ∧
      usage = reportedUsage completionNames ((body.member "usage").getD .null) := by
  cases body with
  | obj members =>
    rw [OpenAICompatibleProvider.read, ← normalizeTokenUsage_ok_iff]
    split
    · rename_i choices listed
      simp only [bind_ok_iff, Except.ok.injEq, Prod.mk.injEq]
      constructor
      · rintro ⟨_, counted, rfl, rfl⟩
        exact ⟨⟨members, choices, rfl, rfl, listed⟩, counted⟩
      · rintro ⟨⟨_, _, same, rfl, _⟩, counted⟩
        cases same
        exact ⟨usage, counted, rfl, rfl⟩
    · rename_i unlisted
      simp only [reduceCtorEq, false_iff, not_and]
      rintro ⟨_, choices, same, rfl, listed⟩
      cases same
      exact absurd listed (unlisted choices)
  | _ => simp [OpenAICompatibleProvider.read]

theorem getOf_ok_iff {body : Json} : GeminiProvider.getOf name body = .ok value ↔
    (∃ members, body = .obj members) ∧ value = (body.member name).getD .null := by
  cases body with
  | obj members =>
    simp only [GeminiProvider.getOf, Except.ok.injEq, Json.obj.injEq, exists_eq', true_and]
    exact eq_comm
  | _ => simp [GeminiProvider.getOf]

theorem readGenerated_ok_iff {body : Json} {usage : TokenUsage} :
    (∃ data, GeminiProvider.read model world body = .ok (data, usage)) ↔ GeneratedBody body ∧
      ValidUsage geminiNames ((body.member "usageMetadata").getD .null) ∧
      usage = reportedUsage geminiNames ((body.member "usageMetadata").getD .null) := by
  rw [← candidateText_ok_iff]
  constructor
  · rintro ⟨data, ran⟩
    obtain ⟨text, found, ran⟩ := bind_ok_iff.mp ran
    split at ran
    · rename_i said
      obtain ⟨metadata, gotten, ran⟩ := bind_ok_iff.mp ran
      obtain ⟨normalized, renames, ran⟩ := bind_ok_iff.mp ran
      obtain ⟨counts, counted, ran⟩ := bind_ok_iff.mp ran
      cases ran
      obtain ⟨_, rfl⟩ := getOf_ok_iff.mp gotten
      obtain ⟨valid, rfl⟩ := normalizeTokenUsage_ok_iff.mp counted
      rcases geminiUsage_cases ((body.member "usageMetadata").getD .null) with
        ⟨_, also, same, kept⟩ | ⟨⟨_, refused⟩, _⟩
      · rw [renames] at also
        cases also
        exact ⟨⟨said, found⟩, same.mp valid, kept⟩
      · rw [renames] at refused
        cases refused
    · cases ran
  · rintro ⟨⟨text, found⟩, valid, rfl⟩
    obtain ⟨candidate, candidates, content, part, parts, _, listed, _⟩ :=
      candidateText_ok_iff.mp ⟨text, found⟩
    have object : ∃ members, body = .obj members := by
      cases body with
      | obj members => exact ⟨members, rfl⟩
      | _ => cases listed
    rcases geminiUsage_cases ((body.member "usageMetadata").getD .null) with
      ⟨normalized, renames, same, kept⟩ | ⟨_, invalid⟩
    · refine ⟨GeminiProvider.normalizedResponse model world text normalized,
        bind_ok_iff.mpr ⟨_, found, bind_ok_iff.mpr ⟨_, getOf_ok_iff.mpr ⟨object, rfl⟩,
          bind_ok_iff.mpr ⟨normalized, renames, bind_ok_iff.mpr ⟨_,
            normalizeTokenUsage_ok_iff.mpr ⟨same.mpr valid, rfl⟩, by rw [kept]⟩⟩⟩⟩⟩
    · exact absurd valid invalid

end Bodies

/-- The two adapters. -/
inductive Adapter where
  | openAICompatible (provider : OpenAICompatibleProvider)
  | gemini (provider : GeminiProvider)

namespace Adapter
open Provider

def complete (sanitizeErrorMessage : String → List String → String) :
    Adapter → (HttpRequest → Except CallError HttpResponse) → CallWorld → ChatRequest → String →
      Except PyError ProviderOutcome
  | .openAICompatible provider =>
    OpenAICompatibleProvider.complete sanitizeErrorMessage provider
  | .gemini provider => GeminiProvider.complete sanitizeErrorMessage provider

def provider : Adapter → Provider
  | .openAICompatible provider => provider
  | .gemini provider => provider

/-- What the client answers to the request that the adapter posts. -/
def answer (client : HttpRequest → Except CallError HttpResponse) (request : ChatRequest)
    (model : String) : Adapter → Except CallError HttpResponse
  | .openAICompatible provider => client (OpenAICompatibleProvider.post provider request model)
  | .gemini provider => client (GeminiProvider.post provider request model)

def read (world : CallWorld) (model : String) :
    Adapter → Json → Except CallError (Payload × TokenUsage)
  | .openAICompatible _ => OpenAICompatibleProvider.read
  | .gemini _ => GeminiProvider.read model world

/-- A body with a completion. -/
def WellFormed : Adapter → Json → Prop
  | .openAICompatible _ => CompletionBody
  | .gemini _ => GeneratedBody

/-- The usage that a body reports, null if it has none. -/
def usageOf (body : Json) : Adapter → Json
  | .openAICompatible _ => (body.member "usage").getD .null
  | .gemini _ => (body.member "usageMetadata").getD .null

def countNames : Adapter → CountNames
  | .openAICompatible _ => completionNames
  | .gemini _ => geminiNames

variable {sanitizeErrorMessage : String → List String → String} {adapter : Adapter}
  {client : HttpRequest → Except CallError HttpResponse} {world : CallWorld}
  {request : ChatRequest} {model : String} {body : Json} {response : HttpResponse}
  {outcome : ProviderOutcome}

theorem complete_eq (adapter : Adapter) :
    adapter.complete sanitizeErrorMessage client world request model =
      adapter.provider.call sanitizeErrorMessage model world (adapter.answer client request model)
        (adapter.read world model) := by
  cases adapter <;> rfl

theorem read_quiet (adapter : Adapter) (body : Json) : Quiet (adapter.read world model body) := by
  cases adapter with
  | openAICompatible provider =>
    dsimp only [Adapter.read]
    unfold OpenAICompatibleProvider.read
    split
    · dsimp only
      split
      · exact Quiet.bind (normalizeTokenUsage_refuses _).quiet fun _ => quiet_ok _
      · exact quiet_error (by decide)
    · exact quiet_error (by decide)
  | gemini provider =>
    refine Quiet.bind (candidateText_quiet body) fun text => ?_
    split
    · refine Quiet.bind ?_ fun _ => Quiet.bind (geminiUsage_refuses _).quiet fun _ =>
        Quiet.bind (normalizeTokenUsage_refuses _).quiet fun _ => quiet_ok _
      unfold GeminiProvider.getOf
      split
      · exact quiet_ok _
      · exact quiet_error (by decide)
    · exact quiet_error (by decide)

/-- A body is read exactly when it is well formed with valid usage, and then the
counts are the reported ones. -/
theorem read_ok_iff : (∃ data, adapter.read world model body = .ok (data, usage)) ↔
    adapter.WellFormed body ∧ ValidUsage adapter.countNames (adapter.usageOf body) ∧
      usage = reportedUsage adapter.countNames (adapter.usageOf body) := by
  cases adapter with
  | openAICompatible provider =>
    have object : ∀ data : Payload, (∃ members choices, body = .obj members ∧
        data = Dict.ofList members ∧ data.get? "choices" = some (.arr choices)) →
        CompletionBody body := by
      rintro _ ⟨members, choices, rfl, rfl, listed⟩
      exact ⟨members, choices, rfl, listed⟩
    simp only [Adapter.read, readCompletion_ok_iff, exists_and_right]
    refine and_congr_left fun _ => ⟨fun ⟨data, held⟩ => object data held, ?_⟩
    rintro ⟨members, choices, rfl, listed⟩
    exact ⟨_, members, choices, rfl, rfl, listed⟩
  | gemini provider => exact readGenerated_ok_iff

/-- Where the body is well formed, only its usage is refused. -/
theorem read_refuses (formed : adapter.WellFormed body) :
    Refuses (adapter.read world model body) := by
  cases adapter with
  | openAICompatible provider =>
    obtain ⟨members, choices, rfl, listed⟩ := formed
    dsimp only [Adapter.read, OpenAICompatibleProvider.read]
    split
    · exact Refuses.bind (normalizeTokenUsage_refuses _) fun _ => refuses_ok _
    · rename_i unlisted
      exact absurd listed (unlisted choices)
  | gemini provider =>
    obtain ⟨text, found⟩ := candidateText_ok_iff.mpr formed
    obtain ⟨candidate, candidates, _, _, _, _, listed, _⟩ := formed
    cases body with
    | obj members =>
      dsimp only [Adapter.read]
      rw [GeminiProvider.read, found]
      change Refuses (GeminiProvider.geminiUsage _ >>= fun usage => normalizeTokenUsage usage >>=
        fun counts => .ok (GeminiProvider.normalizedResponse model world text usage, counts))
      exact Refuses.bind (geminiUsage_refuses _) fun _ =>
        Refuses.bind (normalizeTokenUsage_refuses _) fun _ => refuses_ok _
    | _ => cases listed

/-- The answer is a successful response whose body is well formed, with valid usage. -/
def Accepts (adapter : Adapter) (answer : Except CallError HttpResponse) : Prop :=
  ∃ response body, answer = .ok response ∧ response.IsSuccess ∧ response.json = .ok body ∧
    adapter.WellFormed body ∧ ValidUsage adapter.countNames (adapter.usageOf body)

theorem completes_iff (adapter : Adapter) (answer : Except CallError HttpResponse) :
    adapter.provider.Completes model world answer (adapter.read world model) ↔
      adapter.Accepts answer ∧ model ≠ "" ∧ world.startedAt ≤ world.succeeded.now := by
  constructor
  · rintro ⟨response, ⟨data, usage⟩, answered, accepted, valid⟩
    obtain ⟨success, body, decoded, taken⟩ := accept_ok_iff.mp accepted
    obtain ⟨formed, counted, _⟩ := read_ok_iff.mp ⟨data, taken⟩
    obtain ⟨named, timed, _⟩ := successFields_valid_iff.mp valid
    exact ⟨⟨response, body, answered, success, decoded, formed, counted⟩, named, timed⟩
  · rintro ⟨⟨response, body, answered, success, decoded, formed, counted⟩, named, timed⟩
    obtain ⟨data, taken⟩ := read_ok_iff.mpr ⟨formed, counted, rfl⟩
    refine ⟨response, _, answered, accept_ok_iff.mpr ⟨success, body, decoded, taken⟩,
      successFields_valid_iff.mpr ⟨named, timed, ?_⟩⟩
    rintro code ⟨⟩
    obtain ⟨least, most⟩ := success
    omega

/-- How `complete` ends. -/
theorem complete_end (sanitizeErrorMessage : String → List String → String) (adapter : Adapter)
    (client : HttpRequest → Except CallError HttpResponse) (world : CallWorld)
    (request : ChatRequest) (model : String) :
    CallEnd sanitizeErrorMessage adapter.provider model world
      (adapter.answer client request model) (adapter.read world model)
      (adapter.complete sanitizeErrorMessage client world request model) := by
  rw [complete_eq]
  exact call_end sanitizeErrorMessage adapter.provider model world _ (read_quiet adapter)

/-- `complete` returns an outcome, which is a success only for a successful response
with a well-formed body, and otherwise a failure with an error type. -/
def Total (sanitizeErrorMessage : String → List String → String) (adapter : Adapter)
    (client : HttpRequest → Except CallError HttpResponse) (world : CallWorld)
    (request : ChatRequest) (model : String) : Prop :=
  ∃ outcome, adapter.complete sanitizeErrorMessage client world request model = .ok outcome ∧
    (outcome.success = true → ∃ response body,
      adapter.answer client request model = .ok response ∧ response.IsSuccess ∧
      response.json = .ok body ∧ adapter.WellFormed body) ∧
    (outcome.success = false → ∃ errorType, outcome.errorType = some errorType)

/-- The model is named, and the clock has not stepped back when the outcome is built:
at the end of an accepted call, or in the handler, where the status that the call
reports is one that outcomes allow. -/
def Reportable (adapter : Adapter) (client : HttpRequest → Except CallError HttpResponse)
    (world : CallWorld) (request : ChatRequest) (model : String) : Prop :=
  model ≠ "" ∧
    (adapter.Accepts (adapter.answer client request model) ∧
        world.startedAt ≤ world.succeeded.now ∨
      world.startedAt ≤ world.failed.now ∧
        ∀ code, answerStatus (adapter.answer client request model) = some code →
          100 ≤ code ∧ code ≤ 599)

/-- An adapter is total exactly where it can report the call. -/
theorem complete_total_iff (sanitizeErrorMessage : String → List String → String)
    (adapter : Adapter) (client : HttpRequest → Except CallError HttpResponse)
    (world : CallWorld) (request : ChatRequest) (model : String) :
    Total sanitizeErrorMessage adapter client world request model ↔
      Reportable adapter client world request model := by
  have ends := complete_end sanitizeErrorMessage adapter client world request model
  have completes : adapter.provider.Completes model world (adapter.answer client request model)
      (adapter.read world model) ↔ _ := adapter.completes_iff _
  unfold Total
  generalize adapter.complete sanitizeErrorMessage client world request model = result at ends
  cases ends with
  | @succeeded response taken answered accepted valid outcome carries =>
    obtain ⟨accepts, named, timed⟩ := completes.mp ⟨response, taken, answered, accepted, valid⟩
    refine iff_of_true ⟨outcome, rfl, fun _ => ?_, fun failed => ?_⟩
      ⟨named, .inl ⟨accepts, timed⟩⟩
    · obtain ⟨given, body, also, success, decoded, formed, _⟩ := accepts
      exact ⟨given, body, also, success, decoded, formed⟩
    · rw [carries.success] at failed
      cases failed
  | @failed incomplete error statusCode reported valid outcome carries =>
    obtain ⟨named, timed, range⟩ := failureFields_valid_iff.mp valid
    refine iff_of_true ⟨outcome, rfl, fun success => ?_, fun _ => ?_⟩
      ⟨named, .inr ⟨timed, fun code held => range code (reported.trans held)⟩⟩
    · rw [carries.success] at success
      cases success
    · exact ⟨_, carries.errorType⟩
  | @raised incomplete error statusCode reported invalid raised =>
    refine iff_of_false ?_ ?_
    · rintro ⟨_, built, _⟩
      cases built
    · rintro ⟨named, ⟨accepts, timed⟩ | ⟨timed, range⟩⟩
      · exact incomplete (completes.mpr ⟨accepts, named, timed⟩)
      · exact invalid (failureFields_valid_iff.mpr
          ⟨named, timed, fun code held => range code (reported.symm.trans held)⟩)

/-- The completion is kept, with each token count that was reported as a non-negative
integer, and no other. -/
def CountsKept (sanitizeErrorMessage : String → List String → String) (adapter : Adapter)
    (client : HttpRequest → Except CallError HttpResponse) (world : CallWorld)
    (request : ChatRequest) (model : String) (body : Json) : Prop :=
  ∃ outcome, adapter.complete sanitizeErrorMessage client world request model = .ok outcome ∧
    outcome.success = true ∧
    outcome.inputTokens = reportedCount ((adapter.usageOf body).member adapter.countNames.input) ∧
    outcome.outputTokens =
      reportedCount ((adapter.usageOf body).member adapter.countNames.output) ∧
    outcome.totalTokens = reportedCount ((adapter.usageOf body).member adapter.countNames.total)

/-- The call is reported as a failed one with an invalid response, without counts. -/
def CompletionRefused (sanitizeErrorMessage : String → List String → String) (adapter : Adapter)
    (client : HttpRequest → Except CallError HttpResponse) (world : CallWorld)
    (request : ChatRequest) (model : String) : Prop :=
  ∃ outcome, adapter.complete sanitizeErrorMessage client world request model = .ok outcome ∧
    outcome.success = false ∧ outcome.errorType = some .invalidResponse ∧
    outcome.inputTokens = none ∧ outcome.outputTokens = none ∧ outcome.totalTokens = none

section WellFormedBodies
variable (sanitizeErrorMessage : String → List String → String) (adapter : Adapter)
  (client : HttpRequest → Except CallError HttpResponse) (world : CallWorld)
  (request : ChatRequest) (model : String)

theorem countsKept_iff (answered : adapter.answer client request model = .ok response)
    (success : response.IsSuccess) (decoded : response.json = .ok body)
    (formed : adapter.WellFormed body) :
    CountsKept sanitizeErrorMessage adapter client world request model body ↔
      ValidUsage adapter.countNames (adapter.usageOf body) ∧ model ≠ "" ∧
        world.startedAt ≤ world.succeeded.now := by
  have ends := complete_end sanitizeErrorMessage adapter client world request model
  have accepts : adapter.Accepts (adapter.answer client request model) ↔
      ValidUsage adapter.countNames (adapter.usageOf body) := by
    constructor
    · rintro ⟨_, _, also, _, again, _, valid⟩
      cases answered.symm.trans also
      cases decoded.symm.trans again
      exact valid
    · exact fun valid => ⟨response, body, answered, success, decoded, formed, valid⟩
  rw [← accepts, ← completes_iff]
  unfold CountsKept
  generalize adapter.complete sanitizeErrorMessage client world request model = result at ends
  cases ends with
  | @succeeded _ taken also accepted valid outcome carries =>
    obtain ⟨_, _, again, read⟩ := accept_ok_iff.mp accepted
    cases answered.symm.trans also
    cases decoded.symm.trans again
    obtain ⟨_, _, counted⟩ := read_ok_iff.mp ⟨taken.1, read⟩
    refine iff_of_true ⟨outcome, rfl, carries.success, ?_, ?_, ?_⟩
      ⟨response, taken, answered, accepted, valid⟩
    · exact carries.inputTokens.trans (congrArg TokenUsage.inputTokens counted)
    · exact carries.outputTokens.trans (congrArg TokenUsage.outputTokens counted)
    · exact carries.totalTokens.trans (congrArg TokenUsage.totalTokens counted)
  | failed incomplete _ _ outcome carries =>
    refine iff_of_false ?_ incomplete
    rintro ⟨_, same, succeeded, _⟩
    cases same
    rw [carries.success] at succeeded
    cases succeeded
  | raised incomplete =>
    refine iff_of_false ?_ incomplete
    rintro ⟨_, built, _⟩
    cases built

theorem refused_of_invalidUsage (answered : adapter.answer client request model = .ok response)
    (success : response.IsSuccess) (decoded : response.json = .ok body)
    (formed : adapter.WellFormed body)
    (invalid : ¬ ValidUsage adapter.countNames (adapter.usageOf body)) (named : model ≠ "")
    (timed : world.startedAt ≤ world.failed.now) :
    CompletionRefused sanitizeErrorMessage adapter client world request model := by
  have passed : response.raiseForStatus = .ok () := by
    rw [HttpResponse.raiseForStatus, if_pos success]
  obtain ⟨message, refused⟩ : ∃ message, adapter.read world model body =
      .error (.invalidProviderResponse message) := by
    cases read : adapter.read world model body with
    | error error =>
      obtain ⟨message, rfl⟩ := read_refuses formed error read
      exact ⟨message, rfl⟩
    | ok taken => exact absurd (read_ok_iff.mp ⟨taken.1, read⟩).2.1 invalid
  have accepted : accept (adapter.read world model) response =
      .error (.invalidProviderResponse message) := by
    rw [accept, passed, decoded]
    exact refused
  unfold CompletionRefused
  rw [complete_eq, answered, call, accepted]
  dsimp only
  -- the response has passed `raise_for_status`, so its own status is one that outcomes allow
  have valid : (adapter.provider.failureFields sanitizeErrorMessage model
      (.invalidProviderResponse message) world (some response.statusCode)).Valid := by
    refine failureFields_valid_iff.mpr ⟨named, timed, ?_⟩
    rintro code ⟨⟩
    obtain ⟨least, most⟩ := success
    omega
  rcases ProviderOutcome.modelValidate_cases sanitizeErrorMessage _ with
    ⟨_, outcome, built, carries⟩ | ⟨unbuilt, _⟩
  · exact ⟨outcome, built, carries.success, carries.errorType, carries.inputTokens,
      carries.outputTokens, carries.totalTokens⟩
  · exact absurd valid unbuilt

/-- An otherwise accepted completion is kept exactly when its usage is valid, once
the model is named and the clock does not step back; any other usage makes a failure
of it, without counts. -/
theorem counts_kept_iff (answered : adapter.answer client request model = .ok response)
    (success : response.IsSuccess) (decoded : response.json = .ok body)
    (formed : adapter.WellFormed body) :
    (CountsKept sanitizeErrorMessage adapter client world request model body ↔
      ValidUsage adapter.countNames (adapter.usageOf body) ∧ model ≠ "" ∧
        world.startedAt ≤ world.succeeded.now) ∧
    (¬ ValidUsage adapter.countNames (adapter.usageOf body) → model ≠ "" →
      world.startedAt ≤ world.failed.now →
      CompletionRefused sanitizeErrorMessage adapter client world request model) := by
  constructor
  · exact countsKept_iff sanitizeErrorMessage adapter client world request model answered success
      decoded formed
  · exact refused_of_invalidUsage sanitizeErrorMessage adapter client world request model answered
      success decoded formed

end WellFormedBodies

section Answers

/-- One user message. -/
def greeting : ChatRequest where
  messages := [{ role := .user, content := "hello" }]
  spoken := by decide

def openAIAdapter : Adapter :=
  .openAICompatible (.create "openai" (some "key") "https://provider.test/v1/" (by decide))

def geminiAdapter : Adapter := .gemini (.create (some "key") "https://provider.test/v1beta")

def completionBody (usage : Json) : Json :=
  .obj [("object", .str "chat.completion"), ("choices", .arr []), ("usage", usage)]

def generatedBody (usage : Json) : Json :=
  .obj [("candidates", .arr [.obj [("content", .obj [("parts",
    .arr [.obj [("text", .str "ok")]])])]]), ("usageMetadata", usage)]

theorem decodes_ok (body : Json) (error : CallError) (raised : Except.ok body = .error error) :
    ErrorClass.httpStatusError ∉ error.classes := by
  cases raised

def answered (statusCode : Int) (body : Json) : HttpResponse where
  statusCode
  json := .ok body
  decodes := decodes_ok body

/-- A call that takes five milliseconds by both clocks. -/
def forwardWorld : CallWorld where
  startedAt := 100000
  succeeded := { now := 105000, elapsedMs := 5 }
  failed := { now := 105000, elapsedMs := 5 }

/-- The wall clock is set back during the call. -/
def steppedWorld : CallWorld where
  startedAt := 100000
  succeeded := { now := 60000, elapsedMs := 5 }
  failed := { now := 60000, elapsedMs := 5 }

theorem not_total_of_raised {sanitizeErrorMessage : String → List String → String}
    (raised : (adapter.complete sanitizeErrorMessage client world request model).toOption.isNone =
      true) : ¬ Total sanitizeErrorMessage adapter client world request model := by
  rintro ⟨outcome, built, _⟩
  rw [built] at raised
  cases raised

/-- A status beyond 599 makes both adapters raise, and so does a clock that steps
back during an accepted call. -/
theorem unreportable_calls_raise :
    ¬ Total (fun message _ => message) openAIAdapter
        (fun _ => .ok (answered 600 (completionBody .null))) forwardWorld greeting "gpt-4o-mini" ∧
      ¬ Total (fun message _ => message) geminiAdapter
        (fun _ => .ok (answered 600 (generatedBody .null))) forwardWorld greeting
        "gemini-2.0-flash" ∧
      ¬ Total (fun message _ => message) openAIAdapter
        (fun _ => .ok (answered 200 (completionBody .null))) steppedWorld greeting "gpt-4o-mini" ∧
      ¬ Total (fun message _ => message) geminiAdapter
        (fun _ => .ok (answered 200 (generatedBody .null))) steppedWorld greeting
        "gemini-2.0-flash" :=
  ⟨not_total_of_raised (by decide +kernel), not_total_of_raised (by decide +kernel),
    not_total_of_raised (by decide +kernel), not_total_of_raised (by decide +kernel)⟩

/-- Usage without a completion count, which is null. -/
def sparseUsage : Json := .obj [("prompt_tokens", .int 11), ("completion_tokens", .null)]

theorem sparse_usage_kept :
    CountsKept (fun message _ => message) openAIAdapter
      (fun _ => .ok (answered 200 (completionBody sparseUsage))) forwardWorld greeting
      "gpt-4o-mini" (completionBody sparseUsage) ∧
    CompletionRefused (fun message _ => message) geminiAdapter
      (fun _ => .ok (answered 200 (generatedBody (.str "unknown")))) forwardWorld greeting
      "gemini-2.0-flash" := by
  constructor
  · refine (counts_kept_iff (fun message _ => message) openAIAdapter
      (fun _ => .ok (answered 200 (completionBody sparseUsage))) forwardWorld greeting
      "gpt-4o-mini" rfl (by decide) rfl ⟨_, _, rfl, rfl⟩).1.mpr ⟨?_, by decide, by decide⟩
    exact ⟨.inr ⟨_, rfl⟩, .inr (.inr ⟨11, rfl⟩), .inr (.inl rfl), .inl rfl⟩
  · refine (counts_kept_iff (fun message _ => message) geminiAdapter
      (fun _ => .ok (answered 200 (generatedBody (.str "unknown")))) forwardWorld greeting
      "gemini-2.0-flash" rfl (by decide) rfl ⟨_, _, _, _, _, _, rfl, rfl, rfl, rfl⟩).2 ?_
      (by decide) (by decide)
    rintro ⟨null | ⟨_, object⟩⟩
    · cases null
    · cases object

theorem not_kept_of_failed {sanitizeErrorMessage : String → List String → String}
    (failed : (adapter.complete sanitizeErrorMessage client world request model).toOption.all
      (fun outcome => !outcome.success) = true) :
    ¬ CountsKept sanitizeErrorMessage adapter client world request model body := by
  rintro ⟨outcome, built, success, _⟩
  rw [built] at failed
  simp [Except.toOption, success] at failed

/-- A negative count fails a completion, and so does usage that is a text. -/
theorem invalid_usage_fails :
    (openAIAdapter.WellFormed (completionBody (.obj [("prompt_tokens", .int (-1))])) ∧
      ¬ CountsKept (fun message _ => message) openAIAdapter
        (fun _ => .ok (answered 200 (completionBody (.obj [("prompt_tokens", .int (-1))]))))
        forwardWorld greeting "gpt-4o-mini"
        (completionBody (.obj [("prompt_tokens", .int (-1))]))) ∧
    geminiAdapter.WellFormed (generatedBody (.str "unknown")) ∧
      ¬ CountsKept (fun message _ => message) geminiAdapter
        (fun _ => .ok (answered 200 (generatedBody (.str "unknown")))) forwardWorld greeting
        "gemini-2.0-flash" (generatedBody (.str "unknown")) :=
  ⟨⟨⟨_, _, rfl, rfl⟩, not_kept_of_failed (by decide +kernel)⟩,
    ⟨_, _, _, _, _, _, rfl, rfl, rfl, rfl⟩, not_kept_of_failed (by decide +kernel)⟩

end Answers

end Adapter
end ModelPilot
