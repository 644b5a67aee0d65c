import ModelPilot.ProviderOutcomes

/-! Provider adapters: the request an adapter posts, what it accepts of the answer,
and the normalized outcome it builds (`providers/base.py`, `openai_compatible.py`,
`gemini.py`). The HTTP client is a parameter, and so are the readings of the clocks. -/
namespace ModelPilot

/-- The exception classes that `classify_provider_error` tells apart. -/
inductive ErrorClass where
  | timeoutException
  | connectError
  | httpStatusError
  | invalidProviderResponse
  | keyError
  | indexError
  | typeError
  | valueError
  | httpError
  deriving DecidableEq, Repr

/-- An exception during a call: the classes among these that it is an instance of,
its text, and the status code of its `response`, which an `HTTPStatusError` has. -/
structure CallError where
  classes : List ErrorClass := []
  message : String := ""
  responseStatus : Int := 0
  deriving DecidableEq, Repr

namespace CallError

def isinstance (error : CallError) (classes : List ErrorClass) : Bool :=
  classes.any (· ∈ error.classes)

def invalidProviderResponse (message : String) : CallError :=
  { classes := [.invalidProviderResponse, .valueError], message }

/-- A `ValidationError`, which is a `ValueError`. -/
def validation : PyError → CallError
  | .value message => { classes := [.valueError], message }
  | _ => {}

end CallError

def classifyProviderError (error : CallError) : ProviderErrorType × Option Int :=
  if error.isinstance [.timeoutException] then (.timeout, none)
  else if error.isinstance [.connectError] then (.connectionError, none)
  else if error.isinstance [.httpStatusError] then
    let statusCode := error.responseStatus
    if statusCode ∈ [401, 403] then (.authenticationError, some statusCode)
    else if statusCode = 429 then (.rateLimit, some statusCode)
    else (.providerError, some statusCode)
  else if error.isinstance [.invalidProviderResponse, .keyError, .indexError, .typeError,
      .valueError] then (.invalidResponse, none)
  else if error.isinstance [.httpError] then (.providerError, none)
  else (.unknownError, none)

/-- The token counts of an outcome. -/
structure TokenUsage where
  inputTokens : Option Nat := none
  outputTokens : Option Nat := none
  totalTokens : Option Nat := none
  deriving DecidableEq, Repr

/-- `_optional_token_count`. A boolean is a value of its own here. -/
def optionalTokenCount (usage : Payload) (field : String) : Except CallError (Option Nat) :=
  match usage.get? field with
  | none => .ok none
  | some .null => .ok none
  | some (.int (.ofNat value)) => .ok (some value)
  | some _ => .error (.invalidProviderResponse (field ++ " must be a non-negative integer"))

def normalizeTokenUsage : Json → Except CallError TokenUsage
  | .null => .ok {}
  | .obj members => do
    let usage : Payload := Dict.ofList members
    let inputTokens ← optionalTokenCount usage "prompt_tokens"
    let outputTokens ← optionalTokenCount usage "completion_tokens"
    let totalTokens ← optionalTokenCount usage "total_tokens"
    .ok { inputTokens, outputTokens, totalTokens }
  | _ => .error (.invalidProviderResponse "usage must be an object when present")

/-- `data.get(name)`. -/
def Dict.getJson (data : Payload) (name : String) : Json := (data.get? name).getD .null

/-- `data[name]`. -/
def Json.item (name : String) : Json → Except CallError Json
  | .obj members =>
    match (Dict.ofList members).get? name with
    | some value => .ok value
    | none => .error { classes := [.keyError], message := name }
  | _ => .error { classes := [.typeError] }

/-- `data[0]`. -/
def Json.first : Json → Except CallError Json
  | .arr (item :: _) => .ok item
  | .arr [] => .error { classes := [.indexError] }
  | .str text =>
    match text.toList with
    | letter :: _ => .ok (.str (String.ofList [letter]))
    | [] => .error { classes := [.indexError] }
  | .obj _ => .error { classes := [.keyError], message := "0" }
  | _ => .error { classes := [.typeError] }

/-- The values an outcome is built from, before validation; both times are readings
of `datetime.now(UTC)`. -/
structure OutcomeFields where
  provider : String
  model : String
  success : Bool
  response : Option Payload := none
  usage : TokenUsage := {}
  errorType : Option ProviderErrorType := none
  errorMessage : Option String := none
  statusCode : Option Int := none
  startedAt : Int
  finishedAt : Int
  latencyMs : ℚ

namespace OutcomeFields

/-- `validate_outcome_shape`. -/
def validateOutcomeShape (fields : OutcomeFields) : Except PyError Unit := do
  require (fields.startedAt ≤ fields.finishedAt) "finished_at must not be earlier than started_at"
  if fields.success then
    require (fields.response.isSome = true) "successful outcomes require a response"
    require (fields.errorType = none) "successful outcomes cannot contain an error type"
  else
    require (fields.response.isNone = true) "failed outcomes cannot contain a response"
    require (fields.errorType.isSome = true) "failed outcomes require an error type"

/-- Field constraints, then the model validator. -/
def check (fields : OutcomeFields) : Except PyError Unit := do
  require (fields.provider ≠ "") "provider"
  require (fields.model ≠ "") "model"
  checkSome (fun code => require (100 ≤ code ∧ code ≤ 599) "status_code") fields.statusCode
  require (0 ≤ fields.latencyMs) "latency_ms"
  fields.validateOutcomeShape

/-- What `check` accepts. -/
structure Valid (fields : OutcomeFields) : Prop where
  provider : fields.provider ≠ ""
  model : fields.model ≠ ""
  statusCode : ∀ code, fields.statusCode = some code → 100 ≤ code ∧ code ≤ 599
  latency : 0 ≤ fields.latencyMs
  timed : fields.startedAt ≤ fields.finishedAt
  shape : if fields.success then fields.response.isSome ∧ fields.errorType = none
    else fields.response = none ∧ fields.errorType.isSome

theorem Valid.statusNat {fields : OutcomeFields} (valid : fields.Valid) :
    ∀ code ∈ fields.statusCode.map Int.toNat, 100 ≤ code ∧ code ≤ 599 := by
  intro code member
  obtain ⟨status, held, rfl⟩ := Option.map_eq_some_iff.mp member
  have range := valid.statusCode status held
  omega

theorem check_ok_iff (fields : OutcomeFields) : fields.check = .ok () ↔ fields.Valid := by
  have shape : fields.validateOutcomeShape = .ok () ↔ fields.startedAt ≤ fields.finishedAt ∧
      if fields.success then fields.response.isSome ∧ fields.errorType = none
      else fields.response = none ∧ fields.errorType.isSome := by
    rw [validateOutcomeShape, then_ok_iff, require_ok_iff]
    cases fields.success <;> simp [then_ok_iff]
  rw [check, then_ok_iff, then_ok_iff, then_ok_iff, then_ok_iff, shape, checkSome_ok_iff]
  simp only [require_ok_iff]
  constructor
  · rintro ⟨provider, model, statusCode, latency, timed, shape⟩
    exact ⟨provider, model, statusCode, latency, timed, shape⟩
  · rintro ⟨provider, model, statusCode, latency, timed, shape⟩
    exact ⟨provider, model, statusCode, latency, timed, shape⟩

end OutcomeFields

/-- `ProviderOutcome(...)`; a message is sanitized once more by its validator. -/
def ProviderOutcome.modelValidate (sanitizeErrorMessage : String → List String → String)
    (fields : OutcomeFields) : Except PyError ProviderOutcome :=
  match accepted : fields.check with
  | .error error => .error error
  | .ok () =>
    have valid := (OutcomeFields.check_ok_iff fields).mp accepted
    .ok
      { provider := fields.provider
        model := fields.model
        success := fields.success
        response := fields.response
        inputTokens := fields.usage.inputTokens
        outputTokens := fields.usage.outputTokens
        totalTokens := fields.usage.totalTokens
        errorType := fields.errorType
        errorMessage := fields.errorMessage.map (sanitizeErrorMessage · [])
        statusCode := fields.statusCode.map Int.toNat
        startedAt := fields.startedAt
        finishedAt := fields.finishedAt
        latencyMs := fields.latencyMs
        named := ⟨valid.provider, valid.model⟩
        timed := valid.timed
        latency := valid.latency
        statusRange := valid.statusNat
        shape := valid.shape }

namespace ProviderOutcome
variable {sanitizeErrorMessage : String → List String → String} {fields : OutcomeFields}

/-- The outcome has the values it was built from. -/
structure Carries (outcome : ProviderOutcome) (fields : OutcomeFields) : Prop where
  success : outcome.success = fields.success
  response : outcome.response = fields.response
  inputTokens : outcome.inputTokens = fields.usage.inputTokens
  outputTokens : outcome.outputTokens = fields.usage.outputTokens
  totalTokens : outcome.totalTokens = fields.usage.totalTokens
  errorType : outcome.errorType = fields.errorType

/-- Valid values make an outcome that has them; other values raise. -/
theorem modelValidate_cases (sanitizeErrorMessage : String → List String → String)
    (fields : OutcomeFields) :
    (fields.Valid ∧ ∃ outcome, modelValidate sanitizeErrorMessage fields = .ok outcome ∧
      outcome.Carries fields) ∨
    (¬ fields.Valid ∧ ∃ error, modelValidate sanitizeErrorMessage fields = .error error) := by
  unfold modelValidate
  split
  · rename_i error refused
    refine .inr ⟨fun valid => ?_, error, rfl⟩
    rw [(OutcomeFields.check_ok_iff fields).mpr valid] at refused
    cases refused
  · rename_i accepted
    exact .inl ⟨(OutcomeFields.check_ok_iff fields).mp accepted, _, rfl, rfl, rfl, rfl, rfl, rfl,
      rfl⟩

end ProviderOutcome

/-- The wall clock, and the milliseconds since the start of the call. -/
structure CallReading where
  now : Int
  elapsedMs : ℚ := 0

/-- What happens around a call: the world at its start, the readings that
`successful_outcome` and `failed_outcome` take, a fresh UUID, and `int(time.time())`. -/
structure CallWorld where
  startedAt : Int
  succeeded : CallReading
  failed : CallReading
  uuidHex : String := ""
  time : Int := 0

/-- An answer of the HTTP client: `json` is what `response.json()` gives, which
raises no `HTTPStatusError`. -/
structure HttpResponse where
  statusCode : Int
  statusText : String := ""
  json : Except CallError Json
  decodes : ∀ error, json = .error error → ErrorClass.httpStatusError ∉ error.classes

/-- A status that `raise_for_status` lets pass. -/
def HttpResponse.IsSuccess (response : HttpResponse) : Prop :=
  200 ≤ response.statusCode ∧ response.statusCode ≤ 299

instance (response : HttpResponse) : Decidable response.IsSuccess :=
  inferInstanceAs (Decidable (_ ∧ _))

def HttpResponse.raiseForStatus (response : HttpResponse) : Except CallError Unit :=
  if response.IsSuccess then .ok ()
  else
    .error
      { classes := [.httpStatusError, .httpError]
        message := response.statusText
        responseStatus := response.statusCode }

/-- What an adapter posts. -/
structure HttpRequest where
  url : String
  headers : List (String × String)
  json : Json

/-- The roles of chat messages. -/
inductive ChatRole where
  | system
  | user
  | assistant
  | tool
  deriving DecidableEq, Repr

def ChatRole.value : ChatRole → String
  | .system => "system"
  | .user => "user"
  | .assistant => "assistant"
  | .tool => "tool"

structure ChatMessage where
  role : ChatRole
  content : String
  name : Option String := none
  deriving DecidableEq, Repr

/-- The parts of a chat completion request that adapters read. -/
structure ChatRequest where
  messages : List ChatMessage
  temperature : Option ℚ := none
  maxTokens : Option Nat := none
  spoken : messages ≠ []

/-- A provider with its credential, as every adapter has them. -/
structure Provider where
  name : String
  apiKey : Option String
  baseUrl : String
  named : name ≠ ""

namespace Provider
variable (sanitizeErrorMessage : String → List String → String) (provider : Provider)

/-- The arguments of `successful_outcome` and the readings it takes, as field values. -/
def successFields (model : String) (response : Payload) (world : CallWorld) (usage : TokenUsage)
    (statusCode : Option Int) : OutcomeFields where
  provider := provider.name
  model
  success := true
  response := some response
  usage
  statusCode
  startedAt := world.startedAt
  finishedAt := world.succeeded.now
  latencyMs := max world.succeeded.elapsedMs 0

def successfulOutcome (model : String) (response : Payload) (world : CallWorld)
    (usage : TokenUsage) (statusCode : Option Int) : Except PyError ProviderOutcome :=
  ProviderOutcome.modelValidate sanitizeErrorMessage
    (provider.successFields model response world usage statusCode)

/-- Those of `failed_outcome`. -/
def failureFields (model : String) (error : CallError) (world : CallWorld)
    (statusCode : Option Int) : OutcomeFields where
  provider := provider.name
  model
  success := false
  errorType := some (classifyProviderError error).1
  errorMessage := some (sanitizeErrorMessage
    (provider.name ++ " request failed: " ++ error.message) [provider.apiKey.getD ""])
  statusCode := (classifyProviderError error).2.orElse fun _ => statusCode
  startedAt := world.startedAt
  finishedAt := world.failed.now
  latencyMs := max world.failed.elapsedMs 0

def failedOutcome (model : String) (error : CallError) (world : CallWorld)
    (statusCode : Option Int) : Except PyError ProviderOutcome :=
  ProviderOutcome.modelValidate sanitizeErrorMessage
    (provider.failureFields sanitizeErrorMessage model error world statusCode)

/-- The body of `try` after the answer; the adapters differ in how they `read` the
decoded body. -/
def accept (read : Json → Except CallError (Payload × TokenUsage)) (response : HttpResponse) :
    Except CallError (Payload × TokenUsage) := do
  response.raiseForStatus
  let data ← response.json
  read data

/-- What the adapters share: the body of `try` and its handler, which also handles
an outcome that is not valid. -/
def call (model : String) (world : CallWorld) (answer : Except CallError HttpResponse)
    (read : Json → Except CallError (Payload × TokenUsage)) : Except PyError ProviderOutcome :=
  match answer with
  | .error error => provider.failedOutcome sanitizeErrorMessage model error world none
  | .ok response =>
    match accept read response with
    | .error error =>
      provider.failedOutcome sanitizeErrorMessage model error world (some response.statusCode)
    | .ok (data, usage) =>
      match provider.successfulOutcome sanitizeErrorMessage model data world usage
        (some response.statusCode) with
      | .ok outcome => .ok outcome
      | .error error =>
        provider.failedOutcome sanitizeErrorMessage model (.validation error) world
          (some response.statusCode)

section Outcomes
variable {sanitizeErrorMessage : String → List String → String} {provider : Provider}
  {model : String} {world : CallWorld} {response : Payload} {usage : TokenUsage}
  {statusCode : Option Int} {error : CallError}

/-- A success needs a named model, a status in range and a clock that did not step
back. -/
theorem successFields_valid_iff :
    (provider.successFields model response world usage statusCode).Valid ↔
      model ≠ "" ∧ world.startedAt ≤ world.succeeded.now ∧
        ∀ code, statusCode = some code → 100 ≤ code ∧ code ≤ 599 := by
  constructor
  · rintro ⟨_, named, range, _, timed, _⟩
    exact ⟨named, timed, range⟩
  · rintro ⟨named, timed, range⟩
    exact ⟨provider.named, named, range, le_max_right _ _, timed, by simp [successFields]⟩

/-- So does a failure, with the status it reports. -/
theorem failureFields_valid_iff :
    (provider.failureFields sanitizeErrorMessage model error world statusCode).Valid ↔
      model ≠ "" ∧ world.startedAt ≤ world.failed.now ∧
        ∀ code, ((classifyProviderError error).2.orElse fun _ => statusCode) = some code →
          100 ≤ code ∧ code ≤ 599 := by
  constructor
  · rintro ⟨_, named, range, _, timed, _⟩
    exact ⟨named, timed, range⟩
  · rintro ⟨named, timed, range⟩
    exact ⟨provider.named, named, range, le_max_right _ _, timed, by simp [failureFields]⟩

end Outcomes

section Calls
variable {sanitizeErrorMessage : String → List String → String} {provider : Provider}
  {model : String} {world : CallWorld} {answer : Except CallError HttpResponse}
  {read : Json → Except CallError (Payload × TokenUsage)}

/-- A step that raises no `HTTPStatusError`. -/
def Quiet (result : Except CallError α) : Prop :=
  ∀ error, result = .error error → ErrorClass.httpStatusError ∉ error.classes

theorem quiet_ok (value : α) : Quiet (.ok value) := by
  rintro error ⟨⟩

theorem quiet_error (plain : ErrorClass.httpStatusError ∉ error.classes) :
    Quiet (.error error : Except CallError α) := by
  rintro _ ⟨⟩
  exact plain

theorem Quiet.bind {result : Except CallError α} {next : α → Except CallError β}
    (first : Quiet result) (rest : ∀ value, Quiet (next value)) : Quiet (result >>= next) := by
  cases result with
  | error error =>
    rintro _ ⟨⟩
    exact first error rfl
  | ok value => exact rest value

theorem classify_plain (plain : ErrorClass.httpStatusError ∉ error.classes) :
    (classifyProviderError error).2 = none := by
  have other : error.isinstance [.httpStatusError] = false := by
    simpa [CallError.isinstance] using plain
  rw [classifyProviderError, if_neg (c := error.isinstance [.httpStatusError] = true) (by simp [other])]
  split_ifs <;> rfl

theorem classify_status (response : HttpResponse) (refused : ¬ response.IsSuccess)
    (raised : response.raiseForStatus = .error error) :
    (classifyProviderError error).2 = some response.statusCode := by
  rw [HttpResponse.raiseForStatus, if_neg refused] at raised
  cases raised
  unfold classifyProviderError
  simp only [CallError.isinstance]
  split_ifs <;> first | rfl | simp_all

/-- A response that is not accepted is reported with its own status. -/
theorem status_of_refused (quiet : ∀ data, Quiet (read data)) {response : HttpResponse}
    (refused : accept read response = .error error) :
    ((classifyProviderError error).2.orElse fun _ => some response.statusCode) =
      some response.statusCode := by
  by_cases success : response.IsSuccess
  · have passed : response.raiseForStatus = .ok () := by
      rw [HttpResponse.raiseForStatus, if_pos success]
    have body : Quiet (response.json >>= read) := Quiet.bind response.decodes quiet
    rw [accept, passed] at refused
    rw [classify_plain (body error refused)]
    rfl
  · cases raised : response.raiseForStatus with
    | ok _ =>
      rw [HttpResponse.raiseForStatus, if_neg success] at raised
      cases raised
    | error first =>
      rw [accept, raised] at refused
      cases refused
      rw [classify_status response success raised]
      rfl

/-- What is accepted: a successful response whose body can be read. -/
theorem accept_ok_iff {response : HttpResponse} :
    accept read response = .ok taken ↔
      response.IsSuccess ∧ ∃ data, response.json = .ok data ∧ read data = .ok taken := by
  rw [accept, then_ok_iff, bind_ok_iff]
  refine and_congr_left fun _ => ?_
  unfold HttpResponse.raiseForStatus
  split <;> simp [*]

/-- The status that a failed call reports. -/
def answerStatus : Except CallError HttpResponse → Option Int
  | .error error => (classifyProviderError error).2
  | .ok response => some response.statusCode

/-- The answer is accepted, and a success can be built from it. -/
def Completes (provider : Provider) (model : String) (world : CallWorld)
    (answer : Except CallError HttpResponse)
    (read : Json → Except CallError (Payload × TokenUsage)) : Prop :=
  ∃ response taken, answer = .ok response ∧ accept read response = .ok taken ∧
    (provider.successFields model taken.1 world taken.2 (some response.statusCode)).Valid

/-- How a call ends. -/
inductive CallEnd (sanitizeErrorMessage : String → List String → String) (provider : Provider)
    (model : String) (world : CallWorld) (answer : Except CallError HttpResponse)
    (read : Json → Except CallError (Payload × TokenUsage)) :
    Except PyError ProviderOutcome → Prop where
  | succeeded {response : HttpResponse} {taken : Payload × TokenUsage}
      (answered : answer = .ok response) (accepted : accept read response = .ok taken)
      (valid : (provider.successFields model taken.1 world taken.2
        (some response.statusCode)).Valid) (outcome : ProviderOutcome)
      (carries : outcome.Carries
        (provider.successFields model taken.1 world taken.2 (some response.statusCode))) :
      CallEnd sanitizeErrorMessage provider model world answer read (.ok outcome)
  | failed (incomplete : ¬ provider.Completes model world answer read) {error : CallError}
      {statusCode : Option Int} (reported : ((classifyProviderError error).2.orElse
        fun _ => statusCode) = answerStatus answer)
      (valid : (provider.failureFields sanitizeErrorMessage model error world statusCode).Valid)
      (outcome : ProviderOutcome) (carries : outcome.Carries
        (provider.failureFields sanitizeErrorMessage model error world statusCode)) :
      CallEnd sanitizeErrorMessage provider model world answer read (.ok outcome)
  | raised (incomplete : ¬ provider.Completes model world answer read) {error : CallError}
      {statusCode : Option Int} (reported : ((classifyProviderError error).2.orElse
        fun _ => statusCode) = answerStatus answer)
      (invalid : ¬ (provider.failureFields sanitizeErrorMessage model error world
        statusCode).Valid) (raised : PyError) :
      CallEnd sanitizeErrorMessage provider model world answer read (.error raised)

private theorem end_of_failedOutcome
    (incomplete : ¬ provider.Completes model world answer read) {error : CallError}
    {statusCode : Option Int}
    (reported : ((classifyProviderError error).2.orElse fun _ => statusCode) =
      answerStatus answer) :
    CallEnd sanitizeErrorMessage provider model world answer read
      (provider.failedOutcome sanitizeErrorMessage model error world statusCode) := by
  rw [failedOutcome]
  rcases ProviderOutcome.modelValidate_cases sanitizeErrorMessage
      (provider.failureFields sanitizeErrorMessage model error world statusCode) with
    ⟨valid, outcome, built, carries⟩ | ⟨invalid, raised, built⟩
  · rw [built]
    exact .failed incomplete reported valid outcome carries
  · rw [built]
    exact .raised incomplete reported invalid raised

/-- A call that raises did so in its handler. -/
theorem call_end (sanitizeErrorMessage : String → List String → String) (provider : Provider)
    (model : String) (world : CallWorld) (answer : Except CallError HttpResponse)
    (quiet : ∀ data, Quiet (read data)) :
    CallEnd sanitizeErrorMessage provider model world answer read
      (provider.call sanitizeErrorMessage model world answer read) := by
  cases answer with
  | error error =>
    refine end_of_failedOutcome ?_ (by simp [answerStatus])
    rintro ⟨_, _, answered, _⟩
    cases answered
  | ok response =>
    rw [call]
    cases accepted : accept read response with
    | error error =>
      refine end_of_failedOutcome ?_ (status_of_refused quiet accepted)
      rintro ⟨_, _, answered, also, _⟩
      cases answered
      rw [accepted] at also
      cases also
    | ok taken =>
      dsimp only
      rw [successfulOutcome]
      rcases ProviderOutcome.modelValidate_cases sanitizeErrorMessage
          (provider.successFields model taken.1 world taken.2 (some response.statusCode)) with
        ⟨valid, outcome, built, carries⟩ | ⟨invalid, error, built⟩
      · rw [built]
        exact .succeeded rfl accepted valid outcome carries
      · rw [built]
        refine end_of_failedOutcome ?_ ?_
        · rintro ⟨_, _, answered, also, valid⟩
          cases answered
          rw [accepted] at also
          cases also
          exact invalid valid
        · cases error <;> rfl

end Calls

end Provider
end ModelPilot
