import ModelPilot.ProviderAdapters

/-! The OpenAI-compatible and the Gemini adapter (`openai_compatible.py`,
`gemini.py`): what they post, what they accept, and when a call ends in an outcome. -/
namespace ModelPilot

/-- `value.rstrip("/")`. -/
def rstripSlash (text : String) : String :=
  String.ofList (text.toList.reverse.dropWhile (· = '/')).reverse

/-- A provider of the OpenAI-compatible class, such as `openai` and `deepseek`. -/
abbrev OpenAICompatibleProvider := Provider

namespace OpenAICompatibleProvider

/-- `__init__`. -/
def create (name : String) (apiKey : Option String) (baseUrl : String) (named : name ≠ "") :
    OpenAICompatibleProvider :=
  { name, apiKey, baseUrl := rstripSlash baseUrl, named }

/-- `message.model_dump(exclude_none=True)`. -/
def dumpMessage (message : ChatMessage) : Json :=
  .obj ([("role", .str message.role.value), ("content", .str message.content)] ++
    (message.name.map fun name => ("name", .str name)).toList)

def payload (request : ChatRequest) (model : String) : Json :=
  .obj ([("model", .str model), ("messages", .arr (request.messages.map dumpMessage)),
      ("stream", .bool false)] ++
    (request.temperature.map fun value => ("temperature", .float value)).toList ++
    (request.maxTokens.map fun value => ("max_tokens", .int value)).toList)

def post (provider : OpenAICompatibleProvider) (request : ChatRequest) (model : String) :
    HttpRequest where
  url := provider.baseUrl ++ "/chat/completions"
  headers := [("Authorization", "Bearer " ++ provider.apiKey.getD "None")]
  json := payload request model

/-- What is taken of a decoded body. -/
def read : Json → Except CallError (Payload × TokenUsage)
  | .obj members =>
    let data : Payload := Dict.ofList members
    match data.get? "choices" with
    | some (.arr _) => do
      let usage ← normalizeTokenUsage (data.getJson "usage")
      .ok (data, usage)
    | _ => .error (.invalidProviderResponse "expected an OpenAI-compatible completion object")
  | _ => .error (.invalidProviderResponse "expected an OpenAI-compatible completion object")

def complete (sanitizeErrorMessage : String → List String → String)
    (provider : OpenAICompatibleProvider) (client : HttpRequest → Except CallError HttpResponse)
    (world : CallWorld) (request : ChatRequest) (model : String) :
    Except PyError ProviderOutcome :=
  provider.call sanitizeErrorMessage model world (client (post provider request model)) read

end OpenAICompatibleProvider

abbrev GeminiProvider := Provider

namespace GeminiProvider

/-- `__init__`; the class has the name. -/
def create (apiKey : Option String) (baseUrl : String) : GeminiProvider :=
  { name := "gemini", apiKey, baseUrl := rstripSlash baseUrl, named := by decide }

def textPart (content : String) : Json := .obj [("text", .str content)]

/-- One message of the loop: the contents and the system parts so far. -/
def addMessage (parts : List Json × List Json) (message : ChatMessage) : List Json × List Json :=
  if message.role = .system then (parts.1, parts.2 ++ [textPart message.content])
  else
    let role := if message.role = .assistant then "model" else "user"
    (parts.1 ++ [.obj [("role", .str role), ("parts", .arr [textPart message.content])]], parts.2)

def payload (request : ChatRequest) : Json :=
  let (contents, systemParts) := request.messages.foldl addMessage ([], [])
  let generationConfig :=
    (request.temperature.map fun value => ("temperature", Json.float value)).toList ++
      (request.maxTokens.map fun value => ("maxOutputTokens", Json.int value)).toList
  .obj ([("contents", .arr contents)] ++
    (if systemParts.isEmpty then []
      else [("systemInstruction", .obj [("parts", .arr systemParts)])]) ++
    if generationConfig.isEmpty then [] else [("generationConfig", .obj generationConfig)])

def post (provider : GeminiProvider) (request : ChatRequest) (model : String) : HttpRequest where
  url := provider.baseUrl ++ "/models/" ++ model ++ ":generateContent"
  headers := [("x-goog-api-key", provider.apiKey.getD "")]
  json := payload request

/-- The names of the token counts, and those they are normalized to. -/
def fieldNames : List (String × String) :=
  [("promptTokenCount", "prompt_tokens"), ("candidatesTokenCount", "completion_tokens"),
    ("totalTokenCount", "total_tokens")]

/-- A count that is present and not null, under its new name. -/
def renamed (usage : Payload) (names : String × String) : Option (String × Json) :=
  match usage.get? names.1 with
  | none => none
  | some .null => none
  | some value => some (names.2, value)

/-- `_gemini_usage`. -/
def geminiUsage : Json → Except CallError Json
  | .null => .ok .null
  | .obj members =>
    let normalized := fieldNames.filterMap (renamed (Dict.ofList members))
    .ok (if normalized.isEmpty then .null else .obj normalized)
  | _ => .error (.invalidProviderResponse "usageMetadata must be an object when present")

/-- `data.get(name)` of any value; only an object has it. -/
def getOf (name : String) : Json → Except CallError Json
  | .obj members => .ok (Dict.getJson (Dict.ofList members) name)
  | _ => .error {}

/-- The completion that is returned for a candidate's text. -/
def normalizedResponse (model : String) (world : CallWorld) (text : String) (usage : Json) :
    Payload :=
  let response : Payload := Dict.ofList
    [("id", .str ("chatcmpl-" ++ world.uuidHex)), ("object", .str "chat.completion"),
      ("created", .int world.time), ("model", .str model),
      ("choices", .arr [.obj [("index", .int 0),
        ("message", .obj [("role", .str "assistant"), ("content", .str text)]),
        ("finish_reason", .str "stop")]])]
  match usage with
  | .null => response
  | usage => response.set "usage" usage

/-- `data["candidates"][0]["content"]["parts"][0]["text"]`. -/
def candidateText (data : Json) : Except CallError Json := do
  let candidates ← data.item "candidates"
  let candidate ← candidates.first
  let content ← candidate.item "content"
  let parts ← content.item "parts"
  let part ← parts.first
  part.item "text"

def read (model : String) (world : CallWorld) (data : Json) :
    Except CallError (Payload × TokenUsage) := do
  match ← candidateText data with
  | .str text =>
    let usage ← geminiUsage (← getOf "usageMetadata" data)
    let counts ← normalizeTokenUsage usage
    .ok (normalizedResponse model world text usage, counts)
  | _ => .error (.invalidProviderResponse "candidate text must be a string")

def complete (sanitizeErrorMessage : String → List String → String) (provider : GeminiProvider)
    (client : HttpRequest → Except CallError HttpResponse) (world : CallWorld)
    (request : ChatRequest) (model : String) : Except PyError ProviderOutcome :=
  provider.call sanitizeErrorMessage model world (client (post provider request model))
    (read model world)

end GeminiProvider
end ModelPilot
