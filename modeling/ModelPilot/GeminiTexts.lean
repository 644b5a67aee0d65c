import ModelPilot.AdapterOutcomes

/-! The texts that pass through the Gemini adapter. The request keeps every message.
Of an answer the adapter takes the first text of its first candidate, which is all of
the candidate's text only when later parts have none. -/
namespace ModelPilot.GeminiProvider

/-! ### Texts -/

/-- The text of a part that has one. -/
def partText (part : Json) : Option String :=
  match part.member "text" with
  | some (.str text) => some text
  | _ => none

/-- The texts of the system instruction that is posted. -/
def systemTexts (payload : Json) : List String :=
  match (payload.member "systemInstruction").bind (·.member "parts") with
  | some (.arr parts) => parts.filterMap partText
  | _ => []

/-- The role and the texts of an entry of the contents. -/
def entryTexts (entry : Json) : Option (String × List String) :=
  match entry.member "role", entry.member "parts" with
  | some (.str role), some (.arr parts) => some (role, parts.filterMap partText)
  | _, _ => none

def contentEntries (payload : Json) : List (String × List String) :=
  match payload.member "contents" with
  | some (.arr entries) => entries.filterMap entryTexts
  | _ => []

/-- The parts of the first candidate. -/
def candidateParts (body : Json) : List Json :=
  match body.member "candidates" with
  | some (.arr (candidate :: _)) =>
    match (candidate.member "content").bind (·.member "parts") with
    | some (.arr parts) => parts
    | _ => []
  | _ => []

/-- The content of the first choice of a completion. -/
def assistantContent (response : Payload) : Option Json :=
  match response.get? "choices" with
  | some (.arr (choice :: _)) => (choice.member "message").bind (·.member "content")
  | _ => none

section Request

/-- What is posted says all that the messages say: the system messages in their order,
and the others in theirs, each under its role. -/
structure KeepsMessages (messages : List ChatMessage) (payload : Json) : Prop where
  system : systemTexts payload =
    (messages.filter fun message => message.role = .system).map (·.content)
  others : contentEntries payload =
    (messages.filter fun message => message.role ≠ .system).map fun message =>
      (if message.role = .assistant then "model" else "user", [message.content])
  once : (systemTexts payload ++ (contentEntries payload).flatMap (·.2)).Perm
    (messages.map (·.content))

def contentOf (message : ChatMessage) : Json :=
  .obj [("role", .str (if message.role = .assistant then "model" else "user")),
    ("parts", .arr [textPart message.content])]

theorem foldl_addMessage (messages : List ChatMessage) (contents systemParts : List Json) :
    messages.foldl addMessage (contents, systemParts) =
      (contents ++ (messages.filter fun message => message.role ≠ .system).map contentOf,
        systemParts ++ (messages.filter fun message => message.role = .system).map
          fun message => textPart message.content) := by
  induction messages generalizing contents systemParts with
  | nil => simp
  | cons message rest ih =>
    rw [List.foldl_cons, addMessage]
    by_cases system : message.role = .system
    · rw [if_pos system, ih]
      simp [system]
    · rw [if_neg system, ih]
      simp [system, contentOf]

/-- The system messages of a request, as parts. -/
def systemPartsOf (messages : List ChatMessage) : List Json :=
  (messages.filter fun message => message.role = .system).map fun message =>
    textPart message.content

theorem object_members (contents systemParts : List Json) (config : List (String × Json)) :
    let object : Json := .obj ([("contents", .arr contents)] ++
      (if systemParts.isEmpty then []
        else [("systemInstruction", .obj [("parts", .arr systemParts)])]) ++
      if config.isEmpty then [] else [("generationConfig", .obj config)])
    object.member "contents" = some (.arr contents) ∧
      object.member "systemInstruction" =
        if systemParts.isEmpty then none else some (.obj [("parts", .arr systemParts)]) := by
  cases systemParts <;> cases config <;> exact ⟨rfl, rfl⟩

/-- The members of a payload that hold texts. -/
theorem payload_members (request : ChatRequest) :
    (payload request).member "contents" = some (.arr
      ((request.messages.filter fun message => message.role ≠ .system).map contentOf)) ∧
    (payload request).member "systemInstruction" =
      if (systemPartsOf request.messages).isEmpty then none
      else some (.obj [("parts", .arr (systemPartsOf request.messages))]) := by
  have folded := foldl_addMessage request.messages [] []
  rw [List.nil_append, List.nil_append] at folded
  unfold payload
  rw [folded]
  exact object_members _ _ _

theorem filterMap_textParts (messages : List ChatMessage) :
    (messages.map fun message => textPart message.content).filterMap partText =
      messages.map (·.content) := by
  rw [List.filterMap_map]
  exact congrFun (List.filterMap_eq_map (f := fun message : ChatMessage => message.content)) _

theorem payload_keepsMessages (request : ChatRequest) :
    KeepsMessages request.messages (payload request) := by
  obtain ⟨contents, instruction⟩ := payload_members request
  have system : systemTexts (payload request) =
      (request.messages.filter fun message => message.role = .system).map (·.content) := by
    unfold systemTexts
    rw [instruction, ← filterMap_textParts]
    change _ = (systemPartsOf request.messages).filterMap partText
    cases systemPartsOf request.messages <;> rfl
  have others : contentEntries (payload request) =
      (request.messages.filter fun message => message.role ≠ .system).map fun message =>
        (if message.role = .assistant then "model" else "user", [message.content]) := by
    unfold contentEntries
    rw [contents]
    dsimp only
    rw [List.filterMap_map]
    exact congrFun (List.filterMap_eq_map (f := fun message : ChatMessage =>
      (if message.role = .assistant then "model" else "user", [message.content]))) _
  refine ⟨system, others, ?_⟩
  have texts : (contentEntries (payload request)).flatMap (·.2) =
      (request.messages.filter fun message => message.role ≠ .system).map (·.content) := by
    rw [others, List.flatMap_map]
    exact List.flatMap_pure_eq_map _ _
  rw [system, texts, ← List.map_append]
  have parted := List.filter_append_perm (fun message : ChatMessage => message.role = .system)
    request.messages
  simp only [← decide_not] at parted
  exact parted.map _

end Request

section Response

variable {sanitizeErrorMessage : String → List String → String} {provider : GeminiProvider}
  {client : HttpRequest → Except CallError HttpResponse} {world : CallWorld}
  {request : ChatRequest} {model : String} {outcome : ProviderOutcome} {body : Json}

/-- All the text of the first candidate. -/
def candidateTexts (body : Json) : List String := (candidateParts body).filterMap partText

/-- The text that is taken is that of the first part. -/
theorem candidateText_first {text : String} (found : candidateText body = .ok (.str text)) :
    ∃ part parts, candidateParts body = part :: parts ∧ partText part = some text := by
  simp only [candidateText, bind_ok_iff, item_ok_iff] at found
  obtain ⟨candidates, listed, candidate, begun, content, held, parts, given, part, opened, said⟩ :=
    found
  obtain ⟨others, rfl⟩ := first_member begun held
  obtain ⟨rest, rfl⟩ := first_member opened said
  refine ⟨part, rest, ?_, ?_⟩
  · unfold candidateParts
    rw [listed]
    dsimp only
    rw [held, Option.bind_some, given]
  · unfold partText
    rw [said]

theorem assistantContent_normalized (text : String) (usage : Json) :
    assistantContent (normalizedResponse model world text usage) = some (.str text) := by
  cases usage <;> rfl

theorem read_text {data : Payload} {usage : TokenUsage}
    (taken : read model world body = .ok (data, usage)) :
    ∃ text, candidateText body = .ok (.str text) ∧ assistantContent data = some (.str text) := by
  obtain ⟨value, found, taken⟩ := bind_ok_iff.mp taken
  split at taken
  · rename_i text
    obtain ⟨metadata, _, taken⟩ := bind_ok_iff.mp taken
    obtain ⟨normalized, _, taken⟩ := bind_ok_iff.mp taken
    obtain ⟨counts, _, taken⟩ := bind_ok_iff.mp taken
    cases taken
    exact ⟨text, found, assistantContent_normalized text normalized⟩
  · cases taken

/-- The content of a successful call is the first text of the answer. -/
theorem complete_content
    (ended : complete sanitizeErrorMessage provider client world request model = .ok outcome)
    (success : outcome.success = true) :
    ∃ response body text data, client (post provider request model) = .ok response ∧
      response.json = .ok body ∧ candidateText body = .ok (.str text) ∧
      outcome.response = some data ∧ assistantContent data = some (.str text) := by
  have ends := Adapter.complete_end sanitizeErrorMessage (.gemini provider) client world request
    model
  change Provider.CallEnd _ _ _ _ _ _
    (complete sanitizeErrorMessage provider client world request model) at ends
  rw [ended] at ends
  cases ends with
  | @succeeded response taken answered accepted valid _ carries =>
    obtain ⟨_, body, decoded, read⟩ := Provider.accept_ok_iff.mp accepted
    obtain ⟨text, found, content⟩ := read_text read
    exact ⟨response, body, text, taken.1, answered, decoded, found, carries.response, content⟩
  | failed _ _ _ _ carries =>
    rw [carries.success] at success
    cases success

theorem join_eq_empty_iff (texts : List String) :
    String.join texts = "" ↔ ∀ text ∈ texts, text = "" := by
  rw [← String.toList_eq_nil_iff, String.toList_join, List.flatMap_eq_nil_iff]
  simp only [String.toList_eq_nil_iff]

/-- A text with more behind it is all of it only when there is nothing behind it. -/
theorem eq_join_cons_iff (text : String) (rest : List String) :
    text = String.join (text :: rest) ↔ ∀ other ∈ rest, other = "" := by
  rw [← join_eq_empty_iff, String.join_cons]
  constructor
  · intro same
    have lengths := congrArg String.length same
    rw [String.length_append] at lengths
    exact String.length_eq_zero_iff.mp (by omega)
  · intro empty
    rw [empty, String.append_empty]

/-- Every message is posted, and a successful call returns all the text of the first
candidate exactly when the later parts of that candidate have no text, or an empty
one. -/
theorem keeps_texts_iff :
    KeepsMessages request.messages (post provider request model).json ∧
    ∀ outcome, complete sanitizeErrorMessage provider client world request model = .ok outcome →
      outcome.success = true →
      ∃ response body, client (post provider request model) = .ok response ∧
        response.json = .ok body ∧
        (outcome.response.bind assistantContent =
            some (.str (String.join (candidateTexts body))) ↔
          ∀ part ∈ (candidateParts body).tail, ∀ text ∈ partText part, text = "") := by
  refine ⟨payload_keepsMessages request, fun outcome ended success => ?_⟩
  obtain ⟨response, body, text, data, answered, decoded, found, carried, content⟩ :=
    complete_content ended success
  obtain ⟨part, parts, listed, said⟩ := candidateText_first found
  refine ⟨response, body, answered, decoded, ?_⟩
  have texts : candidateTexts body = text :: parts.filterMap partText := by
    rw [candidateTexts, listed, List.filterMap_cons, said]
  have whole : outcome.response.bind assistantContent =
      some (.str (String.join (candidateTexts body))) ↔
        text = String.join (text :: parts.filterMap partText) := by
    rw [carried, Option.bind_some, content, texts, Option.some.injEq, Json.str.injEq]
  rw [whole, eq_join_cons_iff, listed, List.tail_cons]
  simp only [List.mem_filterMap, forall_exists_index, and_imp, Option.mem_def]
  exact ⟨fun empty part member text said => empty text part member said,
    fun empty text part member said => empty part member text said⟩

open Adapter (answered forwardWorld greeting)

/-- A candidate of two parts. -/
def twoParts : Json :=
  .obj [("candidates", .arr [.obj [("content", .obj [("parts",
    .arr [textPart "Hello, ", textPart "world"])])]])]

def testProvider : GeminiProvider := .create (some "key") "https://provider.test/v1beta"

/-- What a call returns as the assistant's content, when it is a text. -/
def contentText (outcome : ProviderOutcome) : Option String :=
  match outcome.response.bind assistantContent with
  | some (.str text) => some text
  | _ => none

private theorem twoParts_call :
    (complete (fun message _ => message) testProvider (fun _ => .ok (answered 200 twoParts))
      forwardWorld greeting "gemini-2.0-flash").toOption.map
        (fun outcome => (outcome.success, contentText outcome)) = some (true, some "Hello, ") := by
  decide +kernel

/-- The second part is lost. -/
theorem second_part_lost : ∃ outcome,
    complete (fun message _ => message) testProvider (fun _ => .ok (answered 200 twoParts))
      forwardWorld greeting "gemini-2.0-flash" = .ok outcome ∧ outcome.success = true ∧
    outcome.response.bind assistantContent ≠
      some (.str (String.join (candidateTexts twoParts))) := by
  obtain ⟨outcome, ended, seen⟩ := Option.map_eq_some_iff.mp twoParts_call
  rw [Prod.mk.injEq] at seen
  refine ⟨outcome, toOption_eq_some_iff.mp ended, seen.1, fun whole => ?_⟩
  have content := seen.2
  rw [contentText, whole] at content
  exact absurd content (by decide +kernel)

/-- A candidate whose later parts have no text, or an empty one. -/
def spareParts : Json :=
  .obj [("candidates", .arr [.obj [("content", .obj [("parts",
    .arr [textPart "Hello", .obj [("thought", .bool true)], textPart ""])])]])]

private theorem spareParts_call :
    (complete (fun message _ => message) testProvider (fun _ => .ok (answered 200 spareParts))
      forwardWorld greeting "gemini-2.0-flash").toOption.map (·.success) = some true := by
  decide +kernel

private theorem spareParts_empty :
    ∀ part ∈ (candidateParts spareParts).tail, ∀ text ∈ partText part, text = "" := by
  decide +kernel

theorem spare_parts_kept : ∃ outcome response body,
    complete (fun message _ => message) testProvider (fun _ => .ok (answered 200 spareParts))
      forwardWorld greeting "gemini-2.0-flash" = .ok outcome ∧
    response = answered 200 spareParts ∧ response.json = .ok body ∧
    KeepsMessages greeting.messages (post testProvider greeting "gemini-2.0-flash").json ∧
    outcome.response.bind assistantContent = some (.str (String.join (candidateTexts body))) := by
  obtain ⟨outcome, ended, success⟩ := Option.map_eq_some_iff.mp spareParts_call
  have ended := toOption_eq_some_iff.mp ended
  obtain ⟨kept, spoken⟩ := keeps_texts_iff
  obtain ⟨response, body, answered, decoded, exact_⟩ := spoken outcome ended success
  have same := Except.ok.inj answered
  subst same
  cases decoded
  exact ⟨outcome, _, _, ended, rfl, rfl, kept, exact_.mpr spareParts_empty⟩

end Response

end ModelPilot.GeminiProvider
