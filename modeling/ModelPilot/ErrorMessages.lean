import Mathlib.Logic.Function.Iterate
import ModelPilot.AdapterOutcomes
import ModelPilot.Substitutions

/-! Sanitized error messages (`providers/base.py`): the secrets of the caller and what
looks like a credential are replaced by a marker, and no key that is a secret survives. -/
namespace ModelPilot.ErrorMessages
open Substitutions

/-! ### Patterns -/

/-- `\s`: the characters of `str.isspace`. -/
def isSpace (char : Char) : Bool :=
  let code := char.toNat
  (9 ≤ code && code ≤ 13) || (28 ≤ code && code ≤ 32) || (0x2000 ≤ code && code ≤ 0x200a) ||
    code ∈ [0x85, 0xa0, 0x1680, 0x2028, 0x2029, 0x202f, 0x205f, 0x3000]

/-- `\w`: a letter or a digit of any script, as `str.isalnum` knows them, or an underscore. -/
def isWord (isalnum : Char → Bool) (char : Char) : Bool := isalnum char || char = '_'

/-- A lower-case letter under `IGNORECASE`, which takes four letters beyond ASCII for
`i`, `k` and `s`. -/
def ignoreCase (letter char : Char) : Bool :=
  char.toLower = letter || (letter, char.toNat) ∈ [('i', 0x130), ('i', 0x131), ('k', 0x212a),
    ('s', 0x17f)]

/-- A word, in any case. -/
def caseless (word : String) : Pattern Char := .letters (word.toList.map ignoreCase)

/-- `[^\s,;]+`. -/
def credential : Pattern Char :=
  .several fun char => !isSpace char && char ≠ ',' && char ≠ ';'

/-- `\s*[:=]\s*`. -/
def separator : Pattern Char :=
  .sequence (.many isSpace)
    (.sequence (.letter fun char => char = ':' || char = '=') (.many isSpace))

/-- `\bBearer\s+[^\s,;]+`. -/
def bearer (isalnum : Char → Bool) : Pattern Char :=
  .sequence (.boundary (isWord isalnum))
    (.sequence (caseless "bearer") (.sequence (.several isSpace) credential))

/-- `\bAuthorization\s*[:=]\s*[^\r\n,;]+`. -/
def authorization (isalnum : Char → Bool) : Pattern Char :=
  .sequence (.boundary (isWord isalnum))
    (.sequence (caseless "authorization") (.sequence separator
      (.several fun char => char ≠ '\r' && char ≠ '\n' && char ≠ ',' && char ≠ ';')))

/-- `api[_ -]?key`. -/
def apiKeyName : Pattern Char :=
  .sequence (caseless "api")
    (.sequence (.optional fun char => char = '_' || char = ' ' || char = '-') (caseless "key"))

/-- `\b(?:api[_ -]?key|token|secret)\s*[:=]\s*[^\s,;]+`. -/
def assignment (isalnum : Char → Bool) : Pattern Char :=
  .sequence (.boundary (isWord isalnum))
    (.sequence (.choice apiKeyName (.choice (caseless "token") (caseless "secret")))
      (.sequence separator credential))

/-- `_SENSITIVE_PATTERNS`. -/
def sensitivePatterns (isalnum : Char → Bool) : List (Pattern Char) :=
  [bearer isalnum, authorization isalnum, assignment isalnum]

theorem sensitivePatterns_consume (isalnum : Char → Bool) :
    ∀ pattern ∈ sensitivePatterns isalnum, pattern.consumes = true := by
  simp [sensitivePatterns, bearer, authorization, assignment, credential, Pattern.several,
    Pattern.consumes]

/-- None of them matches the empty text, which `substitute` leaves out. -/
theorem sensitive_match_pos {isalnum : Char → Bool} {pattern : Pattern Char}
    (member : pattern ∈ sensitivePatterns isalnum)
    (matched : pattern.matchLength before text = some length) : 0 < length :=
  Pattern.matchLength_pos (sensitivePatterns_consume isalnum pattern member) matched

/-! ### Sanitizing -/

def redacted : List Char := "[REDACTED]".toList

def replaceSecrets (secrets : List String) (message : List Char) : List Char :=
  secrets.foldl
    (fun sanitized secret =>
      if secret = "" then sanitized else replace secret.toList redacted sanitized)
    message

def replacePatterns (isalnum : Char → Bool) (message : List Char) : List Char :=
  (sensitivePatterns isalnum).foldl (fun sanitized pattern => pattern.sub redacted sanitized)
    message

/-- `sanitize_error_message`. -/
def sanitizeErrorMessage (isalnum : Char → Bool) (message : String) (secrets : List String) :
    String :=
  String.ofList (replacePatterns isalnum (replaceSecrets secrets message.toList))

example : sanitizeErrorMessage Char.isAlphanum
    "Authorization: Bearer sk-1; api_key=sk-12; Token = x" ["sk-12", "sk-1"] =
      "[REDACTED]; [REDACTED]; [REDACTED]" := by
  decide +kernel

/-! ### Keys -/

/-- The text has the secret somewhere. -/
def Occurs (secret message : String) : Prop := secret.toList <:+: message.toList

/-- What a provider issues as a key: it has no bracket, and is no part of the marker. -/
structure IsKey (secret : String) : Prop where
  opens : '[' ∉ secret.toList
  closes : ']' ∉ secret.toList
  outside : ¬ secret.toList <:+: redacted

theorem IsKey.apart (key : IsKey secret) : Apart redacted secret.toList where
  opens := ⟨'[', "REDACTED]".toList, rfl, key.opens⟩
  closes := ⟨"[REDACTED".toList, ']', rfl, key.closes⟩
  outside := key.outside

theorem IsKey.nonempty (key : IsKey secret) : secret ≠ "" := by
  rintro rfl
  exact key.apart.nonempty rfl

variable {isalnum : Char → Bool} {secret message : String} {secrets : List String}
  {text : List Char}

theorem replaceSecret_redacts (text : List Char) (secret : String) :
    Redacts redacted text
      (if secret = "" then text else replace secret.toList redacted text) := by
  split
  · exact .refl redacted text
  · exact replace_redacts secret.toList redacted text

/-- A secret is gone once its turn has come, and stays gone. -/
theorem not_infix_replaceSecrets (key : IsKey secret) (member : secret ∈ secrets) :
    ¬ secret.toList <:+: replaceSecrets secrets text := by
  induction secrets generalizing text with
  | nil => cases member
  | cons first rest ih =>
    rcases List.mem_cons.mp member with rfl | later
    · have gone := not_infix_replace key.apart text
      rw [replaceSecrets, List.foldl_cons, if_neg key.nonempty]
      exact not_infix_foldl key.apart replaceSecret_redacts gone rest
    · exact ih later

theorem not_infix_replacePatterns (key : IsKey secret) (absent : ¬ secret.toList <:+: text) :
    ¬ secret.toList <:+: replacePatterns isalnum text :=
  not_infix_foldl key.apart (fun text pattern => sub_redacts pattern redacted text) absent _

/-- Sanitizing a text without the key leaves it without the key. -/
theorem sanitize_keeps (key : IsKey secret) (absent : ¬ Occurs secret message) :
    ¬ Occurs secret (sanitizeErrorMessage isalnum message secrets) := by
  unfold Occurs sanitizeErrorMessage
  rw [String.toList_ofList]
  exact not_infix_replacePatterns key
    (not_infix_foldl key.apart replaceSecret_redacts absent secrets)

theorem sanitize_removes (key : IsKey secret) (member : secret ∈ secrets) :
    ¬ Occurs secret (sanitizeErrorMessage isalnum message secrets) := by
  unfold Occurs sanitizeErrorMessage
  rw [String.toList_ofList]
  exact not_infix_replacePatterns key (not_infix_replaceSecrets key member)

/-- No key that is among the secrets survives: the sanitized message does not have it, nor
does any text made of that by sanitizing again. -/
theorem no_key_survives (isalnum : Char → Bool) (message : String) (secrets : List String)
    (keys : ∀ secret ∈ secrets, secret ≠ "" → IsKey secret) :
    ∀ secret ∈ secrets, secret ≠ "" →
      ¬ Occurs secret (sanitizeErrorMessage isalnum message secrets) ∧
      ∀ times, ¬ Occurs secret ((fun text => sanitizeErrorMessage isalnum text [])^[times]
        (sanitizeErrorMessage isalnum message secrets)) := by
  intro secret member nonempty
  have key := keys secret member nonempty
  have gone : ¬ Occurs secret (sanitizeErrorMessage isalnum message secrets) :=
    sanitize_removes key member
  refine ⟨gone, fun times => ?_⟩
  induction times with
  | zero => exact gone
  | succ times ih =>
    rw [Function.iterate_succ_apply']
    exact sanitize_keeps key ih

/-- Two keys, one within the other. -/
theorem nested_keys_do_not_survive :
    ¬ Occurs "sk-1" (sanitizeErrorMessage Char.isAlphanum "key sk-12 or sk-1" ["sk-12", "sk-1"]) ∧
    ¬ Occurs "sk-12"
      (sanitizeErrorMessage Char.isAlphanum "key sk-12 or sk-1" ["sk-12", "sk-1"]) := by
  have keys : ∀ secret ∈ ["sk-12", "sk-1"], secret ≠ "" → IsKey secret := by
    intro secret member _
    rcases List.mem_pair.mp member with rfl | rfl
    · exact ⟨by decide, by decide, by decide⟩
    · exact ⟨by decide, by decide, by decide⟩
  have gone := no_key_survives Char.isAlphanum "key sk-12 or sk-1" ["sk-12", "sk-1"] keys
  exact ⟨(gone "sk-1" (by simp) (by simp)).1, (gone "sk-12" (by simp) (by simp)).1⟩

/-! ### Adapters -/

section Adapters
variable {provider : Provider} {model : String} {world : CallWorld} {outcome : ProviderOutcome}
  {fields : OutcomeFields}

theorem modelValidate_errorMessage {sanitize : String → List String → String}
    (built : ProviderOutcome.modelValidate sanitize fields = .ok outcome) :
    outcome.errorMessage = fields.errorMessage.map (sanitize · []) := by
  unfold ProviderOutcome.modelValidate at built
  split at built
  · cases built
  · cases built
    rfl

theorem failedOutcome_hides_key {error : CallError} {statusCode : Option Int}
    (key : IsKey secret) (held : provider.apiKey = some secret)
    (failed : provider.failedOutcome (sanitizeErrorMessage isalnum) model error world statusCode =
      .ok outcome) :
    ∀ message ∈ outcome.errorMessage, ¬ Occurs secret message := by
  intro message present
  rw [modelValidate_errorMessage failed] at present
  obtain ⟨first, made, rfl⟩ := Option.map_eq_some_iff.mp present
  cases made
  apply sanitize_keeps key
  apply sanitize_removes key
  rw [held]
  exact List.mem_singleton_self secret

theorem successfulOutcome_says_nothing {response : Payload} {usage : TokenUsage}
    {sanitize : String → List String → String} {statusCode : Option Int}
    (succeeded : provider.successfulOutcome sanitize model response world usage statusCode =
      .ok outcome) : outcome.errorMessage = none :=
  modelValidate_errorMessage succeeded

/-- No outcome of an adapter's call has the adapter's key in its error message. -/
theorem complete_hides_key (adapter : Adapter)
    {client : HttpRequest → Except CallError HttpResponse} {request : ChatRequest}
    (key : IsKey secret) (held : adapter.provider.apiKey = some secret)
    (completed : adapter.complete (sanitizeErrorMessage isalnum) client world request model =
      .ok outcome) :
    ∀ message ∈ outcome.errorMessage, ¬ Occurs secret message := by
  rw [Adapter.complete_eq] at completed
  unfold Provider.call at completed
  split at completed
  · exact failedOutcome_hides_key key held completed
  · split at completed
    · exact failedOutcome_hides_key key held completed
    · split at completed
      · rename_i succeeded
        cases completed
        rw [successfulOutcome_says_nothing succeeded]
        rintro _ ⟨⟩
      · exact failedOutcome_hides_key key held completed

end Adapters
end ModelPilot.ErrorMessages
