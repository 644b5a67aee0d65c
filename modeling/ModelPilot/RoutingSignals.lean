import ModelPilot.BenchmarkDefinitions
import ModelPilot.ProbeAdmission

/-! What routing explains about itself (`metrics/models.py`): one signal for each
ranked candidate, the excluded candidates, and the explanation that holds both,
with its validator and the two updates a request makes to it. -/
namespace ModelPilot

inductive MetricName where
  | quality
  | latency
  | reliability
  | cost
  deriving DecidableEq, Repr

def MetricName.all : List MetricName := [.quality, .latency, .reliability, .cost]

/-- The `quality_source` of a signal. -/
inductive QualitySourceLabel where
  | static
  | blended
  | measured
  deriving DecidableEq, Repr

/-- `ReasonValue`. -/
inductive ReasonValue where
  | null
  | bool (value : Bool)
  | int (value : Int)
  | float (value : ℚ)
  | str (value : String)
  deriving DecidableEq

/-- The field values of a routing signal, before validation. -/
structure SignalFields where
  health : Option HealthEligibility := none
  provider : String
  model : String
  qualityScore : ℚ
  qualitySource : QualitySourceLabel := .static
  staticQualityScore : Option ℚ := none
  benchmarkQualityScore : Option ℚ := none
  benchmarkConfidence : Option ℚ := none
  benchmarkSuiteId : Option String := none
  benchmarkSuiteVersion : Option String := none
  benchmarkSuiteFingerprint : Option String := none
  benchmarkGeneratedAt : Option Int := none
  benchmarkSourceRunIds : List String := []
  benchmarkLatestRunId : Option String := none
  benchmarkLatestRunCoverage : Option ℚ := none
  benchmarkLatestRunCompleteness : Option ℚ := none
  latencyScore : ℚ
  reliabilityScore : ℚ
  costScore : ℚ
  measuredSampleCount : Int
  measuredConfidence : ℚ
  finalScore : ℚ
  rank : Int := 1
  selected : Bool := false
  sources : Dict MetricName String
  reasonMetadata : Dict String ReasonValue := .empty
  deriving DecidableEq

namespace SignalFields

def checkUnit (value : ℚ) : Except PyError Unit := require (Rounding.InUnit value) "unit score"

def checkText (value : String) : Except PyError Unit := require (value ≠ "") "string_too_short"

/-- Field constraints and `require_all_sources`. -/
def check (signal : SignalFields) : Except PyError Unit := do
  checkText signal.provider
  checkText signal.model
  checkUnit signal.qualityScore
  checkSome checkUnit signal.staticQualityScore
  checkSome checkUnit signal.benchmarkQualityScore
  checkSome checkUnit signal.benchmarkConfidence
  checkSome checkText signal.benchmarkSuiteId
  checkSome checkText signal.benchmarkSuiteVersion
  checkSome (fun fingerprint => require (isFingerprint fingerprint) "fingerprint")
    signal.benchmarkSuiteFingerprint
  checkAll checkText signal.benchmarkSourceRunIds
  checkSome checkText signal.benchmarkLatestRunId
  checkSome checkUnit signal.benchmarkLatestRunCoverage
  checkSome checkUnit signal.benchmarkLatestRunCompleteness
  checkUnit signal.latencyScore
  checkUnit signal.reliabilityScore
  checkUnit signal.costScore
  require (0 ≤ signal.measuredSampleCount) "measured_sample_count"
  checkUnit signal.measuredConfidence
  checkUnit signal.finalScore
  require (1 ≤ signal.rank) "rank"
  checkAll checkText signal.sources.values
  require (∀ name ∈ MetricName.all, name ∈ signal.sources.keys)
    "sources must describe quality, latency, reliability, and cost"

def key (signal : SignalFields) : Key := (signal.provider, signal.model)

end SignalFields

/-- A validated signal. -/
structure RoutingSignal extends SignalFields where
  valid : toSignalFields.check = .ok ()
  deriving DecidableEq

namespace RoutingSignal

/-- `RoutingSignal.model_validate(values)`. -/
def modelValidate (fields : SignalFields) : Except PyError RoutingSignal :=
  match valid : fields.check with
  | .ok () => .ok ⟨fields, valid⟩
  | .error error => .error error

theorem modelValidate_of_check (accepted : fields.check = .ok ()) :
    modelValidate fields = .ok ⟨fields, accepted⟩ :=
  validated_ok (RoutingSignal.mk fields) accepted

/-- A validated signal survives re-validation. -/
theorem modelValidate_dump (signal : RoutingSignal) :
    modelValidate signal.toSignalFields = .ok signal :=
  modelValidate_of_check signal.valid

theorem toSignalFields_of_validated (accepted : modelValidate fields = .ok signal) :
    signal.toSignalFields = fields := by
  unfold modelValidate at accepted
  split at accepted
  · cases accepted
    rfl
  · cases accepted

/-- Rank, selection and health may be replaced without validation. -/
theorem check_placed (signal : RoutingSignal) (health : Option HealthEligibility)
    (position : Nat) (selected : Bool) :
    SignalFields.check { signal.toSignalFields with health, rank := position + 1, selected } =
      .ok () := by
  have valid := signal.valid
  simp only [SignalFields.check, then_ok_iff, require_ok_iff] at valid ⊢
  have positive : (1 : Int) ≤ position + 1 := by omega
  tauto

/-- `model_copy` with a new health, rank and selection; `position` counts the
candidates ranked before. -/
def place (signal : RoutingSignal) (health : Option HealthEligibility) (position : Nat) :
    RoutingSignal where
  toSignalFields :=
    { signal.toSignalFields with health, rank := position + 1, selected := position = 0 }
  valid := signal.check_placed health position (position = 0)

@[simp] theorem place_key (signal : RoutingSignal) : (signal.place health position).key = signal.key :=
  rfl

@[simp] theorem place_rank (signal : RoutingSignal) :
    (signal.place health position).rank = position + 1 := rfl

@[simp] theorem place_selected (signal : RoutingSignal) :
    (signal.place health position).selected = decide (position = 0) := rfl

@[simp] theorem place_health (signal : RoutingSignal) :
    (signal.place health position).health = health := rfl

end RoutingSignal

/-- A candidate that routing left out. -/
structure ExcludedFields where
  provider : String
  model : String
  health : HealthEligibility
  deriving DecidableEq

def ExcludedFields.check (excluded : ExcludedFields) : Except PyError Unit := do
  SignalFields.checkText excluded.provider
  SignalFields.checkText excluded.model

structure ExcludedRoutingCandidate extends ExcludedFields where
  valid : toExcludedFields.check = .ok ()
  deriving DecidableEq

namespace ExcludedRoutingCandidate

def modelValidate (fields : ExcludedFields) : Except PyError ExcludedRoutingCandidate :=
  match valid : fields.check with
  | .ok () => .ok ⟨fields, valid⟩
  | .error error => .error error

def key (excluded : ExcludedRoutingCandidate) : Key := (excluded.provider, excluded.model)

end ExcludedRoutingCandidate

/-- The field values of an explanation; its signals are validated ones. -/
structure ExplanationFields where
  requestId : String
  routingVersion : String := "v0.2"
  strategy : String
  selectedProvider : Option String := none
  selectedModel : Option String := none
  servedProvider : Option String := none
  servedModel : Option String := none
  selected : Option RoutingSignal := none
  candidates : List RoutingSignal := []
  excludedCandidates : List ExcludedRoutingCandidate := []
  createdAt : Datetime
  deriving DecidableEq

namespace ExplanationFields
variable (explanation : ExplanationFields)

/-- The part of the validator about the selected candidate of a nonempty ranking. -/
def selectedIsFirst (first : RoutingSignal) : Except PyError Unit :=
  match explanation.selected with
  | none => .error (.value "nonempty ranking requires a selected candidate")
  | some selected => do
    require (selected = first) "selected candidate must be ranked first"
    require (selected.key ∈ explanation.candidates.map (·.key))
      "selected route must be present in candidates"
    require (some selected.provider = explanation.selectedProvider ∧
      some selected.model = explanation.selectedModel)
      "selected provider and model must match selected signal"
    require (explanation.servedProvider = none ↔ explanation.servedModel = none)
      "served provider and model must both be set or both be None"
    require (explanation.candidates.map (·.rank) =
      (List.range explanation.candidates.length).map fun position => (position : Int) + 1)
      "candidate ranks must be ordered, unique, and start at one"
    require (explanation.candidates.filter (·.selected) = [selected])
      "exactly one candidate must be selected"

/-- `selected_must_be_a_candidate`, in the order of its checks. -/
def selectedMustBeACandidate : Except PyError Unit := do
  let ranked := explanation.candidates.map (·.key)
  let excluded := explanation.excludedCandidates.map (·.key)
  require ranked.Nodup "ranked candidates must be unique"
  require (∀ item ∈ explanation.candidates, ∀ health ∈ item.health, health.eligible = true)
    "ranked candidates must be eligible"
  require ((∀ key ∈ ranked, key ∉ excluded) ∧ excluded.Nodup)
    "excluded candidates must be unique and not ranked"
  require (∀ item ∈ explanation.excludedCandidates, item.health.eligible = false)
    "excluded candidates must be ineligible"
  match explanation.candidates with
  | [] =>
    require (explanation.selected = none ∧ explanation.selectedProvider = none ∧
      explanation.selectedModel = none ∧ explanation.servedProvider = none ∧
      explanation.servedModel = none) "empty ranking cannot have selected or served candidates"
  | first :: _ => explanation.selectedIsFirst first

/-- Field constraints, then the model validator. -/
def check : Except PyError Unit := do
  SignalFields.checkText explanation.requestId
  SignalFields.checkText explanation.routingVersion
  SignalFields.checkText explanation.strategy
  checkSome SignalFields.checkText explanation.selectedProvider
  checkSome SignalFields.checkText explanation.selectedModel
  checkSome SignalFields.checkText explanation.servedProvider
  checkSome SignalFields.checkText explanation.servedModel
  require explanation.createdAt.toUtc.isSome "timezone_aware"
  explanation.selectedMustBeACandidate

end ExplanationFields

/-- A validated explanation. -/
structure RoutingExplanation extends ExplanationFields where
  valid : toExplanationFields.check = .ok ()

namespace RoutingExplanation

/-- `RoutingExplanation.model_validate(values)`; signals that are instances
already are not validated again. -/
def modelValidate (fields : ExplanationFields) : Except PyError RoutingExplanation :=
  match valid : fields.check with
  | .ok () => .ok ⟨fields, valid⟩
  | .error error => .error error

theorem toExplanationFields_of_validated (accepted : modelValidate fields = .ok explanation) :
    explanation.toExplanationFields = fields := by
  unfold modelValidate at accepted
  split at accepted
  · cases accepted
    rfl
  · cases accepted

/-- The health of a candidate after the updates. -/
def verdict (updates : Dict Key HealthEligibility) (item : RoutingSignal) :
    Option HealthEligibility :=
  (updates.get? item.key).orElse fun _ => item.health

/-- The loop of `with_health_updates`: candidates still eligible are placed anew,
the others join the excluded ones. -/
def split (updates : Dict Key HealthEligibility) :
    List RoutingSignal → List RoutingSignal → List ExcludedRoutingCandidate →
    Except PyError (List RoutingSignal × List ExcludedRoutingCandidate)
  | [], candidates, excluded => .ok (candidates, excluded)
  | item :: rest, candidates, excluded =>
    match (verdict updates item).filter (!·.eligible) with
    | some health => do
      let refused ← ExcludedRoutingCandidate.modelValidate ⟨item.provider, item.model, health⟩
      split updates rest candidates (excluded ++ [refused])
    | none =>
      let placed := item.place (verdict updates item) candidates.length
      split updates rest (candidates ++ [placed]) excluded

/-- `with_health_updates`. -/
def withHealthUpdates (explanation : RoutingExplanation) (updates : Dict Key HealthEligibility) :
    Except PyError RoutingExplanation := do
  let (candidates, excluded) ←
    split updates explanation.candidates [] explanation.excludedCandidates
  let selected := candidates.head?
  modelValidate
    { explanation.toExplanationFields with
      candidates
      excludedCandidates := excluded
      selected
      selectedProvider := selected.map (·.provider)
      selectedModel := selected.map (·.model) }

/-- `with_served_by`, which validates the dumped signals again. -/
def withServedBy (explanation : RoutingExplanation) (provider model : String) :
    Except PyError RoutingExplanation := do
  let candidates ← explanation.candidates.mapM (RoutingSignal.modelValidate ·.toSignalFields)
  let excluded ← explanation.excludedCandidates.mapM
    (ExcludedRoutingCandidate.modelValidate ·.toExcludedFields)
  let selected ← explanation.selected.mapM (RoutingSignal.modelValidate ·.toSignalFields)
  modelValidate
    { explanation.toExplanationFields with
      candidates
      excludedCandidates := excluded
      selected
      servedProvider := some provider
      servedModel := some model }

end RoutingExplanation

/-- The persisted decision of a request. -/
structure DecisionFields where
  requestId : String
  routingVersion : String
  selectedProvider : String
  selectedModel : String
  servedProvider : Option String := none
  servedModel : Option String := none
  createdAt : Datetime
  explanation : RoutingExplanation

/-- Field constraints and `decision_must_match_explanation`; aware datetimes are equal
when their instants are. -/
def DecisionFields.check (decision : DecisionFields) : Except PyError Unit := do
  SignalFields.checkText decision.requestId
  SignalFields.checkText decision.routingVersion
  SignalFields.checkText decision.selectedProvider
  SignalFields.checkText decision.selectedModel
  checkSome SignalFields.checkText decision.servedProvider
  checkSome SignalFields.checkText decision.servedModel
  require decision.createdAt.toUtc.isSome "timezone_aware"
  let explained := decision.explanation
  require (decision.requestId = explained.requestId ∧
    decision.routingVersion = explained.routingVersion ∧
    some decision.selectedProvider = explained.selectedProvider ∧
    some decision.selectedModel = explained.selectedModel ∧
    decision.servedProvider = explained.servedProvider ∧
    decision.servedModel = explained.servedModel ∧
    decision.createdAt.toUtc = explained.createdAt.toUtc)
    "routing decision metadata must match its explanation"

structure RoutingDecision extends DecisionFields where
  valid : toDecisionFields.check = .ok ()

namespace RoutingDecision

def modelValidate (fields : DecisionFields) : Except PyError RoutingDecision :=
  match valid : fields.check with
  | .ok () => .ok ⟨fields, valid⟩
  | .error error => .error error

theorem modelValidate_ok {fields : DecisionFields} (accepted : fields.check = .ok ()) :
    modelValidate fields = .ok ⟨fields, accepted⟩ :=
  validated_ok (RoutingDecision.mk fields) accepted

/-- `from_explanation`; a missing provider or model is refused as not a string. -/
def fromExplanation (explanation : RoutingExplanation) : Except PyError RoutingDecision :=
  match explanation.selectedProvider, explanation.selectedModel with
  | some selectedProvider, some selectedModel =>
    modelValidate
      { requestId := explanation.requestId
        routingVersion := explanation.routingVersion
        selectedProvider
        selectedModel
        servedProvider := explanation.servedProvider
        servedModel := explanation.servedModel
        createdAt := explanation.createdAt
        explanation }
  | _, _ => .error (.value "string_type")

end RoutingDecision
end ModelPilot
