import Mathlib.Data.List.Nodup
import ModelPilot.RoutingSignals

/-! The updates of a routing explanation are never refused: moving refused
candidates to the excluded ones, whatever the verdicts, and naming the served
pair leave an explanation that passes the validator. -/
namespace ModelPilot

namespace ExcludedRoutingCandidate

theorem modelValidate_named (fields : ExcludedFields) (provider : fields.provider ≠ "")
    (model : fields.model ≠ "") :
    ∃ excluded : ExcludedRoutingCandidate, modelValidate fields = .ok excluded ∧
      excluded.toExcludedFields = fields := by
  have accepted : fields.check = .ok () := by
    simp [ExcludedFields.check, SignalFields.checkText, then_ok_iff, provider, model]
  exact ⟨⟨fields, accepted⟩, validated_ok (ExcludedRoutingCandidate.mk fields) accepted, rfl⟩

theorem toExcludedFields_of_validated (accepted : modelValidate fields = .ok excluded) :
    excluded.toExcludedFields = fields := by
  unfold modelValidate at accepted
  split at accepted
  · cases accepted
    rfl
  · cases accepted

theorem modelValidate_dump (excluded : ExcludedRoutingCandidate) :
    modelValidate excluded.toExcludedFields = .ok excluded :=
  validated_ok (ExcludedRoutingCandidate.mk excluded.toExcludedFields) excluded.valid

end ExcludedRoutingCandidate

theorem RoutingSignal.named (signal : RoutingSignal) :
    signal.provider ≠ "" ∧ signal.model ≠ "" := by
  have valid := signal.valid
  simp only [SignalFields.check, SignalFields.checkText, then_ok_iff, require_ok_iff] at valid
  exact ⟨valid.1, valid.2.1⟩

namespace ExplanationFields

/-- What the validator asks of the two lists of an explanation. -/
structure Partitioned (candidates : List RoutingSignal) (excluded : List ExcludedRoutingCandidate) :
    Prop where
  unique : (candidates.map (·.key)).Nodup
  eligible : ∀ item ∈ candidates, ∀ health ∈ item.health, health.eligible = true
  apart : ∀ key ∈ candidates.map (·.key), key ∉ excluded.map (·.key)
  excludedUnique : (excluded.map (·.key)).Nodup
  ineligible : ∀ item ∈ excluded, item.health.eligible = false

/-- Signals placed one after the other, from some position on. -/
def placed (verdict : RoutingSignal → Option HealthEligibility) :
    Nat → List RoutingSignal → List RoutingSignal
  | _, [] => []
  | position, signal :: rest =>
    signal.place (verdict signal) position :: placed verdict (position + 1) rest

variable {verdict : RoutingSignal → Option HealthEligibility} {position : Nat}
  {signals candidates : List RoutingSignal} {excluded : List ExcludedRoutingCandidate}

theorem placed_keys : (placed verdict position signals).map (·.key) = signals.map (·.key) := by
  induction signals generalizing position with
  | nil => rfl
  | cons signal rest ih => simp [placed, ih]

theorem placed_length : (placed verdict position signals).length = signals.length := by
  have keys : (placed verdict position signals).map (·.key) = signals.map (·.key) := placed_keys
  simpa using congrArg List.length keys

theorem placed_ranks : (placed verdict position signals).map (·.rank) =
    (List.range' position signals.length).map fun place => (place : Int) + 1 := by
  induction signals generalizing position with
  | nil => rfl
  | cons signal rest ih => simp [placed, ih, List.range'_succ]

theorem placed_eq_mapIdx : placed verdict position signals =
    signals.mapIdx fun index signal => signal.place (verdict signal) (position + index) := by
  induction signals generalizing position with
  | nil => rfl
  | cons signal rest ih =>
    rw [placed, ih, List.mapIdx_cons]
    simp only [Nat.add_assoc, Nat.add_comm 1, Nat.add_zero]

/-- Placing keeps everything a signal says about its candidate. -/
theorem mem_placed {item : RoutingSignal} (member : item ∈ placed verdict position signals) :
    ∃ signal ∈ signals, ∃ place, position ≤ place ∧ item = signal.place (verdict signal) place := by
  induction signals generalizing position with
  | nil => cases member
  | cons signal rest ih =>
    rcases List.mem_cons.mp member with rfl | later
    · exact ⟨signal, List.mem_cons_self, position, le_refl _, rfl⟩
    · obtain ⟨other, inside, place, behind, same⟩ := ih later
      exact ⟨other, List.mem_cons_of_mem _ inside, place, by omega, same⟩

theorem placed_append {left right : List RoutingSignal} :
    placed verdict position (left ++ right) =
      placed verdict position left ++ placed verdict (position + left.length) right := by
  induction left generalizing position with
  | nil => rfl
  | cons signal rest ih =>
    simp only [List.cons_append, placed, ih, List.length_cons]
    rw [Nat.add_right_comm, Nat.add_assoc]

/-- Only the signal at the first position is selected. -/
theorem placed_selected (positive : 0 < position) :
    (placed verdict position signals).filter (·.selected) = [] := by
  rw [List.filter_eq_nil_iff]
  intro item member
  obtain ⟨signal, _, place, behind, rfl⟩ := mem_placed member
  have later : place ≠ 0 := by omega
  simp [later]

/-- The fields that do not depend on the candidates. -/
structure Headed (explanation : ExplanationFields) : Prop where
  requestId : explanation.requestId ≠ ""
  routingVersion : explanation.routingVersion ≠ ""
  strategy : explanation.strategy ≠ ""
  aware : explanation.createdAt.toUtc.isSome = true

/-- A validated explanation has its header and a partition. -/
theorem sound_of_check {explanation : ExplanationFields} (valid : explanation.check = .ok ()) :
    explanation.Headed ∧
      Partitioned explanation.candidates explanation.excludedCandidates := by
  simp only [check, selectedMustBeACandidate, SignalFields.checkText, then_ok_iff,
    require_ok_iff] at valid
  obtain ⟨request, version, strategy, _, _, _, _, aware, unique, eligible, ⟨apart, single⟩,
    ineligible, _⟩ := valid
  exact ⟨⟨request, version, strategy, aware⟩, ⟨unique, eligible, apart, single, ineligible⟩⟩

/-- Candidates placed from the first rank on pass the part of the validator about
the selected one, which is their first. -/
theorem selectedIsFirst_placed {explanation : ExplanationFields} {signal : RoutingSignal}
    {rest : List RoutingSignal}
    (ranked : explanation.candidates = placed verdict 0 (signal :: rest))
    (selected : explanation.selected = some (signal.place (verdict signal) 0))
    (provider : explanation.selectedProvider = some signal.provider)
    (model : explanation.selectedModel = some signal.model)
    (served : explanation.servedProvider = none ↔ explanation.servedModel = none) :
    explanation.selectedIsFirst (signal.place (verdict signal) 0) = .ok () := by
  have ranks : explanation.candidates.map (·.rank) =
      (List.range explanation.candidates.length).map fun position => (position : Int) + 1 := by
    rw [ranked, placed_ranks, placed_length, List.range_eq_range']
  have single : explanation.candidates.filter (·.selected) = [signal.place (verdict signal) 0] := by
    rw [ranked, placed, List.filter_cons_of_pos (by simp), placed_selected (by omega)]
  simp only [selectedIsFirst, selected, then_ok_iff, require_ok_iff]
  refine ⟨trivial, ?_, ?_, served, ranks, single⟩
  · rw [ranked, placed]
    simp
  · rw [provider, model]
    exact ⟨rfl, rfl⟩

/-- A served pair needs a candidate. -/
structure ServedBy (explanation : ExplanationFields) : Prop where
  both : explanation.servedProvider = none ↔ explanation.servedModel = none
  provider : explanation.servedProvider ≠ some ""
  model : explanation.servedModel ≠ some ""
  ranked : explanation.servedProvider ≠ none → explanation.candidates ≠ []

/-- Candidates placed from the first rank on, the first of them selected, pass
the validator. -/
theorem check_placed {explanation : ExplanationFields} (headed : explanation.Headed)
    (ranked : explanation.candidates = placed verdict 0 signals)
    (parts : Partitioned explanation.candidates explanation.excludedCandidates)
    (selected : explanation.selected = explanation.candidates.head?)
    (provider : explanation.selectedProvider = explanation.selected.map (·.provider))
    (model : explanation.selectedModel = explanation.selected.map (·.model))
    (served : explanation.ServedBy) : explanation.check = .ok () := by
  have names : (∀ name, explanation.selectedProvider = some name → name ≠ "") ∧
      ∀ name, explanation.selectedModel = some name → name ≠ "" := by
    rw [provider, model]
    constructor
    · intro name found
      obtain ⟨signal, _, rfl⟩ := Option.map_eq_some_iff.mp found
      exact signal.named.1
    · intro name found
      obtain ⟨signal, _, rfl⟩ := Option.map_eq_some_iff.mp found
      exact signal.named.2
  simp only [check, selectedMustBeACandidate, SignalFields.checkText, then_ok_iff,
    require_ok_iff, checkSome_ok_iff]
  refine ⟨headed.requestId, headed.routingVersion, headed.strategy, names.1, names.2, ?_, ?_,
    headed.aware, parts.unique, parts.eligible, ⟨parts.apart, parts.excludedUnique⟩,
    parts.ineligible, ?_⟩
  · rintro name found rfl
    exact served.provider found
  · rintro name found rfl
    exact served.model found
  · cases signals with
    | nil =>
      have empty : explanation.candidates = [] := by rw [ranked, placed]
      have absent : explanation.selected = none := by rw [selected, empty, List.head?_nil]
      have unserved : explanation.servedProvider = none := by
        by_contra present
        exact served.ranked present empty
      simp only [empty, require_ok_iff]
      exact ⟨absent, by rw [provider, absent]; rfl, by rw [model, absent]; rfl, unserved,
        served.both.mp unserved⟩
    | cons signal rest =>
      have first : explanation.selected = some (signal.place (verdict signal) 0) := by
        rw [selected, ranked, placed, List.head?_cons]
      have accepted := selectedIsFirst_placed ranked first (by rw [provider, first]; rfl)
        (by rw [model, first]; rfl) served.both
      rw [ranked, placed]
      exact accepted

end ExplanationFields

namespace RoutingExplanation
open ExplanationFields

/-- The candidate stays ranked after the updates. -/
def keeps (updates : Dict Key HealthEligibility) (item : RoutingSignal) : Bool :=
  (verdict updates item).all (·.eligible)

variable {updates : Dict Key HealthEligibility} {explanation : RoutingExplanation}

theorem modelValidate_checked {fields : ExplanationFields} (accepted : fields.check = .ok ()) :
    modelValidate fields = .ok ⟨fields, accepted⟩ :=
  validated_ok (RoutingExplanation.mk fields) accepted

/-- The loop of `with_health_updates` splits the candidates by their verdicts. -/
theorem split_ok (updates : Dict Key HealthEligibility) (items candidates : List RoutingSignal)
    (excluded : List ExcludedRoutingCandidate) :
    ∃ refused, split updates items candidates excluded =
        .ok (candidates ++ placed (verdict updates) candidates.length (items.filter (keeps updates)),
          excluded ++ refused) ∧
      refused.map (·.key) = (items.filter (!keeps updates ·)).map (·.key) ∧
      ∀ item ∈ refused, item.health.eligible = false := by
  induction items generalizing candidates excluded with
  | nil => exact ⟨[], by simp [split, placed], rfl, by simp⟩
  | cons item rest ih =>
    cases found : (verdict updates item).filter (!·.eligible) with
    | some health =>
      obtain ⟨known, refusedHealth⟩ := Option.filter_eq_some_iff.mp found
      have dropped : keeps updates item = false := by
        simpa [keeps, known] using refusedHealth
      obtain ⟨refused, accepted, fields⟩ := ExcludedRoutingCandidate.modelValidate_named
        ⟨item.provider, item.model, health⟩ item.named.1 item.named.2
      obtain ⟨later, same, keys, ineligible⟩ := ih candidates (excluded ++ [refused])
      refine ⟨refused :: later, ?_, ?_, ?_⟩
      · simp only [split, found, accepted, bind, Except.bind, same]
        simp [dropped]
      · have own : refused.key = item.key := by
          simp [ExcludedRoutingCandidate.key, SignalFields.key, fields]
        simp [dropped, keys, own]
      · intro other member
        rcases List.mem_cons.mp member with rfl | inside
        · simpa [fields] using refusedHealth
        · exact ineligible other inside
    | none =>
      have kept : keeps updates item = true := by
        cases known : verdict updates item with
        | none => simp [keeps, known]
        | some health => simpa [keeps, known, Option.filter] using found
      obtain ⟨later, same, keys, ineligible⟩ :=
        ih (candidates ++ [item.place (verdict updates item) candidates.length]) excluded
      refine ⟨later, ?_, ?_, ineligible⟩
      · simp only [split, found, same]
        simp [kept, placed]
      · simpa [kept] using keys

/-- Moving the refused candidates keeps the two lists a partition. -/
theorem partitioned_split {candidates : List RoutingSignal}
    {excluded refused : List ExcludedRoutingCandidate} (parts : Partitioned candidates excluded)
    (keys : refused.map (·.key) = (candidates.filter (!keeps updates ·)).map (·.key))
    (ineligible : ∀ item ∈ refused, item.health.eligible = false) :
    Partitioned (placed (verdict updates) 0 (candidates.filter (keeps updates)))
      (excluded ++ refused) := by
  have dropped : (refused.map (·.key)).Sublist (candidates.map (·.key)) := by
    rw [keys]
    exact List.filter_sublist.map _
  have kept : (placed (verdict updates) 0 (candidates.filter (keeps updates))).map (·.key) =
      (candidates.filter (keeps updates)).map (·.key) := placed_keys
  refine ⟨?_, ?_, ?_, ?_, ?_⟩
  · rw [kept]
    exact parts.unique.sublist (List.filter_sublist.map _)
  · intro item member health found
    obtain ⟨signal, inside, place, _, rfl⟩ := mem_placed member
    have eligible := (List.mem_filter.mp inside).2
    rw [RoutingSignal.place_health, Option.mem_def] at found
    simpa [keeps, found] using eligible
  · intro key member
    rw [kept] at member
    obtain ⟨signal, inside, rfl⟩ := List.mem_map.mp member
    obtain ⟨ranked, stays⟩ := List.mem_filter.mp inside
    rw [List.map_append, List.mem_append, not_or]
    refine ⟨parts.apart _ (List.mem_map_of_mem ranked), ?_⟩
    rw [keys]
    intro other
    obtain ⟨leaver, found, same⟩ := List.mem_map.mp other
    obtain ⟨also, leaves⟩ := List.mem_filter.mp found
    rw [List.inj_on_of_nodup_map parts.unique also ranked same, stays] at leaves
    cases leaves
  · rw [List.map_append]
    refine List.nodup_append'.mpr ⟨parts.excludedUnique, parts.unique.sublist dropped, ?_⟩
    intro key old new
    exact parts.apart key (dropped.subset new) old
  · intro item member
    rcases List.mem_append.mp member with old | new
    · exact parts.ineligible item old
    · exact ineligible item new

/-- What `with_health_updates` makes of an explanation. -/
structure Updated (explanation : RoutingExplanation) (updates : Dict Key HealthEligibility)
    (updated : RoutingExplanation) : Prop where
  candidates : updated.candidates =
    placed (verdict updates) 0 (explanation.candidates.filter (keeps updates))
  excluded : updated.excludedCandidates.map (·.key) =
    explanation.excludedCandidates.map (·.key) ++
      (explanation.candidates.filter (!keeps updates ·)).map (·.key)
  selected : updated.selected = updated.candidates.head?
  selectedProvider : updated.selectedProvider = updated.selected.map (·.provider)
  selectedModel : updated.selectedModel = updated.selected.map (·.model)
  unserved : updated.servedProvider = none ∧ updated.servedModel = none
  requestId : updated.requestId = explanation.requestId

/-- Updates of an unserved explanation are never refused. -/
theorem withHealthUpdates_ok (updates : Dict Key HealthEligibility)
    (unserved : explanation.servedProvider = none ∧ explanation.servedModel = none) :
    ∃ updated, explanation.withHealthUpdates updates = .ok updated ∧
      Updated explanation updates updated := by
  obtain ⟨headed, parts⟩ := sound_of_check explanation.valid
  obtain ⟨refused, divided, keys, ineligible⟩ :=
    split_ok updates explanation.candidates [] explanation.excludedCandidates
  have result := partitioned_split parts keys ineligible
  let candidates := placed (verdict updates) 0 (explanation.candidates.filter (keeps updates))
  let fields : ExplanationFields :=
    { explanation.toExplanationFields with
      candidates
      excludedCandidates := explanation.excludedCandidates ++ refused
      selected := candidates.head?
      selectedProvider := candidates.head?.map (·.provider)
      selectedModel := candidates.head?.map (·.model) }
  have accepted : fields.check = .ok () := by
    refine check_placed ⟨headed.requestId, headed.routingVersion, headed.strategy, headed.aware⟩
      rfl result rfl rfl rfl ⟨?_, ?_, ?_, ?_⟩
    · exact ⟨fun _ => unserved.2, fun _ => unserved.1⟩
    · simp [fields, unserved.1]
    · simp [fields, unserved.2]
    · exact fun served => absurd unserved.1 served
  refine ⟨⟨fields, accepted⟩, ?_, rfl, ?_, rfl, rfl, rfl, unserved, rfl⟩
  · rw [withHealthUpdates, divided]
    exact modelValidate_checked accepted
  · simp [fields, keys]

/-- Naming the served pair of a nonempty ranking is never refused, and changes
nothing else. -/
theorem withServedBy_ok {provider model : String} (named : provider ≠ "" ∧ model ≠ "")
    (updated : Updated explanation updates served) (ranked : served.candidates ≠ []) :
    ∃ final : RoutingExplanation, served.withServedBy provider model = .ok final ∧
      final.toExplanationFields = { served.toExplanationFields with
        servedProvider := some provider, servedModel := some model } := by
  obtain ⟨headed, parts⟩ := sound_of_check served.valid
  have accepted : ExplanationFields.check { served.toExplanationFields with
      servedProvider := some provider, servedModel := some model } = .ok () := by
    refine check_placed ⟨headed.requestId, headed.routingVersion, headed.strategy, headed.aware⟩
      updated.candidates parts updated.selected updated.selectedProvider updated.selectedModel
      ⟨?_, ?_, ?_, ?_⟩
    · simp
    · simpa using named.1
    · simpa using named.2
    · exact fun _ => ranked
  refine ⟨⟨_, accepted⟩, ?_, rfl⟩
  have selected : ∀ item : Option RoutingSignal,
      item.mapM (RoutingSignal.modelValidate ·.toSignalFields) = .ok item := by
    intro item
    cases item with
    | none => rfl
    | some item =>
      rw [Option.mapM_some, RoutingSignal.modelValidate_dump]
      rfl
  rw [withServedBy, mapM_unchanged RoutingSignal.modelValidate_dump,
    mapM_unchanged ExcludedRoutingCandidate.modelValidate_dump, selected]
  exact modelValidate_checked accepted

/-- An explanation with a selected candidate can be persisted as it is. -/
theorem fromExplanation_ok (explanation : RoutingExplanation)
    (selected : explanation.selected ≠ none) :
    ∃ decision, RoutingDecision.fromExplanation explanation = .ok decision ∧
      decision.explanation = explanation := by
  have valid := explanation.valid
  simp only [check, selectedMustBeACandidate, SignalFields.checkText, then_ok_iff, require_ok_iff,
    checkSome_ok_iff] at valid
  obtain ⟨request, version, _, _, _, provider, model, aware, _, _, _, _, headed⟩ := valid
  obtain ⟨signal, held⟩ := Option.ne_none_iff_exists'.mp selected
  cases ranked : explanation.candidates with
  | nil =>
    rw [ranked] at headed
    exact absurd (require_ok_iff.mp headed).1 selected
  | cons first rest =>
    rw [ranked] at headed
    simp only [selectedIsFirst, held, then_ok_iff, require_ok_iff] at headed
    obtain ⟨_, _, ⟨ownProvider, ownModel⟩, _⟩ := headed
    have accepted : DecisionFields.check
        { requestId := explanation.requestId
          routingVersion := explanation.routingVersion
          selectedProvider := signal.provider
          selectedModel := signal.model
          servedProvider := explanation.servedProvider
          servedModel := explanation.servedModel
          createdAt := explanation.createdAt
          explanation } = .ok () := by
      simp only [DecisionFields.check, SignalFields.checkText, then_ok_iff, require_ok_iff,
        checkSome_ok_iff]
      exact ⟨request, version, signal.named.1, signal.named.2, provider, model, aware, trivial,
        trivial, ownProvider, ownModel, trivial, trivial, trivial⟩
    refine ⟨⟨_, accepted⟩, ?_, rfl⟩
    rw [RoutingDecision.fromExplanation, ← ownProvider, ← ownModel]
    exact RoutingDecision.modelValidate_ok accepted

end RoutingExplanation
end ModelPilot
