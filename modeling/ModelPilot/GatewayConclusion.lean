import ModelPilot.ExplanationProofs
import ModelPilot.GatewayCourse

/-! The end of a request: the extended response, the persisted explanation, and
that the loop's own calls and writes stay what they were. -/
namespace ModelPilot.GatewayService

section Extension
variable {response : Payload} {members : List (String × Json)}

/-- The response has no `modelpilot` member, or one that can be updated. -/
def Extensible (response : Payload) : Prop :=
  ∀ member, response.get? "modelpilot" = some member → ∃ previous, member = .obj previous

/-- The members under `modelpilot` that the response came with. -/
def ownMembers (response : Payload) : List (String × Json) :=
  match response.get? "modelpilot" with
  | some (.obj previous) => previous
  | _ => []

theorem extend_extensible (extensible : Extensible response) (members : List (String × Json)) :
    extend response members = .ok (response.set "modelpilot" (.obj (members.foldl
      (fun object member => DictEntries.insert member.1 member.2 object)
        (ownMembers response)))) := by
  unfold extend ownMembers
  dsimp only
  cases found : response.get? "modelpilot" with
  | none => rfl
  | some member =>
    obtain ⟨previous, rfl⟩ := extensible member found
    rfl

theorem extend_ok (members : List (String × Json)) (extensible : Extensible response) :
    ∃ payload previous, extend response members = .ok payload ∧
      payload.get? "modelpilot" = some (.obj (members.foldl
        (fun object member => DictEntries.insert member.1 member.2 object) previous)) ∧
      ∀ name, name ≠ "modelpilot" → payload.get? name = response.get? name :=
  ⟨_, ownMembers response, extend_extensible extensible members, Dict.get?_set_self _ _ _,
    fun _ other => Dict.get?_set_ne _ _ (Ne.symm other)⟩

theorem extend_error (members : List (String × Json)) (fixed : ¬ Extensible response) :
    extend response members = .error .attribute := by
  unfold extend
  dsimp only
  cases found : response.get? "modelpilot" with
  | none =>
    refine absurd (fun member present => ?_) fixed
    rw [found] at present
    cases present
  | some member =>
    cases member with
    | obj previous =>
      refine absurd (fun member present => ?_) fixed
      rw [found] at present
      cases present
      exact ⟨previous, rfl⟩
    | _ => rfl

end Extension

variable {float : Rounding} {service : GatewayService} {request : ChatCompletionRequest float}
  {world : RequestWorld float} {routing : Option RoutingExplanation} {course : Course}

/-- The loop of a request over its ranking. -/
def courseOf (service : GatewayService) (request : ChatCompletionRequest float)
    (world : RequestWorld float) (ranked : List RankedCandidate) : Course :=
  service.course request.model world.requestId world.attempts 0 ranked

/-- A request with a ranking runs its loop and concludes. -/
theorem complete_of_ranked {decimal : Rounding} (world : RequestWorld float)
    {ranked : List RankedCandidate}
    (ranks : service.router.rankWithExplanation decimal world.ranking request.model
      request.preferences world.requestId = .ok (ranked, routing)) (nonempty : ranked ≠ []) :
    service.complete decimal request world =
      service.conclude request world routing (courseOf service request world ranked) := by
  unfold complete
  rw [ranks]
  dsimp only
  rw [if_neg (by simpa using nonempty)]
  rfl

theorem complete_of_unranked {decimal : Rounding} (world : RequestWorld float)
    (ranks : service.router.rankWithExplanation decimal world.ranking request.model
      request.preferences world.requestId = .ok ([], routing)) :
    service.complete decimal request world = { completion := .noProviderAvailable routing } := by
  unfold complete
  rw [ranks]
  rfl

/-- What is persisted of an explanation with a selected candidate: itself, when
there is a store that works. -/
theorem recordRoutingDecision_eq (service : GatewayService) (world : RequestWorld float)
    {explanation : RoutingExplanation} (selected : explanation.selected ≠ none) :
    ∃ decision, decision.explanation = explanation ∧
      service.recordRoutingDecision world explanation =
        if service.metrics ∧ world.recordRoutingDecision = none then [.decisionRecorded decision]
        else [] := by
  obtain ⟨decision, built, same⟩ := explanation.fromExplanation_ok selected
  refine ⟨decision, same, ?_⟩
  rw [recordRoutingDecision, built]
  cases metrics : service.metrics <;> cases fault : world.recordRoutingDecision <;>
    simp [selected]

theorem recordRoutingDecision_decisions (service : GatewayService) (world : RequestWorld float)
    (explanation : RoutingExplanation) :
    ∃ decisions : List RoutingDecision,
      service.recordRoutingDecision world explanation = decisions.map .decisionRecorded := by
  by_cases selected : explanation.selected = none
  · exact ⟨[], by simp [recordRoutingDecision, selected]⟩
  · obtain ⟨decision, _, recorded⟩ := service.recordRoutingDecision_eq world selected
    rw [recorded]
    split
    · exact ⟨[decision], rfl⟩
    · exact ⟨[], rfl⟩

/-- The end of a request adds no call and no write of an attempt. -/
theorem filterMap_conclude (service : GatewayService) (request : ChatCompletionRequest float)
    (world : RequestWorld float) (routing : Option RoutingExplanation) (course : Course)
    {of : GatewayEffect → Option β} (unlogged : ∀ log, of (.requestLogged log) = none)
    (undecided : ∀ decision, of (.decisionRecorded decision) = none) :
    (service.conclude request world routing course).effects.filterMap of =
      course.effects.filterMap of := by
  have nothing : ∀ routing : Option RoutingExplanation,
      (routing.elim [] (service.recordRoutingDecision world)).filterMap of = [] := by
    intro routing
    cases routing with
    | none => rfl
    | some explanation =>
      obtain ⟨decisions, recorded⟩ := service.recordRoutingDecision_decisions world explanation
      rw [Option.elim_some, recorded, List.filterMap_map, List.filterMap_eq_nil_iff]
      exact fun decision _ => undecided decision
  unfold conclude
  cases course.ended with
  | escaped error => rfl
  | cancelled => rfl
  | served item response =>
    dsimp only
    cases finalRouting routing course.updates (some item.candidate.key) with
    | error error => simp [requestLog, unlogged]
    | ok routing => simp [requestLog, unlogged, nothing]
  | exhausted =>
    dsimp only
    cases finalRouting routing course.updates none with
    | error error => rfl
    | ok routing =>
      dsimp only
      split
      · rfl
      · simp [requestLog, unlogged, nothing]

/-- How a request ends depends on its loop, not on what its stores did. -/
theorem completion_congr (service : GatewayService) (request : ChatCompletionRequest float)
    (left right : RequestWorld float) {first second : Course}
    (same : left.requestId = right.requestId)
    (routing : Option RoutingExplanation) (attempts : first.attempts = second.attempts)
    (updates : first.updates = second.updates) (ended : first.ended = second.ended) :
    (service.conclude request left routing first).completion =
      (service.conclude request right routing second).completion := by
  simp only [conclude, ended, attempts, updates, same]
  cases second.ended with
  | escaped error => rfl
  | cancelled => rfl
  | served item response =>
    dsimp only
    cases finalRouting routing second.updates (some item.candidate.key) <;> rfl
  | exhausted =>
    dsimp only
    cases finalRouting routing second.updates none with
    | error error => rfl
    | ok routing =>
      dsimp only
      split <;> rfl

theorem attempts_conclude (service : GatewayService) (request : ChatCompletionRequest float)
    (world : RequestWorld float) (routing : Option RoutingExplanation) (course : Course) :
    (service.conclude request world routing course).attempts = course.attempts := by
  unfold conclude
  cases course.ended with
  | escaped error => rfl
  | cancelled => rfl
  | served item response =>
    dsimp only
    cases finalRouting routing course.updates (some item.candidate.key) <;> rfl
  | exhausted =>
    dsimp only
    cases finalRouting routing course.updates none with
    | error error => rfl
    | ok routing =>
      dsimp only
      split
      · rename_i none
        exact (List.isEmpty_iff.mp none).symm
      · rfl

end ModelPilot.GatewayService
