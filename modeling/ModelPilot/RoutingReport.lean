import ModelPilot.FallbackProtocol

/-! What an automatic request tells about its routing: the explanation it returns
is the one it persists, and both are true to what its loop did. -/
namespace ModelPilot.GatewayService
open Prefixes ModelRouter ExplanationFields RoutingExplanation

variable {float decimal : Rounding} {service : GatewayService}
  {request : ChatCompletionRequest float} {world : RequestWorld float}
  {ranked : List RankedCandidate} {explanation final : RoutingExplanation}

theorem decisions_course (service : GatewayService) (requestedModel requestId : String)
    (attempts : Nat → AttemptWorld) (index : Nat) (ranked : List RankedCandidate) :
    (service.course requestedModel requestId attempts index ranked).effects.filterMap
      decisionOf = [] := by
  rw [filterMap_course service requestedModel requestId attempts index ranked decisionOf
    (fun _ => []) fun position lease =>
      decisions_callCandidate service _ position.key requestId position.2 lease]
  simp

/-- The final explanation of a request: it is built, it is faithful, it is what
is persisted, and it is what a response carries. -/
structure Reports (service : GatewayService) (request : ChatCompletionRequest float)
    (world : RequestWorld float) (ranked : List RankedCandidate)
    (explanation final : RoutingExplanation) (servedBy : Option Key) (completed : Completed) :
    Prop where
  built : finalRouting (some explanation) (courseOf service request world ranked).updates
    servedBy = .ok (some final)
  faithful : Faithful service request world ranked final servedBy
  persisted : (completed.effects.filterMap decisionOf).map (·.explanation) =
    if service.metrics ∧ world.recordRoutingDecision = none then [final] else []
  returned : ∀ payload, completed.completion = .returned payload → ∃ members,
    payload.get? "modelpilot" = some (.obj members) ∧
      DictEntries.lookup "routing" members = some (service.modelDump final)

/-- What a request reports, by how its loop ended: a loop that was broken off
neither persists nor returns an explanation. -/
def ReportsEnd (service : GatewayService) (request : ChatCompletionRequest float)
    (world : RequestWorld float) (ranked : List RankedCandidate)
    (explanation : RoutingExplanation) (completed : Completed) : LoopEnd → Prop
  | .served item _ => ∃ final, Reports service request world ranked explanation final
      (some item.candidate.key) completed
  | .exhausted => ∃ final, Reports service request world ranked explanation final none completed
  | _ => completed.effects.filterMap decisionOf = [] ∧
      ∀ payload, completed.completion ≠ .returned payload

/-- An explanation with a ranked candidate is what a working store gets. -/
theorem persisted_eq (service : GatewayService) (world : RequestWorld float)
    (selected : final.selected = final.candidates.head?) (ranked : final.candidates ≠ []) :
    ((service.recordRoutingDecision world final).filterMap decisionOf).map (·.explanation) =
      if service.metrics ∧ world.recordRoutingDecision = none then [final] else [] := by
  have chosen : final.selected ≠ none := by
    rw [selected]
    simpa using ranked
  obtain ⟨decision, same, recorded⟩ := service.recordRoutingDecision_eq world chosen
  rw [recorded]
  split
  · simp [decisionOf, same]
  · rfl

theorem reports_served (routed : Automatic service request world ranked explanation)
    {item : RankedCandidate} {response : Payload}
    (ended : (courseOf service request world ranked).ended = .served item response) :
    ∃ final, Reports service request world ranked explanation final (some item.candidate.key)
      (service.conclude request world (some explanation)
        (courseOf service request world ranked)) := by
  obtain ⟨final, built, faithful⟩ := finalRouting_served routed ended
  obtain ⟨before, signal, later, list, _⟩ := faithful.served _ rfl
  have nonempty : final.candidates ≠ [] := by
    rw [list]
    simp
  refine ⟨final, built, faithful, ?_, fun payload returned => ?_⟩
  · rw [conclude, ended]
    simp only [built, List.filterMap_append, List.map_append, Option.elim_some]
    rw [persisted_eq service world faithful.selected nonempty]
    simp [courseOf, decisions_course, requestLog, decisionOf]
  · rw [conclude, ended] at returned
    simp only [built] at returned
    by_cases extensible : Extensible response
    · obtain ⟨extended, previous, ok, member, _⟩ := extend_ok (service.extension world.requestId
        item (courseOf service request world ranked).attempts (some final)) extensible
      rw [ok] at returned
      cases returned
      refine ⟨_, member, ?_⟩
      rw [extension, List.foldl_append]
      exact (DictEntries.lookup_insert _ _ _ _).trans (if_pos rfl)
    · rw [extend_error _ extensible] at returned
      cases returned

/-- Once a candidate was called, the final explanation ranks one. -/
theorem candidates_of_called (routed : Automatic service request world ranked explanation)
    (faithful : Faithful service request world ranked final servedBy)
    (called : (courseOf service request world ranked).effects.filterMap callOf ≠ []) :
    final.candidates ≠ [] := by
  obtain ⟨⟨key, index⟩, call⟩ := List.exists_mem_of_ne_nil _ called
  have listed : key ∈ ranked.map (·.candidate.key) := by
    rw [courseOf, calls_course] at call
    obtain ⟨position, member, same⟩ := List.mem_map.mp call
    cases same
    rw [← zipIdx_keys 0]
    exact List.mem_map_of_mem (mem_of_mem_upTo (List.mem_filter.mp member).1)
  have configured := mem_available_keys service.router "auto" key
  simp only [ne_eq, not_true_eq_false, false_implies, true_and] at configured
  have inside := (faithful.complete key).mpr (configured.mp ((routed.ranked_iff key).mp listed).1)
  rcases List.mem_append.mp inside with ranks | excluded
  · rintro empty
    rw [empty] at ranks
    cases ranks
  · exact absurd call (faithful.uncalled key excluded index)

theorem reports_exhausted (routed : Automatic service request world ranked explanation)
    (ended : (courseOf service request world ranked).ended = .exhausted)
    (called : (courseOf service request world ranked).effects.filterMap callOf ≠ []) :
    ∃ final, Reports service request world ranked explanation final none
      (service.conclude request world (some explanation)
        (courseOf service request world ranked)) := by
  obtain ⟨final, built, faithful⟩ := finalRouting_exhausted routed ended
  have nonempty := candidates_of_called routed faithful called
  obtain ⟨signal, member⟩ := List.exists_mem_of_ne_nil _ nonempty
  obtain ⟨_, log, attempted, _⟩ := faithful.unserved rfl signal member
  have attempts : (courseOf service request world ranked).attempts.isEmpty = false := by
    rw [List.isEmpty_eq_false_iff]
    exact List.ne_nil_of_mem attempted
  refine ⟨final, built, faithful, ?_, fun payload returned => ?_⟩
  · rw [conclude, ended]
    simp only [built, attempts, Option.elim_some]
    rw [if_neg (by simp), ← persisted_eq service world faithful.selected nonempty,
      List.filterMap_append, courseOf, decisions_course, List.nil_append,
      List.filterMap_cons_none rfl]
  · rw [conclude, ended] at returned
    simp only [built, attempts] at returned
    cases returned

/-- Every automatic request that calls a provider builds its final explanation,
which is faithful to its loop, and persists and returns only that one. -/
theorem explanation_is_faithful (service : GatewayService) (decimal : Rounding)
    (request : ChatCompletionRequest float) (world : RequestWorld float)
    (auto : request.model = "auto")
    (foreign : ∀ index, (world.attempts index).result ≠ .raised .candidateUnavailable)
    (called : (service.complete decimal request world).effects.filterMap callOf ≠ []) :
    ∃ ranked explanation,
      service.router.rankWithExplanation decimal world.ranking request.model
        request.preferences world.requestId = .ok (ranked, some explanation) ∧
      ReportsEnd service request world ranked explanation
        (service.complete decimal request world)
        (courseOf service request world ranked).ended := by
  cases ranks : service.router.rankWithExplanation decimal world.ranking request.model
      request.preferences world.requestId with
  | error error =>
    rw [complete, ranks] at called
    exact absurd rfl called
  | ok result =>
    obtain ⟨ranked, routing⟩ := result
    obtain ⟨_, explained⟩ := rankWithExplanation_ok ranks
    rw [if_pos auto] at explained
    obtain ⟨explanation, rfl, _⟩ := explained
    refine ⟨ranked, explanation, rfl, ?_⟩
    have nonempty : ranked ≠ [] := by
      rintro rfl
      rw [complete_of_unranked world ranks] at called
      exact absurd rfl called
    have concluded := complete_of_ranked world ranks nonempty
    rw [concluded] at called ⊢
    have calls : (courseOf service request world ranked).effects.filterMap callOf ≠ [] := by
      rwa [filterMap_conclude service request world _ _ (fun _ => rfl) fun _ => rfl] at called
    cases ended : (courseOf service request world ranked).ended with
    | served item response =>
      have decided := decides_of_ended (.inl ⟨item, response, ended⟩)
      exact reports_served (automatic_of_ranked auto ranks decided foreign) ended
    | exhausted =>
      have decided := decides_of_ended (.inr ended)
      exact reports_exhausted (automatic_of_ranked auto ranks decided foreign) ended calls
    | escaped error =>
      rw [conclude, ended]
      exact ⟨by simp [courseOf, decisions_course], by simp⟩
    | cancelled =>
      rw [conclude, ended]
      exact ⟨by simp [courseOf, decisions_course], by simp⟩

/-- A gateway with one candidate and no store. -/
def soleGateway : GatewayService where
  router :=
    { providers := Dict.ofList [("p", true)]
      candidates := twoCandidateGateway.router.candidates.take 1 }
  probes := true
  sanitizeErrorMessage := id
  modelDump := fun explanation => .str explanation.requestId

def qualityRequest : ChatCompletionRequest .exact where
  preferences := explicitRequest.preferences

/-- Every call is answered with an empty payload. -/
def answeringWorld : RequestWorld .exact where
  uuidHex := "0"
  ranking := { now := .utc 0 }
  attempts := fun _ =>
    { reading := .utc 0, result := .legacy .empty, managerStore := fun _ => ⟨.ok none, none⟩ }

private theorem mixed_scores {quality : ℚ} (low : 0 ≤ quality) (high : quality ≤ 1) :
    Rounding.InUnit quality ∧ Rounding.InUnit 1 ∧ Rounding.InUnit 1 ∧ Rounding.InUnit 1 :=
  have one : Rounding.InUnit 1 := ⟨zero_le_one, le_rfl⟩
  ⟨⟨low, high⟩, one, one, one⟩

private theorem a_scores : Rounding.InUnit 1 ∧ Rounding.InUnit 1 ∧ Rounding.InUnit 1 ∧
    Rounding.InUnit 1 := mixed_scores (by norm_num) (by norm_num)

private theorem b_scores : Rounding.InUnit (3 / 4) ∧ Rounding.InUnit 1 ∧ Rounding.InUnit 1 ∧
    Rounding.InUnit 1 := mixed_scores (by norm_num) (by norm_num)

private theorem c_scores : Rounding.InUnit (1 / 2) ∧ Rounding.InUnit 1 ∧ Rounding.InUnit 1 ∧
    Rounding.InUnit 1 := mixed_scores (by norm_num) (by norm_num)

private theorem d_scores : Rounding.InUnit (1 / 4) ∧ Rounding.InUnit 1 ∧ Rounding.InUnit 1 ∧
    Rounding.InUnit 1 := mixed_scores (by norm_num) (by norm_num)

/-- A gateway with four candidates, best first. -/
def mixedGateway : GatewayService where
  router :=
    { providers := Dict.ofList [("a", true), ("b", true), ("c", true), ("d", true)]
      candidates := [⟨"a", "n", 1, 1, 1, 1, a_scores⟩,
        ⟨"b", "n", 3 / 4, 1, 1, 1, b_scores⟩,
        ⟨"c", "n", 1 / 2, 1, 1, 1, c_scores⟩,
        ⟨"d", "n", 1 / 4, 1, 1, 1, d_scores⟩] }
  metrics := true
  probes := true
  sanitizeErrorMessage := id
  modelDump := fun explanation => .str explanation.requestId

/-- A health store in which the circuits of the providers are open until 60. -/
def openFor (providers : List String) (key : Key) : Except PyError (Option ProviderHealth) :=
  if key.1 ∈ providers then
    (ProviderHealth.modelValidate
      { provider := key.1, model := key.2, state := .opened, consecutiveFailures := 3
        openedAt := some 0, cooldownUntil := some 60, lastFailureAt := some 0
        updatedAt := 0 }).map some
  else .ok none

/-- The first circuit is open when the candidates are ranked, the second one when it is
admitted; the third call fails and the fourth is answered. -/
def mixedWorld : RequestWorld .exact where
  uuidHex := "0"
  ranking := { now := .utc 10, healthStore := some (openFor ["a"]) }
  attempts := fun index =>
    { reading := .utc 20
      healthStore := some (openFor ["a", "b"])
      result := if index = 1 then .raised (.providerError "down") else .legacy .empty
      managerStore := fun _ => ⟨.ok none, none⟩ }

private def servedKey : LoopEnd → Option Key
  | .served item _ => some item.candidate.key
  | _ => none

theorem mixed_candidates_reported :
    ∃ ranked explanation final,
      mixedGateway.router.rankWithExplanation .exact mixedWorld.ranking qualityRequest.model
        qualityRequest.preferences mixedWorld.requestId = .ok (ranked, some explanation) ∧
      Reports mixedGateway qualityRequest mixedWorld ranked explanation final (some ("d", "n"))
        (mixedGateway.complete .exact qualityRequest mixedWorld) ∧
      (mixedGateway.complete .exact qualityRequest mixedWorld).effects.filterMap callOf =
        [(("c", "n"), 1), (("d", "n"), 2)] := by
  have calls : (mixedGateway.complete .exact qualityRequest mixedWorld).effects.filterMap
      callOf = [(("c", "n"), 1), (("d", "n"), 2)] := by decide +kernel
  have foreign (index : Nat) :
      (mixedWorld.attempts index).result ≠ .raised .candidateUnavailable := by
    dsimp only [mixedWorld]
    split <;> simp
  obtain ⟨ranked, explanation, ranks, reports⟩ := explanation_is_faithful mixedGateway .exact
    qualityRequest mixedWorld rfl foreign (by simp [calls])
  have served : (mixedGateway.router.rankWithExplanation .exact mixedWorld.ranking
      qualityRequest.model qualityRequest.preferences mixedWorld.requestId).toOption.map
        (fun result => servedKey (courseOf mixedGateway qualityRequest mixedWorld
          result.1).ended) = some (some ("d", "n")) := by decide +kernel
  rw [ranks] at served
  cases ended : (courseOf mixedGateway qualityRequest mixedWorld ranked).ended with
  | served item response =>
    rw [ended] at reports
    obtain ⟨final, reported⟩ := reports
    have key : item.candidate.key = ("d", "n") := by
      simpa [Except.toOption, ended, servedKey] using served
    exact ⟨ranked, explanation, final, ranks, key ▸ reported, calls⟩
  | _ => simp [Except.toOption, ended, servedKey] at served

end ModelPilot.GatewayService
