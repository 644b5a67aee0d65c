import ModelPilot.RequestLedger
import ModelPilot.ResponseIntegrity

/-! The calls of one request on the ledger: its attempt rows, then its log, then its
routing decision. What the store answers to them changes which rows are kept, and
nothing else of the request. -/
namespace ModelPilot.GatewayService
open CandidateCalls Prefixes ModelRouter

section Accepting
variable {service : GatewayService} {requestedModel requestId : String}
  {attempts : Nat → AttemptWorld}

/-- The attempts of a request, with a store that takes every row. -/
def acceptingAttempts (attempts : Nat → AttemptWorld) : Nat → AttemptWorld :=
  fun index => (attempts index).accepting

theorem invocation_accepting (service : GatewayService) (requestedModel requestId : String)
    (attempts : Nat → AttemptWorld) (position : Position) :
    (service.invocation requestedModel requestId (acceptingAttempts attempts) position).update =
        (service.invocation requestedModel requestId attempts position).update ∧
      (service.invocation requestedModel requestId (acceptingAttempts attempts) position).ended =
        (service.invocation requestedModel requestId attempts position).ended := by
  simp only [invocation, invokeCandidate, acceptingAttempts, AttemptWorld.accepting, callCandidate]
  split
  · split
    · exact ⟨rfl, rfl⟩
    · split <;> exact ⟨rfl, rfl⟩
  · exact ⟨rfl, rfl⟩

theorem next_accepting (position : Position) :
    service.next requestedModel requestId (acceptingAttempts attempts) position =
      service.next requestedModel requestId attempts position := by
  rw [next, next, (service.invocation_accepting requestedModel requestId attempts position).2]

theorem reached_accepting (positions : List Position) :
    service.reached requestedModel requestId (acceptingAttempts attempts) positions =
        service.reached requestedModel requestId attempts positions ∧
      positions.find? (service.stops requestedModel requestId (acceptingAttempts attempts)) =
        positions.find? (service.stops requestedModel requestId attempts) := by
  have stops : service.stops requestedModel requestId (acceptingAttempts attempts) =
      service.stops requestedModel requestId attempts := by
    funext position
    rw [GatewayService.stops, GatewayService.stops, next_accepting]
  rw [reached, reached, stops]
  exact ⟨rfl, rfl⟩

/-- The loop takes the same turns whatever its store answers. -/
theorem course_accepting (service : GatewayService) (requestedModel requestId : String)
    (attempts : Nat → AttemptWorld) (index : Nat) (ranked : List RankedCandidate) :
    (service.course requestedModel requestId (acceptingAttempts attempts) index ranked).attempts =
        (service.course requestedModel requestId attempts index ranked).attempts ∧
      (service.course requestedModel requestId (acceptingAttempts attempts) index ranked).updates =
        (service.course requestedModel requestId attempts index ranked).updates ∧
      (service.course requestedModel requestId (acceptingAttempts attempts) index ranked).ended =
        (service.course requestedModel requestId attempts index ranked).ended := by
  have log : service.logAt requestedModel requestId (acceptingAttempts attempts) =
      service.logAt requestedModel requestId attempts := by
    funext position
    rw [logAt, logAt, next_accepting,
      (service.invocation_accepting requestedModel requestId attempts position).2]
    rfl
  have update : service.updateAt requestedModel requestId (acceptingAttempts attempts) =
      service.updateAt requestedModel requestId attempts := by
    funext position
    rw [updateAt, updateAt,
      (service.invocation_accepting requestedModel requestId attempts position).1]
  have ended : service.endAt requestedModel requestId (acceptingAttempts attempts) =
      service.endAt requestedModel requestId attempts := by
    funext position
    rw [endAt, endAt, next_accepting]
  obtain ⟨reached, found⟩ :=
    @reached_accepting service requestedModel requestId attempts (ranked.zipIdx index)
  simp only [course_eq, log, update, ended, reached, found, and_self]

/-- The row of a call is kept when the store takes it. -/
theorem rowAt_accepting (service : GatewayService) (world : AttemptWorld) (requestId : String)
    (index : Nat) : service.rowAt world requestId index =
      if world.recordAttempt = none then service.rowAt world.accepting requestId index else [] := by
  simp only [rowAt, recordResult, AttemptWorld.accepting]
  split
  · simp only [recordProviderAttempt]
    split
    · simp
    · split
      · simp
      · cases world.recordAttempt <;> simp
  · simp

theorem rowAt_index {row : AttemptRecord} {world : AttemptWorld} {index : Nat}
    (member : row ∈ service.rowAt world requestId index) :
    row.requestId = requestId ∧ row.attemptIndex = index := by
  rcases service.rowAt_cases world requestId index with none | ⟨only, _, single, _, told⟩
  · rw [none] at member
    cases member
  · rw [single, List.mem_singleton] at member
    rw [member]
    exact ⟨congrArg (·.1) told, congrArg (·.2.1) told⟩

theorem rows_of_course (service : GatewayService) (requestedModel requestId : String)
    (attempts : Nat → AttemptWorld) (index : Nat) (ranked : List RankedCandidate) :
    (service.course requestedModel requestId attempts index ranked).effects.filterMap rowOf =
      ((service.reached requestedModel requestId attempts (ranked.zipIdx index)).filter
        (service.calledAt requestedModel attempts)).flatMap fun position =>
          service.rowAt (attempts position.2) requestId position.2 :=
  filterMap_course service requestedModel requestId attempts index ranked rowOf _
    fun position lease => rows_callCandidate service _ position.key requestId position.2 lease

/-- The rows that are kept are those the store takes. -/
theorem rows_accepting (service : GatewayService) (requestedModel requestId : String)
    (attempts : Nat → AttemptWorld) (index : Nat) (ranked : List RankedCandidate) :
    (service.course requestedModel requestId attempts index ranked).effects.filterMap rowOf =
      ((service.course requestedModel requestId (acceptingAttempts attempts) index
        ranked).effects.filterMap rowOf).filter fun row =>
          (attempts row.attemptIndex).recordAttempt.isNone := by
  rw [rows_of_course, rows_of_course, (reached_accepting _).1, List.filter_flatMap]
  refine List.flatMap_congr fun position _ => ?_
  rw [rowAt_accepting]
  cases answered : (attempts position.2).recordAttempt with
  | none =>
    rw [if_pos rfl]
    refine (List.filter_eq_self.mpr fun row member => ?_).symm
    rw [(rowAt_index member).2, answered]
    rfl
  | some error =>
    rw [if_neg nofun]
    refine (List.filter_eq_nil_iff.mpr fun row member => ?_).symm
    rw [(rowAt_index member).2, answered]
    exact Bool.false_ne_true

end Accepting

section Told
variable {service : GatewayService} {requestedModel requestId : String}
  {attempts : Nat → AttemptWorld}

/-- What a row and a log entry both tell of a call: whether it succeeded, and how long it
took. -/
def rowTells (row : AttemptRecord) : Bool × ℚ := (row.success, roundDigits 2 row.latencyMs)

def logTells (log : AttemptLog) : Bool × ℚ := (log.success, log.latencyMs)

theorem rowAt_tells {row : AttemptRecord} {world : AttemptWorld} {index : Nat}
    (member : row ∈ service.rowAt world requestId index) :
    ∃ outcome, world.result = .outcome outcome ∧
      rowTells row = (outcome.success, roundDigits 2 outcome.latencyMs) := by
  unfold rowAt recordResult at member
  split at member
  · rename_i outcome ended
    refine ⟨outcome, ended, ?_⟩
    unfold recordProviderAttempt at member
    split at member
    · cases member
    · dsimp only at member
      split at member
      · cases member
      · rename_i attempt built
        split at member
        · cases member
        · have same : row = attempt := List.mem_singleton.mp member
          subst same
          obtain ⟨_, _, validated⟩ := bind_ok_iff.mp built
          unfold AttemptRecord.modelValidate at validated
          split at validated
          · cases validated
            rfl
          · cases validated
  · cases member

theorem attemptLog_tells (service : GatewayService) (item : RankedCandidate)
    (world : AttemptWorld) (outcome : ProviderOutcome) (success : Bool) :
    logTells (service.attemptLog item world (.outcome outcome) success) =
      (success, roundDigits 2 outcome.latencyMs) := rfl

/-- A turn that lets the loop go on, or ends it with a response, has logged the row it
left. -/
theorem turn_tells (position : Position)
    (unbroken : (∃ response, service.next requestedModel requestId attempts position =
        .served response) ∨
      service.stops requestedModel requestId attempts position = false) :
    (((service.invocation requestedModel requestId attempts position).effects.filterMap
        rowOf).map rowTells).Sublist
      ((service.logAt requestedModel requestId attempts position).toList.map logTells) := by
  cases service.turn requestedModel requestId attempts position with
  | undecided _ _ invoked =>
    rw [invoked]
    exact List.nil_sublist _
  | refused _ _ _ _ invoked =>
    rw [invoked]
    exact List.nil_sublist _
  | called _ _ update lease _ invoked =>
    have rows : (service.invocation requestedModel requestId attempts position).effects.filterMap
        rowOf = service.rowAt (attempts position.2) requestId position.2 := by
      rw [invoked]
      exact rows_callCandidate service _ position.key requestId position.2 lease
    rw [rows]
    rcases service.rowAt_cases (attempts position.2) requestId position.2 with
      none | ⟨row, _, only, _⟩
    · rw [none]
      exact List.nil_sublist _
    · obtain ⟨outcome, ended, tells⟩ := rowAt_tells (only ▸ List.mem_singleton_self row)
      rw [only, List.map_singleton, tells]
      have last : (service.invocation requestedModel requestId attempts position).ended =
          .outcome outcome ∨
          (service.invocation requestedModel requestId attempts position).ended =
            .raised .overflow := by
        rw [invoked]
        rcases afterCall_cases service (attempts position.2) with ⟨_, kept⟩ | ⟨_, raised⟩
        · exact .inl (kept.trans ended)
        · exact .inr (by rw [raised])
      have step : service.next requestedModel requestId attempts position =
          nextStep (service.invocation requestedModel requestId attempts position).ended := rfl
      rcases last with kept | raised
      · rw [kept] at step
        unfold logAt
        rw [step, kept]
        rw [stops, step] at unbroken
        cases succeeded : outcome.success with
        | false => simp [nextStep, succeeded, attemptLog_tells]
        | true =>
          cases held : outcome.response with
          | none => simp [nextStep, succeeded, held, NextStep.continues] at unbroken
          | some response => simp [nextStep, succeeded, held, attemptLog_tells]
      · rw [raised] at step
        rw [stops, step] at unbroken
        simp [nextStep, NextStep.continues] at unbroken

theorem sublist_of_turns {positions : List Position}
    (turns : ∀ position ∈ positions,
      (((service.invocation requestedModel requestId attempts position).effects.filterMap
        rowOf).map rowTells).Sublist
        ((service.logAt requestedModel requestId attempts position).toList.map logTells)) :
    (((positions.flatMap fun position =>
        (service.invocation requestedModel requestId attempts position).effects).filterMap
        rowOf).map rowTells).Sublist
      ((positions.filterMap (service.logAt requestedModel requestId attempts)).map logTells) := by
  induction positions with
  | nil => exact .slnil
  | cons position rest ih =>
    obtain ⟨here, later⟩ := List.forall_mem_cons.mp turns
    have split : (position :: rest).filterMap (service.logAt requestedModel requestId attempts) =
        (service.logAt requestedModel requestId attempts position).toList ++
          rest.filterMap (service.logAt requestedModel requestId attempts) := by
      rw [List.filterMap_cons]
      cases service.logAt requestedModel requestId attempts position <;> rfl
    rw [List.flatMap_cons, List.filterMap_append, List.map_append, split, List.map_append]
    exact here.append (ih later)

/-- A turn that the loop passes logs a failure, if it logs anything. -/
theorem failed_of_passes {position : Position} {log : AttemptLog}
    (passes : service.stops requestedModel requestId attempts position = false)
    (logged : service.logAt requestedModel requestId attempts position = some log) :
    log.success = false := by
  unfold logAt at logged
  unfold stops at passes
  cases turned : service.next requestedModel requestId attempts position with
  | failed error =>
    rw [turned] at logged
    cases logged
    rfl
  | skipped =>
    rw [turned] at logged
    cases logged
  | _ =>
    rw [turned] at passes
    cases passes

/-- What the log of a loop tells when it was exhausted, or ended with a served candidate:
every row it left, failures, and the success that was served. -/
structure Logged (course : Course) (served : Option RankedCandidate) : Prop where
  rows : ((course.effects.filterMap rowOf).map rowTells).Sublist (course.attempts.map logTells)
  attempts : ∃ failures, (∀ log ∈ failures, log.success = false) ∧
    match served with
    | none => course.attempts = failures
    | some item => ∃ success, course.attempts = failures ++ [success] ∧
      success.success = true ∧
        success.key = item.candidate.key

theorem course_exhausted {index : Nat} {ranked : List RankedCandidate}
    (ended : (service.course requestedModel requestId attempts index ranked).ended = .exhausted) :
    Logged (service.course requestedModel requestId attempts index ranked) none := by
  rcases service.course_ended requestedModel requestId attempts index ranked with
    ⟨never, _⟩ | ⟨position, _, same, other⟩
  · have passes : ∀ position ∈ service.reached requestedModel requestId attempts
        (ranked.zipIdx index), service.stops requestedModel requestId attempts position = false :=
      fun position member => by
        simpa using List.find?_eq_none.mp never position (mem_of_mem_upTo member)
    rw [course_eq]
    refine ⟨sublist_of_turns fun position member => turn_tells position (.inr (passes _ member)),
      _, fun log member => ?_, rfl⟩
    obtain ⟨position, inside, logged⟩ := List.mem_filterMap.mp member
    exact failed_of_passes (passes position inside) logged
  · rw [ended] at same
    exact absurd same.symm other

theorem course_served {index : Nat} {ranked : List RankedCandidate} {item : RankedCandidate}
    {response : Payload}
    (ended : (service.course requestedModel requestId attempts index ranked).ended =
      .served item response) :
    Logged (service.course requestedModel requestId attempts index ranked) (some item) := by
  rcases service.course_ended requestedModel requestId attempts index ranked with
    ⟨_, same⟩ | ⟨position, found, same, _⟩
  · rw [ended] at same
    cases same
  · obtain ⟨own, next⟩ :=
      endAt_served service requestedModel requestId attempts (same.symm.trans ended)
    obtain ⟨passed, _, _, read, passes⟩ := upTo_of_find?_some found
    have scanned : service.reached requestedModel requestId attempts (ranked.zipIdx index) =
        passed ++ [position] := read
    have last : ∃ log, service.logAt requestedModel requestId attempts position = some log ∧
        log.success = true ∧ log.key = item.candidate.key := by
      rw [logAt, next, ← own]
      exact ⟨_, rfl, rfl, rfl⟩
    obtain ⟨log, logged, success, key⟩ := last
    rw [course_eq, scanned]
    refine ⟨sublist_of_turns fun other member => turn_tells other ?_,
      passed.filterMap (service.logAt requestedModel requestId attempts), fun entry member => ?_,
      log, ?_, success, key⟩
    · rcases List.mem_append.mp member with before | here
      · exact .inr (passes other before)
      · rw [List.mem_singleton.mp here]
        exact .inl ⟨response, next⟩
    · obtain ⟨turned, inside, made⟩ := List.mem_filterMap.mp member
      exact failed_of_passes (passes turned inside) made
    · rw [List.filterMap_append, List.filterMap_cons_some logged]
      rfl

end Told

section Ending
variable {float decimal : Rounding} {service : GatewayService}
  {request : ChatCompletionRequest float} {world : RequestWorld float}
  {routing : Option RoutingExplanation} {course : Course}

/-- The log of a request and the attempts it tells of. -/
structure LogOf (requestId : String) (course : Course) (served : Option RankedCandidate)
    (log : RequestLog) : Prop where
  requestId : log.requestId = requestId
  attempts : log.attempts = course.attempts
  success : log.success = served.isSome
  provider : log.selectedProvider = served.map (·.candidate.provider)
  model : log.selectedModel = served.map (·.candidate.model)

/-- The decision that goes with a log names the same request and the same served pair. -/
structure DecisionOf (log : RequestLog) (decision : RoutingDecision) : Prop where
  requestId : decision.requestId = log.requestId
  provider : decision.servedProvider = log.selectedProvider
  model : decision.servedModel = log.selectedModel

/-- The calls on the ledger that follow the loop: none, the log, or the log and then the
routing decision. -/
inductive Ending (requestId : String) (course : Course) : List LedgerCall → Prop where
  | silent : Ending requestId course []
  | logged {log : RequestLog} {served : Option RankedCandidate} (told : Logged course served)
      (about : LogOf requestId course served log) : Ending requestId course [.log log]
  | decided {log : RequestLog} {decision : RoutingDecision} {served : Option RankedCandidate}
      (told : Logged course served) (about : LogOf requestId course served log)
      (agrees : DecisionOf log decision) :
      Ending requestId course [.log log, .decision decision]

theorem withServedBy_fields {explanation final : RoutingExplanation} {provider model : String}
    (named : explanation.withServedBy provider model = .ok final) :
    final.requestId = explanation.requestId ∧ final.servedProvider = some provider ∧
      final.servedModel = some model := by
  obtain ⟨_, _, named⟩ := bind_ok_iff.mp named
  obtain ⟨_, _, named⟩ := bind_ok_iff.mp named
  obtain ⟨_, _, named⟩ := bind_ok_iff.mp named
  have fields := RoutingExplanation.toExplanationFields_of_validated named
  rw [fields]
  exact ⟨rfl, rfl, rfl⟩

theorem withHealthUpdates_fields {explanation updated : RoutingExplanation}
    {updates : Dict Key HealthEligibility}
    (changed : explanation.withHealthUpdates updates = .ok updated) :
    updated.requestId = explanation.requestId ∧
      updated.servedProvider = explanation.servedProvider ∧
      updated.servedModel = explanation.servedModel := by
  obtain ⟨_, _, changed⟩ := bind_ok_iff.mp changed
  have fields := RoutingExplanation.toExplanationFields_of_validated changed
  rw [fields]
  exact ⟨rfl, rfl, rfl⟩

theorem fromExplanation_fields {explanation : RoutingExplanation} {decision : RoutingDecision}
    (built : RoutingDecision.fromExplanation explanation = .ok decision) :
    decision.requestId = explanation.requestId ∧
      decision.servedProvider = explanation.servedProvider ∧
      decision.servedModel = explanation.servedModel := by
  unfold RoutingDecision.fromExplanation at built
  split at built
  · unfold RoutingDecision.modelValidate at built
    split at built
    · cases built
      exact ⟨rfl, rfl, rfl⟩
    · cases built
  · cases built

/-- The final explanation names the request, and the pair that served it. -/
theorem finalRouting_fields {explanation final : RoutingExplanation}
    {updates : List (Key × HealthEligibility)} {servedBy : Option Key}
    (unserved : explanation.servedProvider = none ∧ explanation.servedModel = none)
    (built : finalRouting (some explanation) updates servedBy = .ok (some final)) :
    final.requestId = explanation.requestId ∧ final.servedProvider = servedBy.map (·.1) ∧
      final.servedModel = servedBy.map (·.2) := by
  obtain ⟨updated, changed, built⟩ := bind_ok_iff.mp built
  obtain ⟨requestId, provider, model⟩ := withHealthUpdates_fields changed
  cases servedBy with
  | none =>
    cases built
    exact ⟨requestId, provider.trans unserved.1, model.trans unserved.2⟩
  | some pair =>
    obtain ⟨served, named, built⟩ := bind_ok_iff.mp built
    cases built
    obtain ⟨own, provider, model⟩ := withServedBy_fields named
    exact ⟨own.trans requestId, provider, model⟩

/-- The ranking of a request explains itself under the request's identifier, and names
nothing served. -/
theorem explanation_fields {ranked : List RankedCandidate} {explanation : RoutingExplanation}
    (ranks : service.router.rankWithExplanation decimal world.ranking request.model
      request.preferences world.requestId = .ok (ranked, some explanation)) :
    explanation.requestId = world.requestId ∧
      explanation.servedProvider = none ∧ explanation.servedModel = none := by
  obtain ⟨⟨_, evidence⟩, _, ranks⟩ := bind_ok_iff.mp ranks
  dsimp only at ranks
  split at ranks
  · cases ranks
  · obtain ⟨_, _, ranks⟩ := bind_ok_iff.mp ranks
    obtain ⟨built, validated, same⟩ := bind_ok_iff.mp ranks
    cases same
    have fields := RoutingExplanation.toExplanationFields_of_validated validated
    rw [fields]
    exact ⟨rfl, rfl, rfl⟩

/-- A decision that is recorded is the one its explanation gives. -/
theorem recordRoutingDecision_cases (service : GatewayService) (world : RequestWorld float)
    (explanation : RoutingExplanation) :
    service.recordRoutingDecision world explanation = [] ∨
    ∃ decision, RoutingDecision.fromExplanation explanation = .ok decision ∧
      service.recordRoutingDecision world explanation = [.decisionRecorded decision] := by
  unfold recordRoutingDecision
  split
  · exact .inl rfl
  · split
    · exact .inl rfl
    · rename_i decision built
      split
      · exact .inl rfl
      · exact .inr ⟨decision, built, rfl⟩

/-- The end of a served or exhausted loop. -/
theorem ending_of_log {log : RequestLog} {served : Option RankedCandidate}
    {updates : List (Key × HealthEligibility)} {final : Option RoutingExplanation}
    (told : Logged course served) (about : LogOf world.requestId course served log)
    (unserved : ∀ explanation ∈ routing, explanation.requestId = world.requestId ∧
      explanation.servedProvider = none ∧ explanation.servedModel = none)
    (built : finalRouting routing updates (served.map (·.candidate.key)) = .ok final) :
    Ending world.requestId course
      (.log log :: (final.elim [] (service.recordRoutingDecision world)).filterMap
        GatewayEffect.ledgerCall) := by
  cases final with
  | none => exact .logged told about
  | some final =>
    rcases service.recordRoutingDecision_cases world final with
      none | ⟨decision, made, recorded⟩
    · rw [Option.elim_some, none]
      exact .logged told about
    · rw [Option.elim_some, recorded]
      refine .decided told about ?_
      cases routing with
      | none => cases built
      | some explanation =>
        obtain ⟨own, without⟩ := unserved explanation rfl
        obtain ⟨finalId, finalProvider, finalModel⟩ := finalRouting_fields without built
        obtain ⟨requestId, provider, model⟩ := fromExplanation_fields made
        refine ⟨?_, ?_, ?_⟩
        · rw [requestId, finalId, own, about.requestId]
        · rw [provider, finalProvider, about.provider]
          cases served <;> rfl
        · rw [model, finalModel, about.model]
          cases served <;> rfl

/-- The extension of a response names the request, and tells what its log tells. -/
def Names (payload : Payload) (log : RequestLog) : Prop :=
  ∃ members provider model, payload.get? "modelpilot" = some (.obj members) ∧
    log.selectedProvider = some provider ∧ log.selectedModel = some model ∧
    DictEntries.lookup "request_id" members = some (.str log.requestId) ∧
    DictEntries.lookup "attempts" members = some (.int log.attempts.length) ∧
    DictEntries.lookup "served_by" members =
      some (.obj [("provider", .str provider), ("model", .str model)])

/-- How a request ends, by what follows its loop on the ledger. -/
inductive Concluded (requestId : String) (course : Course) :
    Completion → List LedgerCall → Prop where
  | returned {payload : Payload} {item : RankedCandidate} {log : RequestLog}
      {more : List LedgerCall} (about : LogOf requestId course (some item) log)
      (names : Names payload log) :
      Concluded requestId course (.returned payload) (.log log :: more)
  | failed {log : RequestLog} {more : List LedgerCall} (about : LogOf requestId course none log)
      (tried : log.attempts ≠ []) :
      Concluded requestId course (.allProvidersFailed requestId) (.log log :: more)
  | unavailable {routing : Option RoutingExplanation}
      (rows : course.effects.filterMap rowOf = []) :
      Concluded requestId course (.noProviderAvailable routing) []
  | raised {error : PyError} {ending : List LedgerCall} :
      Concluded requestId course (.raised error) ending
  | cancelled : Concluded requestId course .cancelled []

theorem names_of_extended {log : RequestLog} {item : RankedCandidate} {response payload : Payload}
    {final : Option RoutingExplanation} (about : LogOf world.requestId course (some item) log)
    (extended : extend response (service.extension world.requestId item course.attempts final) =
      .ok payload) : Names payload log := by
  have extensible : Extensible response := by
    by_contra fixed
    rw [extend_error _ fixed] at extended
    cases extended
  rw [extend_extensible extensible] at extended
  cases extended
  have shown {name : String} {value : Json} (present : DictEntries.lookup name
      (service.extension world.requestId item course.attempts final).reverse = some value) :
      DictEntries.lookup name ((service.extension world.requestId item course.attempts final).foldl
        (fun object member => DictEntries.insert member.1 member.2 object)
        (ownMembers response)) = some value := by
    rw [lookup_extension, present]
    rfl
  refine ⟨_, item.candidate.provider, item.candidate.model, Dict.get?_set_self _ _ _,
    about.provider, about.model, ?_, ?_, ?_⟩
  · rw [about.requestId]
    exact shown (by cases final <;> simp [extension, DictEntries.lookup])
  · rw [about.attempts]
    exact shown (by cases final <;> simp [extension, DictEntries.lookup])
  · exact shown (by cases final <;> simp [extension, DictEntries.lookup])

/-- On the way through its loop a request calls the ledger for its rows only. -/
theorem calls_of_course (service : GatewayService) (requestedModel requestId : String)
    (attempts : Nat → AttemptWorld) (index : Nat) (ranked : List RankedCandidate) :
    (service.course requestedModel requestId attempts index ranked).effects.filterMap
        GatewayEffect.ledgerCall =
      ((service.course requestedModel requestId attempts index ranked).effects.filterMap
        rowOf).map .attempt := by
  rw [rows_of_course, filterMap_course service requestedModel requestId attempts index ranked
    GatewayEffect.ledgerCall (fun position =>
      (service.rowAt (attempts position.2) requestId position.2).map .attempt),
    List.map_flatMap]
  intro position lease
  rw [filterMap_callCandidate]
  cases (afterCall service.health (attempts position.2).managerStore
    (attempts position.2).result).1 <;> cases lease <;> simp [GatewayEffect.ledgerCall]

theorem decisions_of_course (service : GatewayService) (requestedModel requestId : String)
    (attempts : Nat → AttemptWorld) (index : Nat) (ranked : List RankedCandidate) :
    (service.course requestedModel requestId attempts index ranked).effects.filterMap
      decisionOf = [] := by
  rw [filterMap_course service requestedModel requestId attempts index ranked decisionOf
    (fun _ => []) fun position lease =>
      decisions_callCandidate service _ position.key requestId position.2 lease]
  simp

/-- The rows of the loop, then its log, then its decision. -/
theorem calls_of_conclude {ranked : List RankedCandidate}
    (ranks : service.router.rankWithExplanation decimal world.ranking request.model
      request.preferences world.requestId = .ok (ranked, routing)) :
    ∃ ending, (service.conclude request world routing
        (courseOf service request world ranked)).effects.filterMap GatewayEffect.ledgerCall =
      ((courseOf service request world ranked).effects.filterMap rowOf).map .attempt ++ ending ∧
      Ending world.requestId (courseOf service request world ranked) ending ∧
      Concluded world.requestId (courseOf service request world ranked)
        (service.conclude request world routing
          (courseOf service request world ranked)).completion ending := by
  have unserved : ∀ explanation ∈ routing, explanation.requestId = world.requestId ∧
      explanation.servedProvider = none ∧ explanation.servedModel = none := by
    rintro explanation same
    cases same
    exact explanation_fields ranks
  have rows : (courseOf service request world ranked).effects.filterMap GatewayEffect.ledgerCall =
      ((courseOf service request world ranked).effects.filterMap rowOf).map .attempt :=
    service.calls_of_course request.model world.requestId world.attempts 0 ranked
  unfold conclude
  cases ended : (courseOf service request world ranked).ended with
  | escaped error => exact ⟨[], by simp [rows], .silent, .raised⟩
  | cancelled => exact ⟨[], by simp [rows], .silent, .cancelled⟩
  | served item response =>
    have told : Logged (courseOf service request world ranked) (some item) := course_served ended
    dsimp only
    cases built : finalRouting routing (courseOf service request world ranked).updates
        (some item.candidate.key) with
    | error error =>
      refine ⟨_, by rw [List.filterMap_append, rows]; rfl, .logged told ?_, .raised⟩
      exact ⟨rfl, rfl, rfl, rfl, rfl⟩
    | ok final =>
      refine ⟨_,
        by rw [List.filterMap_append, List.filterMap_append, rows, List.append_assoc]; rfl,
        ending_of_log told ?_ unserved built, ?_⟩
      · exact ⟨rfl, rfl, rfl, rfl, rfl⟩
      · dsimp only
        split
        · rename_i payload extended
          have about : LogOf world.requestId (courseOf service request world ranked) (some item)
              { requestId := world.requestId, requestedModel := request.model
                selectedProvider := some item.candidate.provider
                selectedModel := some item.candidate.model, success := true
                totalLatencyMs := roundDigits 2 world.elapsedMs
                attempts := (courseOf service request world ranked).attempts
                createdAt := world.createdAt } := ⟨rfl, rfl, rfl, rfl, rfl⟩
          exact .returned about (names_of_extended about extended)
        · exact .raised
  | exhausted =>
    have told : Logged (courseOf service request world ranked) none := course_exhausted ended
    dsimp only
    cases built : finalRouting routing (courseOf service request world ranked).updates none with
    | error error => exact ⟨[], by simp [rows], .silent, .raised⟩
    | ok final =>
      dsimp only
      split
      · rename_i empty
        refine ⟨[], by simp [rows], .silent, .unavailable ?_⟩
        have tells := told.rows
        rw [List.isEmpty_iff.mp empty, List.map_nil, List.sublist_nil] at tells
        exact List.map_eq_nil_iff.mp tells
      · rename_i tried
        refine ⟨_, by rw [List.filterMap_append, rows]; rfl,
          ending_of_log told ?_ unserved built, .failed ?_ ?_⟩
        · exact ⟨rfl, rfl, rfl, rfl, rfl⟩
        · exact ⟨rfl, rfl, rfl, rfl, rfl⟩
        · simpa using tried

end Ending
end ModelPilot.GatewayService

namespace ModelPilot.GatewayRequest
open GatewayService ModelRouter

variable {float : Rounding} (service : GatewayService) (decimal : Rounding)
  (served : GatewayRequest float)

/-- The calls of a request on the ledger: the rows of a loop under rising attempt
indices, and what follows the loop. -/
structure CallsOf (requestId : String) (calls : List LedgerCall) (course : GatewayService.Course)
    (ending : List LedgerCall) : Prop where
  calls : calls = (course.effects.filterMap rowOf).map .attempt ++ ending
  rising : ((course.effects.filterMap rowOf).map (·.attemptIndex)).Pairwise (· < ·)
  named : ∀ row ∈ course.effects.filterMap rowOf, row.requestId = requestId
  ending : Ending requestId course ending

theorem callsOf_silent (requestId : String) : CallsOf requestId [] { ended := .exhausted } [] :=
  ⟨rfl, .nil, List.forall_mem_nil _, .silent⟩

theorem calls_shape : ∃ course ending,
    CallsOf served.requestId (served.calls service decimal) course ending ∧
      Concluded served.requestId course (served.accepting.complete service decimal).completion
        ending := by
  unfold calls complete
  cases ranks : service.router.rankWithExplanation decimal served.accepting.world.ranking
      served.accepting.request.model served.accepting.request.preferences
      served.accepting.world.requestId with
  | error error =>
    refine ⟨{ ended := .exhausted }, [], ?_⟩
    rw [GatewayService.complete, ranks]
    exact ⟨callsOf_silent _, .raised⟩
  | ok result =>
    obtain ⟨ranked, routing⟩ := result
    by_cases empty : ranked = []
    · subst empty
      refine ⟨{ ended := .exhausted }, [], ?_⟩
      rw [complete_of_unranked _ ranks]
      exact ⟨callsOf_silent _, .unavailable rfl⟩
    · rw [complete_of_ranked _ ranks empty]
      obtain ⟨ending, calls, ends, concluded⟩ := calls_of_conclude ranks
      refine ⟨_, ending, ⟨calls, rows_increasing service served.accepting.request
        served.accepting.world ranked, fun row member => ?_, ends⟩, concluded⟩
      rw [rows_course] at member
      obtain ⟨position, _, inside⟩ := List.mem_flatMap.mp member
      exact (rowAt_index inside).1

/-- The decision of a request that its store answers with an exception is not there. -/
theorem recordRoutingDecision_accepting (explanation : RoutingExplanation) :
    service.recordRoutingDecision served.world explanation =
      if served.world.recordRoutingDecision = none then
        service.recordRoutingDecision served.accepting.world explanation
      else [] := by
  unfold recordRoutingDecision
  split
  · simp
  · split
    · simp
    · cases served.world.recordRoutingDecision <;> simp [accepting]

theorem decisions_of_conclude (routing : Option RoutingExplanation)
    {course other : GatewayService.Course}
    (quiet : course.effects.filterMap decisionOf = [])
    (also : other.effects.filterMap decisionOf = [])
    (attempts : other.attempts = course.attempts) (updates : other.updates = course.updates)
    (ended : other.ended = course.ended) :
    (service.conclude served.request served.world routing course).effects.filterMap decisionOf =
      if served.world.recordRoutingDecision = none then
        (service.conclude served.request served.accepting.world routing other).effects.filterMap
          decisionOf
      else [] := by
  have recorded : ∀ final : Option RoutingExplanation,
      final.elim [] (service.recordRoutingDecision served.world) =
        if served.world.recordRoutingDecision = none then
          final.elim [] (service.recordRoutingDecision served.accepting.world)
        else [] := by
    intro final
    cases final with
    | none => simp
    | some explanation => exact recordRoutingDecision_accepting service served explanation
  have unlogged : ∀ (log : RequestLog) (rest : List GatewayEffect),
      (.requestLogged log :: rest : List GatewayEffect).filterMap decisionOf =
        rest.filterMap decisionOf := fun _ _ => rfl
  simp only [conclude, attempts, updates, ended]
  cases course.ended with
  | escaped error => simp [quiet, also]
  | cancelled => simp [quiet, also]
  | served item response =>
    dsimp only
    cases finalRouting routing course.updates (some item.candidate.key) with
    | error error => simp [quiet, also, requestLog, unlogged]
    | ok final =>
      simp only [recorded]
      split <;> simp [quiet, also, requestLog, unlogged]
  | exhausted =>
    dsimp only
    cases finalRouting routing course.updates none with
    | error error => simp [quiet, also]
    | ok final =>
      simp only [recorded]
      split
      · simp [quiet, also]
      · split <;> simp [quiet, also, requestLog, unlogged]

/-- How the answers of its store change what a request leaves: a row or a decision is
there when the store took it. -/
structure Answered : Prop where
  completion : (served.complete service decimal).completion =
    (served.accepting.complete service decimal).completion
  rows : (served.complete service decimal).effects.filterMap rowOf =
    ((served.accepting.complete service decimal).effects.filterMap rowOf).filter fun row =>
      (served.world.attempts row.attemptIndex).recordAttempt.isNone
  decisions : (served.complete service decimal).effects.filterMap decisionOf =
    if served.world.recordRoutingDecision = none then
      (served.accepting.complete service decimal).effects.filterMap decisionOf
    else []

theorem answered : Answered service decimal served := by
  have model : served.accepting.request = served.request := rfl
  have ranking : served.accepting.world.ranking = served.world.ranking := rfl
  have named : served.accepting.world.requestId = served.world.requestId := rfl
  cases ranks : service.router.rankWithExplanation decimal served.world.ranking
      served.request.model served.request.preferences served.world.requestId with
  | error error =>
    have none : ∀ world : RequestWorld float, world.ranking = served.world.ranking →
        world.requestId = served.world.requestId →
        service.complete decimal served.request world = { completion := .raised error } := by
      intro world ranking named
      rw [GatewayService.complete, ranking, named, ranks]
    have left := none served.world rfl rfl
    have right := none served.accepting.world rfl rfl
    exact ⟨by rw [complete, complete, left, model, right],
      by rw [complete, complete, left, model, right]; rfl,
      by rw [complete, complete, left, model, right]; simp⟩
  | ok result =>
    obtain ⟨ranked, routing⟩ := result
    by_cases empty : ranked = []
    · subst empty
      have left := complete_of_unranked served.world ranks
      have right := complete_of_unranked served.accepting.world ranks
      exact ⟨by rw [complete, complete, left, model, right],
        by rw [complete, complete, left, model, right]; rfl,
        by rw [complete, complete, left, model, right]; simp⟩
    · have left := complete_of_ranked served.world ranks empty
      have right := complete_of_ranked served.accepting.world ranks empty
      obtain ⟨attempts, updates, ended⟩ := service.course_accepting served.request.model
        served.world.requestId served.world.attempts 0 ranked
      refine ⟨?_, ?_, ?_⟩
      · rw [complete, complete, left, model, right]
        exact completion_congr service served.request served.world served.accepting.world rfl
          routing attempts.symm updates.symm ended.symm
      · rw [complete, complete, left, model, right,
          filterMap_conclude _ _ _ _ _ (fun _ => rfl) fun _ => rfl,
          filterMap_conclude _ _ _ _ _ (fun _ => rfl) fun _ => rfl]
        exact service.rows_accepting served.request.model served.world.requestId
          served.world.attempts 0 ranked
      · rw [complete, complete, left, model, right]
        exact decisions_of_conclude service served routing
          (decisions_of_course service served.request.model served.world.requestId
            served.world.attempts 0 ranked)
          (decisions_of_course service served.request.model served.world.requestId
            served.accepting.world.attempts 0 ranked) attempts updates ended

end ModelPilot.GatewayRequest
