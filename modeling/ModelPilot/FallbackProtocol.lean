import ModelPilot.AttemptRows
import ModelPilot.FaithfulExplanation

/-! The fallback protocol of a request: which candidates it calls, what it logs
and records of them, and what it returns or raises in the end. -/
namespace ModelPilot.GatewayService
open CandidateCalls Prefixes ModelRouter

variable {float decimal : Rounding} {service : GatewayService}
  {request : ChatCompletionRequest float} {world : RequestWorld float}
  {ranked : List RankedCandidate} {routing : Option RoutingExplanation}

/-- The candidate at the position is called and answers with a response. -/
def succeeds (service : GatewayService) (requestedModel : String) (attempts : Nat → AttemptWorld)
    (position : Position) : Bool :=
  (service.successAt requestedModel attempts position).isSome

/-- The ranking up to its first success. -/
def scanned (service : GatewayService) (request : ChatCompletionRequest float)
    (world : RequestWorld float) (ranked : List RankedCandidate) : List Position :=
  upTo (service.succeeds request.model world.attempts) ranked.zipIdx

/-- The admitted candidates of that part of the ranking. -/
def tried (service : GatewayService) (request : ChatCompletionRequest float)
    (world : RequestWorld float) (ranked : List RankedCandidate) : List Position :=
  (service.scanned request world ranked).filter (service.calledAt request.model world.attempts)

/-- The first successful response of the ranking. -/
def firstSuccess (service : GatewayService) (request : ChatCompletionRequest float)
    (world : RequestWorld float) (ranked : List RankedCandidate) : Option Payload :=
  (ranked.zipIdx.find? (service.succeeds request.model world.attempts)).bind
    (service.successAt request.model world.attempts)

/-- The metrics store takes every attempt row. -/
def Recording (service : GatewayService) (world : RequestWorld float) : Prop :=
  service.metrics = true ∧ ∀ index, (world.attempts index).recordAttempt = none

/-- What a request does with its ranking, told by its calls, its request log, its
attempt rows and its end. -/
structure FallbackProtocol (service : GatewayService) (request : ChatCompletionRequest float)
    (world : RequestWorld float) (ranked : List RankedCandidate) (completed : Completed) :
    Prop where
  calls : completed.effects.filterMap callOf =
    (service.tried request world ranked).map fun position => (position.key, position.2)
  distinct : ((completed.effects.filterMap callOf).map Prod.fst).Nodup
  returned : (∃ payload, completed.completion = .returned payload) ↔
    (service.firstSuccess request world ranked).isSome
  first : ∀ payload, completed.completion = .returned payload → ∃ response,
    service.firstSuccess request world ranked = some response ∧
      ∀ name, name ≠ "modelpilot" → payload.get? name = response.get? name
  failed : (∃ requestId, completed.completion = .allProvidersFailed requestId) ↔
    completed.effects.filterMap callOf ≠ [] ∧ service.firstSuccess request world ranked = none
  unavailable : (∃ routing, completed.completion = .noProviderAvailable routing) ↔
    completed.effects.filterMap callOf = []
  attempts : completed.attempts.map (·.key) = (completed.effects.filterMap callOf).map Prod.fst
  succeeded : ∀ log ∈ completed.attempts.dropLast, log.success = false
  rows : Recording service world → (completed.effects.filterMap rowOf).map (·.about) =
    (service.tried request world ranked).filterMap fun position =>
      (outcome? (world.attempts position.2).result).map fun outcome =>
        (world.requestId, position.2, outcome.key, outcome.success)
  increasing : ((completed.effects.filterMap rowOf).map (·.attemptIndex)).Pairwise (· < ·)

/-- A request that keeps to the protocol raises none but the gateway's own
exceptions. -/
theorem FallbackProtocol.unraised {completed : Completed}
    (protocol : FallbackProtocol service request world ranked completed) (error : PyError) :
    completed.completion ≠ .raised error := by
  intro raised
  have returned := protocol.returned
  have failed := protocol.failed
  have unavailable := protocol.unavailable
  rw [raised] at returned failed unavailable
  cases first : service.firstSuccess request world ranked <;>
    simp_all

/-- What keeps a request to the protocol: no cooldown after one of its calls ends
beyond the datetime range, the response it serves can be extended, and with a
working store no cost leaves the range of `Decimal`. -/
structure Unhindered (service : GatewayService) (request : ChatCompletionRequest float)
    (world : RequestWorld float) (ranked : List RankedCandidate) : Prop where
  updates : ∀ position ∈ service.tried request world ranked,
    ¬ CooldownOverflows service (world.attempts position.2)
  extensible : ∀ response, service.firstSuccess request world ranked = some response →
    Extensible response
  costs : Recording service world → ∀ position ∈ service.tried request world ranked,
    ¬ CostOverflows (world.attempts position.2)

/-- What the request can count on: its admissions come to a verdict, and its
providers answer. -/
structure Answered (service : GatewayService) (request : ChatCompletionRequest float)
    (world : RequestWorld float) : Prop where
  decided : ∀ index, service.Decides request.model (world.attempts index)
  answers : ∀ index, Answers (world.attempts index).result

theorem called_of_succeeds {requestedModel : String} {attempts : Nat → AttemptWorld}
    {position : Position} (succeeded : service.succeeds requestedModel attempts position = true) :
    service.calledAt requestedModel attempts position = true := by
  unfold succeeds successAt at succeeded
  by_contra denied
  rw [if_neg denied] at succeeded
  cases succeeded

/-- The first success is one of the candidates tried. -/
theorem mem_tried_of_first {position : Position}
    (found : ranked.zipIdx.find? (service.succeeds request.model world.attempts) =
      some position) : position ∈ service.tried request world ranked := by
  exact List.mem_filter.mpr ⟨mem_upTo_of_find? found, called_of_succeeds (List.find?_some found)⟩

theorem tried_ne_nil {response : Payload}
    (first : service.firstSuccess request world ranked = some response) :
    service.tried request world ranked ≠ [] := by
  obtain ⟨position, found, _⟩ := Option.bind_eq_some_iff.mp first
  exact List.ne_nil_of_mem (mem_tried_of_first found)

section Scan
variable (answered : Answered service request world)
include answered

/-- Only a success settles the loop. -/
theorem settlesAt_eq : service.settlesAt request.model world.attempts =
    service.succeeds request.model world.attempts := by
  funext position
  rw [settlesAt, succeeds, successAt]
  cases service.calledAt request.model world.attempts position with
  | false => simp [answered.decided position.2]
  | true =>
    have answer := nextStep_answer (answered.answers position.2)
    cases given : response? (world.attempts position.2).result with
    | some response =>
      rw [given] at answer
      simp [answer, NextStep.continues]
    | none =>
      rw [given] at answer
      obtain ⟨error, failed⟩ := answer
      simp [failed, NextStep.continues]

/-- Without an overflow the loop reads the ranking up to its first success. -/
theorem reached_eq
    (contained : ∀ position ∈ service.tried request world ranked,
      ¬ CooldownOverflows service (world.attempts position.2)) :
    service.reached request.model world.requestId world.attempts ranked.zipIdx =
        service.scanned request world ranked ∧
      ranked.zipIdx.find? (service.stops request.model world.requestId world.attempts) =
        ranked.zipIdx.find? (service.succeeds request.model world.attempts) := by
  have free : ∀ position ∈ upTo (service.settlesAt request.model world.attempts) ranked.zipIdx,
      ¬ service.OverflowsAt request.model world.attempts position := by
    rintro position member ⟨called, overflows⟩
    rw [settlesAt_eq answered] at member
    exact contained position (List.mem_filter.mpr ⟨member, called⟩) overflows
  have same := reached_of_contained world.requestId _ free
  rwa [settlesAt_eq answered] at same

/-- An overflow on the way to the first success ends the loop with it. -/
theorem ended_of_overflow {position : Position}
    (member : position ∈ service.tried request world ranked)
    (overflows : CooldownOverflows service (world.attempts position.2)) :
    (courseOf service request world ranked).ended = .escaped .overflow := by
  obtain ⟨inside, called⟩ := List.mem_filter.mp member
  rw [scanned, ← settlesAt_eq answered] at inside
  obtain ⟨_, _, _, ended⟩ := course_of_overflow world.requestId _ inside ⟨called, overflows⟩
  exact ended

/-- Otherwise the loop serves the first success, or exhausts the ranking. -/
theorem ended_of_contained
    (contained : ∀ position ∈ service.tried request world ranked,
      ¬ CooldownOverflows service (world.attempts position.2)) :
    (service.firstSuccess request world ranked = none ∧
      (courseOf service request world ranked).ended = .exhausted) ∨
    ∃ item response, service.firstSuccess request world ranked = some response ∧
      (courseOf service request world ranked).ended = .served item response := by
  have same := (reached_eq answered contained).2
  rcases service.course_ended request.model world.requestId world.attempts 0 ranked with
    ⟨never, ended⟩ | ⟨position, found, ended, _⟩
  · rw [same] at never
    exact .inl ⟨by rw [firstSuccess, never]; rfl, ended⟩
  · rw [same] at found
    have succeeded := List.find?_some found
    obtain ⟨response, given⟩ := Option.isSome_iff_exists.mp succeeded
    refine .inr ⟨position.1, response, by rw [firstSuccess, found]; exact given, ?_⟩
    have allowed := called_of_succeeds succeeded
    have contained := contained position (mem_tried_of_first found)
    rw [successAt, if_pos allowed] at given
    rw [courseOf, ended, endAt]
    cases service.turn_outcome request.model world.requestId world.attempts position
        (foreign_of_answers (answered.answers position.2)) with
    | served _ _ other succeeded next =>
      rw [succeeded] at given
      cases given
      rw [next]
    | skipped denied =>
      rw [denied] at allowed
      cases allowed
    | overflowed _ overflows => exact absurd overflows contained
    | failed _ _ unanswered =>
      rw [unanswered] at given
      cases given
    | broken fault =>
      rcases fault with naive | unanswerable
      · exact absurd (answered.decided position.2) naive
      · exact absurd (answered.answers position.2) unanswerable

end Scan

section Records

private theorem filterMap_guarded (guard : α → Bool) (value : α → β) (items : List α) :
    items.filterMap (fun item => if guard item then some (value item) else none) =
      (items.filter guard).map value := by
  induction items with
  | nil => rfl
  | cons item rest ih => cases held : guard item <;> simp [held, ih]

/-- The request log tells the calls in order and which of them succeeded. -/
theorem attempts_eq (answered : Answered service request world)
    (contained : ∀ position ∈ service.tried request world ranked,
      ¬ CooldownOverflows service (world.attempts position.2)) :
    (courseOf service request world ranked).attempts.map (fun log => (log.key, log.success)) =
      (service.tried request world ranked).map fun position =>
        (position.key, service.succeeds request.model world.attempts position) := by
  rw [courseOf, course_eq]
  dsimp only
  rw [(reached_eq answered contained).1, List.map_filterMap, tried, ← filterMap_guarded]
  refine List.filterMap_congr fun position member => ?_
  exact logAt_eq (answered.decided position.2) (answered.answers position.2) fun called =>
    contained position (List.mem_filter.mpr ⟨member, called⟩)

/-- Only the last candidate tried can be a success. -/
theorem passes_of_mem_dropLast {position : Position}
    (member : position ∈ (service.tried request world ranked).dropLast) :
    service.succeeds request.model world.attempts position = false := by
  cases found : ranked.zipIdx.find? (service.succeeds request.model world.attempts) with
  | none =>
    have inside := mem_of_mem_upTo (List.mem_filter.mp (List.mem_of_mem_dropLast member)).1
    simpa using List.find?_eq_none.mp found position inside
  | some first =>
    obtain ⟨passed, _, _, read, passes⟩ := upTo_of_find?_some found
    have called := called_of_succeeds (List.find?_some found)
    rw [tried, scanned, read, List.filter_append, List.filter_cons_of_pos called,
      List.filter_nil, List.dropLast_concat] at member
    exact passes position (List.mem_filter.mp member).1

theorem rows_course (service : GatewayService) (request : ChatCompletionRequest float)
    (world : RequestWorld float) (ranked : List RankedCandidate) :
    (courseOf service request world ranked).effects.filterMap rowOf =
      ((service.reached request.model world.requestId world.attempts ranked.zipIdx).filter
        (service.calledAt request.model world.attempts)).flatMap fun position =>
          service.rowAt (world.attempts position.2) world.requestId position.2 :=
  filterMap_course service request.model world.requestId world.attempts 0 ranked rowOf _
    fun position lease => rows_callCandidate service _ position.key world.requestId position.2 lease

/-- Row by row the attempt index goes up. -/
theorem rows_increasing (service : GatewayService) (request : ChatCompletionRequest float)
    (world : RequestWorld float) (ranked : List RankedCandidate) :
    (((courseOf service request world ranked).effects.filterMap rowOf).map
      (·.attemptIndex)).Pairwise (· < ·) := by
  have indices : ∀ positions : List Position, ((positions.flatMap fun position =>
      service.rowAt (world.attempts position.2) world.requestId position.2).map
        (·.attemptIndex)).Sublist (positions.map Prod.snd) := by
    intro positions
    induction positions with
    | nil => exact .slnil
    | cons position rest ih =>
      rw [List.flatMap_cons, List.map_append, List.map_cons]
      rcases service.rowAt_cases (world.attempts position.2) world.requestId position.2 with
        none | ⟨row, outcome, only, _, told⟩
      · rw [none]
        exact ih.cons _
      · have index : row.attemptIndex = position.2 := congrArg (·.2.1) told
        rw [only, List.map_singleton, index]
        exact ih.cons_cons _
  rw [rows_course]
  have ordered : (ranked.zipIdx.map Prod.snd).Pairwise (· < ·) := by
    rw [List.zipIdx_map_snd]
    exact List.pairwise_lt_range'
  exact ordered.sublist ((indices _).trans ((List.filter_sublist.trans upTo_sublist).map _))

/-- A working store gets one row for each outcome whose cost can be estimated. -/
theorem rowAt_about (recording : Recording service world) (index : Nat)
    (affordable : ¬ CostOverflows (world.attempts index)) :
    (service.rowAt (world.attempts index) world.requestId index).map (·.about) =
      ((outcome? (world.attempts index).result).map fun outcome =>
        (world.requestId, index, outcome.key, outcome.success)).toList := by
  have named : world.requestId ≠ "" := by simp [RequestWorld.requestId]
  rcases service.rowAt_cases (world.attempts index) world.requestId index with
    none | ⟨row, outcome, only, ended, told⟩
  · rw [none]
    cases ended : (world.attempts index).result with
    | outcome outcome =>
      exact absurd ((rowAt_recorded index recording.1 (recording.2 index) named ended).mp none)
        affordable
    | _ => rfl
  · rw [only, ended, List.map_singleton, told]
    rfl

end Records

section Protocol
variable (ranks : service.router.rankWithExplanation decimal world.ranking request.model
    request.preferences world.requestId = .ok (ranked, routing))

include ranks in
private theorem automatic (answered : Answered service request world)
    (auto : request.model = "auto") : ∃ explanation, routing = some explanation ∧
      Automatic service request world ranked explanation := by
  obtain ⟨_, explained⟩ := rankWithExplanation_ok ranks
  rw [if_pos auto] at explained
  obtain ⟨explanation, rfl, _⟩ := explained
  exact ⟨explanation, rfl, automatic_of_ranked auto ranks
    (fun position _ => answered.decided position.2)
    fun index => foreign_of_answers (answered.answers index)⟩

include ranks in
private theorem unexplained (explicit : request.model ≠ "auto") : routing = none := by
  obtain ⟨_, explained⟩ := rankWithExplanation_ok ranks
  rwa [if_neg explicit] at explained

/-- An extended response is returned; one that cannot be extended raises. -/
def delivered : Except PyError Payload → Completion
  | .ok payload => .returned payload
  | .error error => .raised error

include ranks in
/-- The end of a request that served a response: that response, extended. -/
theorem concluded_served (answered : Answered service request world)
    (ended : (courseOf service request world ranked).ended = .served item response) :
    ∃ members, (service.conclude request world routing
        (courseOf service request world ranked)).completion =
      delivered (extend response members) := by
  have built : ∃ final, finalRouting routing (courseOf service request world ranked).updates
      (some item.candidate.key) = .ok final := by
    by_cases auto : request.model = "auto"
    · obtain ⟨explanation, rfl, routed⟩ := automatic ranks answered auto
      obtain ⟨final, built, _⟩ := finalRouting_served routed ended
      exact ⟨some final, built⟩
    · rw [unexplained ranks auto]
      exact ⟨none, rfl⟩
  obtain ⟨final, built⟩ := built
  refine ⟨service.extension world.requestId item
    (courseOf service request world ranked).attempts final, ?_⟩
  rw [conclude, ended]
  simp only [built]
  cases extend response (service.extension world.requestId item
    (courseOf service request world ranked).attempts final) <;> rfl

include ranks in
/-- The end of a request that served none: by whether it made a call. -/
theorem concluded_exhausted (answered : Answered service request world)
    (ended : (courseOf service request world ranked).ended = .exhausted) :
    ∃ final, (service.conclude request world routing
        (courseOf service request world ranked)).completion =
      if (courseOf service request world ranked).attempts = [] then .noProviderAvailable final
      else .allProvidersFailed world.requestId := by
  have built : ∃ final, finalRouting routing (courseOf service request world ranked).updates
      none = .ok final := by
    by_cases auto : request.model = "auto"
    · obtain ⟨explanation, rfl, routed⟩ := automatic ranks answered auto
      obtain ⟨final, built, _⟩ := finalRouting_exhausted routed ended
      exact ⟨some final, built⟩
    · rw [unexplained ranks auto]
      exact ⟨none, rfl⟩
  obtain ⟨final, built⟩ := built
  refine ⟨final, ?_⟩
  rw [conclude, ended]
  simp only [built]
  by_cases empty : (courseOf service request world ranked).attempts = []
  · simp [empty]
  · simp [empty]

private theorem calls_conclude : (service.conclude request world routing
      (courseOf service request world ranked)).effects.filterMap callOf =
    ((service.reached request.model world.requestId world.attempts ranked.zipIdx).filter
      (service.calledAt request.model world.attempts)).map
        fun position => (position.key, position.2) := by
  rw [filterMap_conclude service request world _ _ (fun _ => rfl) fun _ => rfl, courseOf,
    calls_course]

private theorem rows_conclude : (service.conclude request world routing
      (courseOf service request world ranked)).effects.filterMap rowOf =
    (courseOf service request world ranked).effects.filterMap rowOf :=
  filterMap_conclude service request world _ _ (fun _ => rfl) fun _ => rfl

/-- The completion that an unhindered request comes to. -/
theorem completion_of_unhindered (ranks : service.router.rankWithExplanation decimal world.ranking
      request.model request.preferences world.requestId = .ok (ranked, routing))
    (answered : Answered service request world) (free : Unhindered service request world ranked) :
    match service.firstSuccess request world ranked with
    | some response => ∃ payload, (service.conclude request world routing
          (courseOf service request world ranked)).completion = .returned payload ∧
        ∀ name, name ≠ "modelpilot" → payload.get? name = response.get? name
    | none => ∃ final, (service.conclude request world routing
          (courseOf service request world ranked)).completion =
        if service.tried request world ranked = [] then .noProviderAvailable final
        else .allProvidersFailed world.requestId := by
  rcases ended_of_contained answered free.updates with ⟨never, ended⟩ | ⟨item, response, first, ended⟩
  · rw [never]
    obtain ⟨final, completed⟩ := concluded_exhausted ranks answered ended
    have logged := congrArg List.length (attempts_eq answered free.updates)
    rw [List.length_map, List.length_map] at logged
    refine ⟨final, completed.trans ?_⟩
    simp only [← List.length_eq_zero_iff, logged]
  · rw [first]
    obtain ⟨members, completed⟩ := concluded_served ranks answered ended
    obtain ⟨payload, _, extended, _, kept⟩ := extend_ok members (free.extensible response first)
    rw [extended] at completed
    exact ⟨payload, completed, kept⟩

/-- What such a completion says of the calls and of the first success. -/
theorem completion_says {completion : Completion}
    (completed : match service.firstSuccess request world ranked with
      | some response => ∃ payload, completion = .returned payload ∧
          ∀ name, name ≠ "modelpilot" → payload.get? name = response.get? name
      | none => ∃ final, completion =
          if service.tried request world ranked = [] then .noProviderAvailable final
          else .allProvidersFailed world.requestId) :
    ((∃ payload, completion = .returned payload) ↔
      (service.firstSuccess request world ranked).isSome) ∧
    (∀ payload, completion = .returned payload → ∃ response,
      service.firstSuccess request world ranked = some response ∧
        ∀ name, name ≠ "modelpilot" → payload.get? name = response.get? name) ∧
    ((∃ requestId, completion = .allProvidersFailed requestId) ↔
      service.tried request world ranked ≠ [] ∧
        service.firstSuccess request world ranked = none) ∧
    ((∃ routing, completion = .noProviderAvailable routing) ↔
      service.tried request world ranked = []) := by
  cases first : service.firstSuccess request world ranked with
  | some response =>
    rw [first] at completed
    obtain ⟨payload, rfl, kept⟩ := completed
    refine ⟨by simp, ?_, by simp, by simp [tried_ne_nil first]⟩
    rintro _ ⟨⟩
    exact ⟨response, rfl, kept⟩
  | none =>
    rw [first] at completed
    obtain ⟨final, rfl⟩ := completed
    by_cases empty : service.tried request world ranked = []
    · simp [empty]
    · simp [empty]

theorem protocol_of_unhindered (ranks : service.router.rankWithExplanation decimal world.ranking
      request.model request.preferences world.requestId = .ok (ranked, routing))
    (answered : Answered service request world) (free : Unhindered service request world ranked) :
    FallbackProtocol service request world ranked (service.conclude request world routing
      (courseOf service request world ranked)) := by
  have calls : (service.conclude request world routing
        (courseOf service request world ranked)).effects.filterMap callOf =
      (service.tried request world ranked).map fun position => (position.key, position.2) := by
    rw [calls_conclude, (reached_eq answered free.updates).1, tried]
  have attempts := attempts_eq answered free.updates
  obtain ⟨returned, first, failed, unavailable⟩ :=
    completion_says (completion_of_unhindered ranks answered free)
  have keys : ((service.conclude request world routing
        (courseOf service request world ranked)).effects.filterMap callOf).map Prod.fst =
      (service.tried request world ranked).map Position.key := by
    rw [calls, List.map_map]
    rfl
  refine ⟨calls, ?distinct, returned, first, ?failed, ?unavailable, ?attempts, ?succeeded,
    ?rows, ?increasing⟩
  case distinct =>
    obtain ⟨⟨_, ranking⟩, _⟩ := rankWithExplanation_ok ranks
    have nodup := ranking.nodup
    rw [← zipIdx_keys 0] at nodup
    rw [keys]
    exact nodup.sublist ((List.filter_sublist.trans upTo_sublist).map _)
  case failed =>
    rw [calls, failed, ne_eq, ne_eq, List.map_eq_nil_iff]
  case unavailable =>
    rw [calls, unavailable, List.map_eq_nil_iff]
  case attempts =>
    rw [attempts_conclude, keys]
    have first := congrArg (List.map Prod.fst) attempts
    rwa [List.map_map, List.map_map] at first
  case succeeded =>
    rw [attempts_conclude]
    intro log member
    have told := congrArg List.dropLast attempts
    rw [← List.map_dropLast, ← List.map_dropLast] at told
    have listed := List.mem_map_of_mem (f := fun log => (log.key, log.success)) member
    rw [told] at listed
    obtain ⟨position, early, same⟩ := List.mem_map.mp listed
    rw [← (Prod.mk.inj same).2]
    exact passes_of_mem_dropLast early
  case rows =>
    intro recording
    rw [rows_conclude, rows_course, (reached_eq answered free.updates).1, List.map_flatMap,
      List.filterMap_eq_flatMap_toList]
    exact List.flatMap_congr fun position member =>
      rowAt_about recording position.2 (free.costs recording position member)
  case increasing =>
    rw [rows_conclude]
    exact rows_increasing service request world ranked

/-- A request that keeps to the protocol was unhindered. -/
theorem unhindered_of_protocol (ranks : service.router.rankWithExplanation decimal world.ranking
      request.model request.preferences world.requestId = .ok (ranked, routing))
    (answered : Answered service request world)
    (protocol : FallbackProtocol service request world ranked
      (service.conclude request world routing (courseOf service request world ranked))) :
    Unhindered service request world ranked := by
  have updates : ∀ position ∈ service.tried request world ranked,
      ¬ CooldownOverflows service (world.attempts position.2) := by
    intro position member overflows
    have completed : (service.conclude request world routing
        (courseOf service request world ranked)).completion = .raised .overflow := by
      rw [conclude, ended_of_overflow answered member overflows]
    exact protocol.unraised _ completed
  refine ⟨updates, fun response first => ?_, fun recording position member overflows => ?_⟩
  · by_contra fixed
    rcases ended_of_contained answered updates with ⟨never, _⟩ | ⟨item, _, same, ended⟩
    · rw [first] at never
      cases never
    · rw [first] at same
      cases same
      obtain ⟨members, completed⟩ := concluded_served ranks answered ended
      rw [extend_error members fixed] at completed
      exact protocol.unraised _ completed
  · have rows := protocol.rows recording
    obtain ⟨outcome, error, ended, estimated⟩ := overflows
    have told : (world.requestId, position.2, outcome.key, outcome.success) ∈
        ((service.conclude request world routing
          (courseOf service request world ranked)).effects.filterMap rowOf).map (·.about) := by
      rw [rows]
      exact List.mem_filterMap.mpr ⟨position, member, by rw [ended]; rfl⟩
    obtain ⟨row, listed, about⟩ := List.mem_map.mp told
    rw [rows_conclude, rows_course] at listed
    obtain ⟨other, _, left⟩ := List.mem_flatMap.mp listed
    have named : world.requestId ≠ "" := by simp [RequestWorld.requestId]
    rcases service.rowAt_cases (world.attempts other.2) world.requestId other.2 with
      none | ⟨only, _, alone, _, told⟩
    · rw [none] at left
      cases left
    · rw [alone, List.mem_singleton] at left
      subst left
      have index : other.2 = position.2 := by
        rw [told] at about
        exact congrArg (·.2.1) about
      have missing := (rowAt_recorded position.2 recording.1 (recording.2 position.2) named
        ended).mpr ⟨outcome, error, ended, estimated⟩
      rw [index, missing] at alone
      cases alone

/-- A request keeps to the fallback protocol exactly when nothing hinders it. -/
theorem fallback_protocol_iff (ranks : service.router.rankWithExplanation decimal world.ranking
      request.model request.preferences world.requestId = .ok (ranked, routing))
    (answered : Answered service request world) :
    FallbackProtocol service request world ranked (service.complete decimal request world) ↔
      Unhindered service request world ranked := by
  by_cases empty : ranked = []
  · subst empty
    rw [complete_of_unranked world ranks]
    constructor
    · intro _
      exact ⟨by simp [tried, scanned, upTo], by simp [firstSuccess],
        fun _ => by simp [tried, scanned, upTo]⟩
    · intro _
      constructor <;> simp [tried, scanned, upTo, firstSuccess]
  · rw [complete_of_ranked world ranks empty]
    exact ⟨unhindered_of_protocol ranks answered, protocol_of_unhindered ranks answered⟩

end Protocol

section Overflow

def errorOf : Completion → Option PyError
  | .raised error => some error
  | _ => none

theorem raised_of_errorOf {completion : Completion}
    (raised : errorOf completion = some error) : completion = .raised error := by
  cases completion with
  | raised other =>
    cases raised
    rfl
  | _ => cases raised

/-- Two candidates of one model, and a health manager whose cooldown is longer
than the datetime range. -/
def twoCandidateGateway : GatewayService where
  router :=
    { providers := Dict.ofList [("p", true), ("q", true)]
      candidates := [⟨"p", "n", 1, 1, 1, 1, by decide +kernel⟩,
        ⟨"q", "n", 1 / 2, 1, 1, 1, by decide +kernel⟩] }
  health := some { failureThreshold := 1, cooldown := Datetime.maxUtc, policy := by decide +kernel }
  sanitizeErrorMessage := id
  modelDump := fun explanation => .str explanation.requestId

def explicitRequest : ChatCompletionRequest .exact where
  model := "n"
  preferences :=
    { quality := .finite 1, cost := .finite 0, latency := .finite 0, reliability := .finite 0
      valid := by decide +kernel }

private theorem timedOut_statusRange :
    ∀ code ∈ (none : Option Nat), 100 ≤ code ∧ code ≤ 599 := by simp

private theorem timedOut_shape : if false = true then
      (none : Option Payload).isSome = true ∧ some ProviderErrorType.timeout = none
    else (none : Option Payload) = none ∧ (some ProviderErrorType.timeout).isSome = true := by simp

def timedOut : ProviderOutcome where
  provider := "p"
  model := "n"
  success := false
  errorType := some .timeout
  startedAt := 100
  finishedAt := 200
  latencyMs := 1 / 10
  named := by decide
  timed := by decide
  latency := by norm_num
  statusRange := timedOut_statusRange
  shape := timedOut_shape

def succeeded : ProviderOutcome where
  provider := "q"
  model := "n"
  success := true
  response := some (Dict.ofList [("id", .str "r")])
  statusCode := some 200
  startedAt := 200
  finishedAt := 400
  latencyMs := 2 / 10
  named := by decide
  timed := by decide
  latency := by norm_num
  statusRange := by simp
  shape := by simp

/-- The first candidate times out, any other one would answer. -/
def timingOutWorld : RequestWorld .exact where
  uuidHex := "0"
  ranking := { now := .utc 0 }
  attempts := fun index =>
    { reading := .utc 0
      result := .outcome (if index = 0 then timedOut else succeeded)
      managerStore := fun _ => ⟨.ok none, none⟩ }

private theorem explicit_answered (service : GatewayService) :
    Answered service explicitRequest timingOutWorld :=
  ⟨fun _ asked => absurd asked.1 (by decide), fun _ => trivial⟩

private theorem explicit_ranked : ∃ ranked routing,
    twoCandidateGateway.router.rankWithExplanation .exact timingOutWorld.ranking
      explicitRequest.model explicitRequest.preferences timingOutWorld.requestId =
    .ok (ranked, routing) := by
  have given : (twoCandidateGateway.router.rankWithExplanation .exact timingOutWorld.ranking
      explicitRequest.model explicitRequest.preferences
      timingOutWorld.requestId).toOption.isSome = true := by decide +kernel
  obtain ⟨result, found⟩ := Option.isSome_iff_exists.mp given
  exact ⟨result.1, result.2, toOption_eq_some_iff.mp found⟩

/-- The same gateway with a cooldown of a minute, and with a store that takes every row. -/
def steadyGateway : GatewayService :=
  { twoCandidateGateway with
    metrics := true
    health := some { failureThreshold := 1, cooldown := 60000000, policy := by decide +kernel } }

private theorem steady_unhindered (ranked : List RankedCandidate) :
    Unhindered steadyGateway explicitRequest timingOutWorld ranked := by
  refine ⟨fun position _ => ?_, fun response first => ?_, fun _ position _ => ?_⟩
  · rintro ⟨_, outcome, _, _, ⟨⟩, ⟨⟩, _, _, overflows⟩
    apply overflows.beyond
    split <;> decide
  · obtain ⟨position, _, answer⟩ := Option.bind_eq_some_iff.mp first
    rw [successAt] at answer
    by_cases called : steadyGateway.calledAt explicitRequest.model timingOutWorld.attempts position
    · rw [if_pos called] at answer
      by_cases second : position.2 = 0
      · simp [timingOutWorld, second, response?, timedOut] at answer
      · simp only [timingOutWorld, if_neg second, response?, succeeded, if_true,
          Option.some.injEq] at answer
        have plain : (Dict.ofList [("id", Json.str "r")]).get? "modelpilot" = none := by decide
        rintro member held
        rw [← answer, plain] at held
        cases held
    · rw [if_neg called] at answer
      cases answer
  · rintro ⟨outcome, error, ended, beyond⟩
    cases beyond

theorem two_candidates_protocol : ∃ ranked,
    FallbackProtocol steadyGateway explicitRequest timingOutWorld ranked
        (steadyGateway.complete .exact explicitRequest timingOutWorld) ∧
      (steadyGateway.complete .exact explicitRequest timingOutWorld).effects.filterMap callOf =
        [(("p", "n"), 0), (("q", "n"), 1)] := by
  obtain ⟨ranked, _, ranks⟩ := explicit_ranked
  have kept : FallbackProtocol steadyGateway explicitRequest timingOutWorld ranked
      (steadyGateway.complete .exact explicitRequest timingOutWorld) ↔
        Unhindered steadyGateway explicitRequest timingOutWorld ranked :=
    fallback_protocol_iff ranks (explicit_answered steadyGateway)
  exact ⟨ranked, kept.mpr (steady_unhindered ranked), by decide +kernel⟩

/-- The second candidate, which would answer, is never called. -/
theorem overflow_ends_fallback : ∃ ranked routing,
    twoCandidateGateway.router.rankWithExplanation .exact timingOutWorld.ranking
        explicitRequest.model explicitRequest.preferences timingOutWorld.requestId =
      .ok (ranked, routing) ∧
    Answered twoCandidateGateway explicitRequest timingOutWorld ∧
    (twoCandidateGateway.complete .exact explicitRequest timingOutWorld).effects.filterMap
      callOf = [(("p", "n"), 0)] ∧
    (twoCandidateGateway.complete .exact explicitRequest timingOutWorld).completion =
      .raised .overflow ∧
    ¬ FallbackProtocol twoCandidateGateway explicitRequest timingOutWorld ranked
      (twoCandidateGateway.complete .exact explicitRequest timingOutWorld) := by
  obtain ⟨ranked, routing, ranks⟩ := explicit_ranked
  have raised : (twoCandidateGateway.complete .exact explicitRequest timingOutWorld).completion =
      .raised .overflow := raised_of_errorOf (by decide +kernel)
  exact ⟨ranked, routing, ranks, explicit_answered _, by decide +kernel, raised,
    fun protocol => protocol.unraised _ raised⟩

end Overflow

end ModelPilot.GatewayService
