import ModelPilot.FallbackProtocol

/-! One request under failing stores: the same request, with any of its store
operations after ranking raising, against the one in which none of them does. -/
namespace ModelPilot

/-- What the stores hold for an attempt: the price of the pair and the health
records. -/
structure StoreValues where
  pricing : Option ModelPricing := none
  stored : Key → Option ProviderHealth := fun _ => none

/-- The exceptions that the store operations of an attempt raise. -/
structure AttemptFaults where
  getPricing : Option PyError := none
  recordAttempt : Option PyError := none
  getHealth : Key → Option PyError := fun _ => none
  upsertHealth : Key → Option PyError := fun _ => none

/-- The faults in the metrics store, and those in the health store. -/
def AttemptFaults.metrics (faults : AttemptFaults) : AttemptFaults :=
  { getPricing := faults.getPricing, recordAttempt := faults.recordAttempt }

def AttemptFaults.health (faults : AttemptFaults) : AttemptFaults :=
  { getHealth := faults.getHealth, upsertHealth := faults.upsertHealth }

structure StoreFaults where
  attempts : Nat → AttemptFaults := fun _ => {}
  recordRoutingDecision : Option PyError := none

def StoreFaults.metrics (faults : StoreFaults) : StoreFaults :=
  { attempts := fun index => (faults.attempts index).metrics }

def StoreFaults.health (faults : StoreFaults) : StoreFaults :=
  { attempts := fun index => (faults.attempts index).health }

/-- A store operation: its value, unless it raises. -/
def orRaise (fault : Option PyError) (value : α) : Except PyError α :=
  match fault with
  | none => .ok value
  | some error => .error error

/-- The attempt on stores with the given values and faults. -/
def AttemptWorld.serve (world : AttemptWorld) (values : StoreValues) (faults : AttemptFaults) :
    AttemptWorld :=
  { world with
    getPricing := orRaise faults.getPricing values.pricing
    recordAttempt := faults.recordAttempt
    managerStore := fun key =>
      ⟨orRaise (faults.getHealth key) (values.stored key), faults.upsertHealth key⟩ }

def RequestWorld.serve {float : Rounding} (world : RequestWorld float) (values : Nat → StoreValues)
    (faults : StoreFaults) : RequestWorld float :=
  { world with
    attempts := fun index => (world.attempts index).serve (values index) (faults.attempts index)
    recordRoutingDecision := faults.recordRoutingDecision }

namespace GatewayService
open CandidateCalls Prefixes ModelRouter

section Attempt
variable {service : GatewayService} {requestedModel requestId : String} {world : AttemptWorld}
  {values : StoreValues} {faults others : AttemptFaults} {key : Key} {index : Nat}

/-- A fault never makes a health update overflow. -/
theorem overflows_of_fault (overflows : CooldownOverflows service (world.serve values faults)) :
    CooldownOverflows service (world.serve values {}) := by
  obtain ⟨manager, outcome, stored, health, managed, ended, read, begins, beyond⟩ := overflows
  refine ⟨manager, outcome, stored, health, managed, ended, ?_, begins, beyond⟩
  simp only [AttemptWorld.serve, orRaise] at read ⊢
  cases fault : faults.getHealth outcome.key with
  | none => simpa only [fault] using read
  | some error =>
    rw [fault] at read
    cases read

/-- With every health read failing, none does. -/
theorem not_overflows_of_unread (unread : ∀ key, (faults.getHealth key).isSome = true) :
    ¬ CooldownOverflows service (world.serve values faults) := by
  rintro ⟨manager, outcome, stored, health, managed, ended, read, _⟩
  obtain ⟨error, fault⟩ := Option.isSome_iff_exists.mp (unread outcome.key)
  simp only [AttemptWorld.serve, orRaise, fault] at read
  cases read

/-- Only failed outcomes open circuits. -/
theorem failed_of_overflows (overflows : CooldownOverflows service world) :
    ∃ error, nextStep world.result = .failed error := by
  obtain ⟨_, outcome, _, _, _, ended, _, _, beyond⟩ := overflows
  have failed : outcome.success = false := by
    by_contra succeeded
    exact ProviderOutcome.not_counted_of_success (by simpa using succeeded) beyond.counted
  rw [ended]
  exact ⟨outcome.errorMessage, by simp [nextStep, failed]⟩

/-- An admission does not see what the stores of its attempt give. -/
theorem invokeCandidate_serve (service : GatewayService) (requestedModel requestId : String)
    (world : AttemptWorld) (key : Key) (index : Nat) :
    (∃ invocation, ∀ values faults, service.invokeCandidate requestedModel
      (world.serve values faults) key requestId index = invocation) ∨
    service.admits requestedModel world key = true ∧ ∃ update lease, ∀ values faults,
      service.invokeCandidate requestedModel (world.serve values faults) key requestId index =
        { update
          effects := (service.callCandidate (world.serve values faults) key requestId index lease).1
          ended :=
            (service.callCandidate (world.serve values faults) key requestId index lease).2 } := by
  by_cases probed : requestedModel = "auto" ∧ service.probes = true
  · simp only [invokeCandidate, admits, if_pos probed, AttemptWorld.serve]
    cases admitProbe world.healthStore world.probes world.reading key with
    | error error => exact .inl ⟨_, fun _ _ => rfl⟩
    | ok admitted =>
      dsimp only
      by_cases eligible : admitted.1.evidence.eligible = true
      · simp only [if_pos eligible]
        exact .inr ⟨eligible, some admitted.1.evidence, admitted.1.lease, fun _ _ => rfl⟩
      · simp only [if_neg eligible]
        exact .inl ⟨_, fun _ _ => rfl⟩
  · simp only [invokeCandidate, admits, if_neg probed]
    exact .inr ⟨trivial, none, none, fun _ _ => rfl⟩

/-- Two invocations without an overflow leave the same verdict and end alike, and
what is seen of one is seen of the other when it is of their calls. -/
theorem invokeCandidate_agrees (requestedModel requestId : String) (key : Key) (index : Nat)
    (contained : service.admits requestedModel world key = true →
      ¬ CooldownOverflows service (world.serve values faults))
    (alsoContained : service.admits requestedModel world key = true →
      ¬ CooldownOverflows service (world.serve values others)) :
    (service.invokeCandidate requestedModel (world.serve values faults) key requestId
        index).update =
      (service.invokeCandidate requestedModel (world.serve values others) key requestId
        index).update ∧
    (service.invokeCandidate requestedModel (world.serve values faults) key requestId
        index).ended =
      (service.invokeCandidate requestedModel (world.serve values others) key requestId
        index).ended := by
  rcases service.invokeCandidate_serve requestedModel requestId world key index with
    ⟨invocation, same⟩ | ⟨allowed, update, lease, called⟩
  · rw [same, same]
    exact ⟨rfl, rfl⟩
  · rw [called, called]
    refine ⟨rfl, ?_⟩
    rcases afterCall_cases service (world.serve values faults) with ⟨_, left⟩ | ⟨overflows, _⟩
    · rcases afterCall_cases service (world.serve values others) with ⟨_, right⟩ | ⟨overflows, _⟩
      · exact left.trans right.symm
      · exact absurd overflows (alsoContained allowed)
    · exact absurd overflows (contained allowed)

theorem effects_agree (requestedModel : String) (of : GatewayEffect → Option β)
    (calls : ∀ lease, (service.callCandidate (world.serve values faults) key requestId index
        lease).1.filterMap of =
      (service.callCandidate (world.serve values others) key requestId index
        lease).1.filterMap of) :
    (service.invokeCandidate requestedModel (world.serve values faults) key requestId
        index).effects.filterMap of =
      (service.invokeCandidate requestedModel (world.serve values others) key requestId
        index).effects.filterMap of := by
  rcases service.invokeCandidate_serve requestedModel requestId world key index with
    ⟨invocation, same⟩ | ⟨_, update, lease, called⟩
  · rw [same, same]
  · rw [called, called]
    exact calls lease

end Attempt

section Run
variable {float decimal : Rounding} {service : GatewayService}
  {request : ChatCompletionRequest float} {world : RequestWorld float}
  {values : Nat → StoreValues} {ranked : List RankedCandidate}

/-- No health update overflows before the loop is settled. -/
def Contained (service : GatewayService) (request : ChatCompletionRequest float)
    (world : RequestWorld float) (values : Nat → StoreValues) (ranked : List RankedCandidate) :
    Prop :=
  ∀ position ∈ upTo (service.settlesAt request.model world.attempts) ranked.zipIdx,
    ¬ service.OverflowsAt request.model (world.serve values {}).attempts position

/-- The loop of the request on stores with faults. -/
def courseUnder (service : GatewayService) (request : ChatCompletionRequest float)
    (world : RequestWorld float) (values : Nat → StoreValues) (ranked : List RankedCandidate)
    (faults : StoreFaults) : Course :=
  courseOf service request (world.serve values faults) ranked

theorem reached_under (contained : Contained service request world values ranked)
    (faults : StoreFaults) :
    service.reached request.model world.requestId (world.serve values faults).attempts
        ranked.zipIdx =
      upTo (service.settlesAt request.model world.attempts) ranked.zipIdx ∧
    ranked.zipIdx.find? (service.stops request.model world.requestId
        (world.serve values faults).attempts) =
      ranked.zipIdx.find? (service.settlesAt request.model world.attempts) :=
  reached_of_contained world.requestId (world.serve values faults).attempts
    fun position member overflows =>
    contained position member ⟨overflows.1, overflows_of_fault overflows.2⟩

/-- The loop takes the same turns whatever faults its stores have. -/
theorem courses_agree (contained : Contained service request world values ranked)
    (faults : StoreFaults) :
    (service.courseUnder request world values ranked faults).attempts =
        (service.courseUnder request world values ranked {}).attempts ∧
      (service.courseUnder request world values ranked faults).updates =
        (service.courseUnder request world values ranked {}).updates ∧
      (service.courseUnder request world values ranked faults).ended =
        (service.courseUnder request world values ranked {}).ended := by
  have turns : ∀ position ∈ upTo (service.settlesAt request.model world.attempts) ranked.zipIdx,
      (service.invocation request.model world.requestId (world.serve values faults).attempts
          position).update =
        (service.invocation request.model world.requestId (world.serve values {}).attempts
          position).update ∧
      (service.invocation request.model world.requestId (world.serve values faults).attempts
          position).ended =
        (service.invocation request.model world.requestId (world.serve values {}).attempts
          position).ended := by
    intro position member
    exact invokeCandidate_agrees request.model world.requestId position.key position.2
      (fun called overflows =>
        contained position member ⟨called, overflows_of_fault overflows⟩)
      fun called overflows => contained position member ⟨called, overflows⟩
  have nexts : ∀ position ∈ upTo (service.settlesAt request.model world.attempts) ranked.zipIdx,
      service.next request.model world.requestId (world.serve values faults).attempts position =
        service.next request.model world.requestId (world.serve values {}).attempts position := by
    intro position member
    rw [next, next, (turns position member).2]
  obtain ⟨left, leftFound⟩ := reached_under contained faults
  obtain ⟨right, rightFound⟩ := reached_under contained {}
  have request_id : ∀ faults, (world.serve values faults).requestId = world.requestId :=
    fun _ => rfl
  simp only [courseUnder, courseOf, course_eq, request_id, left, right, leftFound, rightFound]
  refine ⟨?_, ?_, ?_⟩
  · refine List.filterMap_congr fun position member => ?_
    rw [logAt, logAt, nexts position member, (turns position member).2]
    rfl
  · refine List.filterMap_congr fun position member => ?_
    rw [updateAt, updateAt, (turns position member).1]
  · cases found : ranked.zipIdx.find? (service.settlesAt request.model world.attempts) with
    | none => rfl
    | some position =>
      rw [Option.elim_some, Option.elim_some, endAt, endAt,
        nexts position (mem_upTo_of_find? found)]

/-- What is seen of the loop's effects is the same when it is of each call. -/
theorem effects_under (contained : Contained service request world values ranked)
    (of : GatewayEffect → Option β) (faults others : StoreFaults)
    (calls : ∀ key index lease,
      (service.callCandidate ((world.serve values faults).attempts index) key world.requestId index
          lease).1.filterMap of =
        (service.callCandidate ((world.serve values others).attempts index) key world.requestId
          index lease).1.filterMap of) :
    (service.courseUnder request world values ranked faults).effects.filterMap of =
      (service.courseUnder request world values ranked others).effects.filterMap of := by
  have request_id : ∀ faults, (world.serve values faults).requestId = world.requestId :=
    fun _ => rfl
  simp only [courseUnder, courseOf, course_eq, request_id,
    (reached_under contained faults).1, (reached_under contained others).1,
    List.filterMap_flatMap]
  exact List.flatMap_congr fun position _ =>
    effects_agree request.model of (calls position.key position.2)

/-- The request on stores with the given values and faults. -/
def runUnder (service : GatewayService) (decimal : Rounding)
    (request : ChatCompletionRequest float) (world : RequestWorld float)
    (values : Nat → StoreValues) (faults : StoreFaults) : Completed :=
  service.complete decimal request (world.serve values faults)

/-- The faults do not change what the request calls, releases, returns or raises,
and those of one store not what is written to the other. -/
structure Isolated (service : GatewayService) (decimal : Rounding)
    (request : ChatCompletionRequest float) (world : RequestWorld float)
    (values : Nat → StoreValues) (faults : StoreFaults) : Prop where
  calls : (service.runUnder decimal request world values faults).effects.filterMap callOf =
    (service.runUnder decimal request world values {}).effects.filterMap callOf
  completion : (service.runUnder decimal request world values faults).completion =
    (service.runUnder decimal request world values {}).completion
  releases : (service.runUnder decimal request world values faults).effects.filterMap leaseOf =
    (service.runUnder decimal request world values {}).effects.filterMap leaseOf
  rows : (service.runUnder decimal request world values faults).effects.filterMap rowOf =
    (service.runUnder decimal request world values faults.metrics).effects.filterMap rowOf
  healthWrites :
    (service.runUnder decimal request world values faults).effects.filterMap healthOf =
      (service.runUnder decimal request world values faults.health).effects.filterMap healthOf

/-- Whatever the request ranks, no health update overflows. -/
def Protected (service : GatewayService) (decimal : Rounding)
    (request : ChatCompletionRequest float) (world : RequestWorld float)
    (values : Nat → StoreValues) : Prop :=
  ∀ ranked routing, service.router.rankWithExplanation decimal world.ranking request.model
      request.preferences world.requestId = .ok (ranked, routing) →
    Contained service request world values ranked

private theorem runUnder_of_ranked {routing : Option RoutingExplanation}
    (ranks : service.router.rankWithExplanation decimal world.ranking request.model
      request.preferences world.requestId = .ok (ranked, routing)) (nonempty : ranked ≠ [])
    (faults : StoreFaults) : service.runUnder decimal request world values faults =
      service.conclude request (world.serve values faults) routing
        (service.courseUnder request world values ranked faults) :=
  complete_of_ranked (world.serve values faults) ranks nonempty

private theorem seen_of_ranked {routing : Option RoutingExplanation}
    (ranks : service.router.rankWithExplanation decimal world.ranking request.model
      request.preferences world.requestId = .ok (ranked, routing)) (nonempty : ranked ≠ [])
    {of : GatewayEffect → Option β} (unlogged : ∀ log, of (.requestLogged log) = none)
    (undecided : ∀ decision, of (.decisionRecorded decision) = none) (faults : StoreFaults) :
    (service.runUnder decimal request world values faults).effects.filterMap of =
      (service.courseUnder request world values ranked faults).effects.filterMap of := by
  rw [runUnder_of_ranked ranks nonempty, filterMap_conclude _ _ _ _ _ unlogged undecided]

theorem isolated_of_contained {routing : Option RoutingExplanation}
    (ranks : service.router.rankWithExplanation decimal world.ranking request.model
      request.preferences world.requestId = .ok (ranked, routing)) (nonempty : ranked ≠ [])
    (contained : Contained service request world values ranked) (faults : StoreFaults) :
    Isolated service decimal request world values faults := by
  have agree := courses_agree contained faults
  refine ⟨?calls, ?completion, ?releases, ?rows, ?healthWrites⟩
  case calls =>
    rw [seen_of_ranked ranks nonempty (fun _ => rfl) fun _ => rfl,
      seen_of_ranked ranks nonempty (fun _ => rfl) fun _ => rfl]
    exact effects_under contained callOf faults {} fun key index lease => by
      rw [calls_callCandidate, calls_callCandidate]
  case completion =>
    rw [runUnder_of_ranked ranks nonempty, runUnder_of_ranked ranks nonempty]
    exact completion_congr service request (world.serve values faults) (world.serve values {}) rfl
      routing agree.1 agree.2.1 agree.2.2
  case releases =>
    rw [seen_of_ranked ranks nonempty (fun _ => rfl) fun _ => rfl,
      seen_of_ranked ranks nonempty (fun _ => rfl) fun _ => rfl]
    exact effects_under contained leaseOf faults {} fun key index lease => by
      rw [releases_callCandidate, releases_callCandidate]
  case rows =>
    rw [seen_of_ranked ranks nonempty (fun _ => rfl) fun _ => rfl,
      seen_of_ranked ranks nonempty (fun _ => rfl) fun _ => rfl]
    refine effects_under contained rowOf faults faults.metrics fun key index lease => ?_
    rw [rows_callCandidate, rows_callCandidate]
    rfl
  case healthWrites =>
    rw [seen_of_ranked ranks nonempty (fun _ => rfl) fun _ => rfl,
      seen_of_ranked ranks nonempty (fun _ => rfl) fun _ => rfl]
    refine effects_under contained healthOf faults faults.health fun key index lease => ?_
    rw [healthWrites_callCandidate, healthWrites_callCandidate]
    rfl

/-- Every health read fails. -/
def unreadable : StoreFaults where
  attempts := fun _ => { getHealth := fun _ => some (.runtime "health read failed") }

/-- Where a health update overflows, the loop goes on once it cannot be read. -/
theorem not_settled_of_overflow {position : Position}
    (overflows : service.OverflowsAt request.model (world.serve values {}).attempts position) :
    service.settlesAt request.model world.attempts position = false := by
  have called : service.calledAt request.model world.attempts position = true := overflows.1
  obtain ⟨error, failed⟩ := failed_of_overflows overflows.2
  have same : ((world.serve values {}).attempts position.2).result =
      (world.attempts position.2).result := rfl
  rw [same] at failed
  rw [settlesAt, if_pos called, failed]
  rfl

/-- Where the loop is settled without a call, the admission raised. -/
theorem endAt_uncalled {requestedModel requestId : String} (attempts : Nat → AttemptWorld)
    {position : Position} (settled : service.settlesAt requestedModel attempts position = true)
    (uncalled : service.calledAt requestedModel attempts position = false) :
    service.endAt requestedModel requestId attempts position =
      .escaped (.value "now must be timezone-aware") := by
  rw [endAt, next]
  cases service.turn requestedModel requestId attempts position with
  | undecided _ _ invoked =>
    rw [invoked]
    rfl
  | refused decides =>
    rw [settlesAt, uncalled] at settled
    simp [decides] at settled
  | called _ allowed =>
    rw [uncalled] at allowed
    cases allowed

/-- An exhausted ranking with an unserved explanation always concludes. -/
theorem concluded_of_exhausted {routing : Option RoutingExplanation} {course : Course}
    (ranks : service.router.rankWithExplanation decimal world.ranking request.model
      request.preferences world.requestId = .ok (ranked, routing))
    (ended : course.ended = .exhausted) (faults : StoreFaults) (error : PyError) :
    (service.conclude request (world.serve values faults) routing course).completion ≠
      .raised error := by
  have built : ∃ final, finalRouting routing course.updates none = .ok final := by
    cases routing with
    | none => exact ⟨none, rfl⟩
    | some explanation =>
      obtain ⟨_, explained⟩ := rankWithExplanation_ok ranks
      split at explained
      · obtain ⟨_, same, explained⟩ := explained
        cases same
        obtain ⟨updated, built, _⟩ := explanation.withHealthUpdates_ok (Dict.ofList course.updates)
          explained.unserved
        refine ⟨some updated, ?_⟩
        rw [finalRouting, built]
        rfl
      · cases explained
  obtain ⟨final, built⟩ := built
  rw [conclude, ended]
  simp only [built]
  split <;> simp

/-- The loop in which no health record can be read calls more than the one that
an overflow ends, or ends differently. -/
theorem unreadable_differs {first : Position}
    (found : ranked.zipIdx.find? (service.stops request.model world.requestId
      (world.serve values {}).attempts) = some first)
    (overflows : service.OverflowsAt request.model (world.serve values {}).attempts first)
    (calls : (service.courseUnder request world values ranked unreadable).effects.filterMap callOf =
      (service.courseUnder request world values ranked {}).effects.filterMap callOf) :
    (service.courseUnder request world values ranked unreadable).ended = .exhausted ∨
      (service.courseUnder request world values ranked unreadable).ended =
        .escaped (.value "now must be timezone-aware") := by
  obtain ⟨passed, later, split, read, passes⟩ := upTo_of_find?_some found
  have unsettled : ∀ position ∈ passed ++ [first],
      service.settlesAt request.model world.attempts position = false := by
    intro position member
    rcases List.mem_append.mp member with before | here
    · by_contra settled
      have stops := (service.stops_iff request.model world.requestId (world.serve values {}).attempts
        position).mpr (.inl (Bool.eq_true_of_not_eq_false settled))
      rw [passes position before] at stops
      cases stops
    · rw [List.mem_singleton.mp here]
      exact not_settled_of_overflow overflows
  have scanned := upTo_append later unsettled
  rw [List.append_assoc, List.singleton_append, ← split] at scanned
  have unread : service.reached request.model world.requestId
        (world.serve values unreadable).attempts ranked.zipIdx =
        upTo (service.settlesAt request.model world.attempts) ranked.zipIdx ∧
      ranked.zipIdx.find? (service.stops request.model world.requestId
        (world.serve values unreadable).attempts) =
        ranked.zipIdx.find? (service.settlesAt request.model world.attempts) :=
    reached_of_contained world.requestId _ fun position _ overflows =>
      not_overflows_of_unread (fun _ => rfl) overflows.2
  have seen : ∀ faults, (service.courseUnder request world values ranked faults).effects.filterMap
      callOf = ((service.reached request.model world.requestId (world.serve values faults).attempts
        ranked.zipIdx).filter (service.calledAt request.model world.attempts)).map
          fun position => (position.key, position.2) := fun faults =>
    calls_course service request.model world.requestId (world.serve values faults).attempts 0 ranked
  have uncalled : (upTo (service.settlesAt request.model world.attempts) later).filter
      (service.calledAt request.model world.attempts) = [] := by
    have base : service.reached request.model world.requestId (world.serve values {}).attempts
        ranked.zipIdx = passed ++ [first] := read
    rw [seen, seen, base, unread.1, scanned.1, List.filter_append, List.map_append] at calls
    simpa using calls
  rcases service.course_ended request.model world.requestId
    (world.serve values unreadable).attempts 0 ranked with ⟨_, ended⟩ | ⟨position, stopped, ended, _⟩
  · exact .inl ended
  · right
    rw [unread.2, scanned.2] at stopped
    have denied : service.calledAt request.model world.attempts position = false :=
      Bool.eq_false_iff.mpr (List.filter_eq_nil_iff.mp uncalled position (mem_upTo_of_find? stopped))
    exact ended.trans (endAt_uncalled (world.serve values unreadable).attempts
      (List.find?_some stopped) denied)

/-- An overflow that a failing read would have hidden is a change of the result. -/
theorem contained_of_isolated {routing : Option RoutingExplanation}
    (ranks : service.router.rankWithExplanation decimal world.ranking request.model
      request.preferences world.requestId = .ok (ranked, routing)) (nonempty : ranked ≠ [])
    (isolated : Isolated service decimal request world values unreadable) :
    Contained service request world values ranked := by
  intro position member overflows
  obtain ⟨first, found, faulty, ended⟩ :=
    course_of_overflow world.requestId (world.serve values {}).attempts member overflows
  have calls := isolated.calls
  rw [seen_of_ranked ranks nonempty (fun _ => rfl) fun _ => rfl,
    seen_of_ranked ranks nonempty (fun _ => rfl) fun _ => rfl] at calls
  have completion := isolated.completion
  rw [runUnder_of_ranked ranks nonempty, runUnder_of_ranked ranks nonempty] at completion
  have raised : (service.conclude request (world.serve values {}) routing
      (service.courseUnder request world values ranked {})).completion = .raised .overflow := by
    have escaped : (service.courseUnder request world values ranked {}).ended =
      .escaped .overflow := ended
    rw [conclude, escaped]
  rw [raised] at completion
  rcases unreadable_differs found faulty calls with exhausted | escaped
  · exact concluded_of_exhausted ranks exhausted unreadable .overflow completion
  · rw [conclude, escaped] at completion
    cases completion

/-- Store failures leave a request as it is exactly when none of its health updates
overflows. -/
theorem persistence_isolated_iff (service : GatewayService) (decimal : Rounding)
    (request : ChatCompletionRequest float) (world : RequestWorld float)
    (values : Nat → StoreValues) :
    (∀ faults, Isolated service decimal request world values faults) ↔
      Protected service decimal request world values := by
  constructor
  · intro isolated ranked routing ranks
    by_cases empty : ranked = []
    · subst empty
      intro position member
      cases mem_of_mem_upTo member
    · exact contained_of_isolated ranks empty (isolated unreadable)
  · intro protect faults
    cases ranks : service.router.rankWithExplanation decimal world.ranking request.model
        request.preferences world.requestId with
    | error error =>
      have raised : ∀ faults, service.runUnder decimal request world values faults =
          { completion := .raised error } := by
        intro faults
        have same : service.router.rankWithExplanation decimal
          (world.serve values faults).ranking request.model request.preferences
          (world.serve values faults).requestId = .error error := ranks
        rw [runUnder, complete, same]
      constructor <;> simp only [raised]
    | ok result =>
      obtain ⟨ranked, routing⟩ := result
      by_cases empty : ranked = []
      · subst empty
        have unranked : ∀ faults, service.runUnder decimal request world values faults =
            { completion := .noProviderAvailable routing } := fun faults =>
          complete_of_unranked (world.serve values faults) ranks
        constructor <;> simp only [unranked]
      · exact isolated_of_contained ranks empty (protect ranked routing ranks) faults

/-- A first candidate that times out: the request fails while its record can be
read, and calls the second candidate when it cannot. -/
theorem unreadable_record_changes_result :
    (twoCandidateGateway.runUnder .exact explicitRequest timingOutWorld (fun _ => {})
        {}).effects.filterMap callOf = [(("p", "n"), 0)] ∧
      (twoCandidateGateway.runUnder .exact explicitRequest timingOutWorld (fun _ => {})
        unreadable).effects.filterMap callOf = [(("p", "n"), 0), (("q", "n"), 1)] ∧
      errorOf (twoCandidateGateway.runUnder .exact explicitRequest timingOutWorld (fun _ => {})
        {}).completion = some .overflow ∧
      ¬ Isolated twoCandidateGateway .exact explicitRequest timingOutWorld (fun _ => {})
        unreadable := by
  have served : (twoCandidateGateway.runUnder .exact explicitRequest timingOutWorld (fun _ => {})
      {}).effects.filterMap callOf = [(("p", "n"), 0)] := by decide +kernel
  have unread : (twoCandidateGateway.runUnder .exact explicitRequest timingOutWorld (fun _ => {})
      unreadable).effects.filterMap callOf = [(("p", "n"), 0), (("q", "n"), 1)] := by
    decide +kernel
  refine ⟨served, unread, by decide +kernel, fun isolated => ?_⟩
  have calls := isolated.calls
  rw [served, unread] at calls
  cases calls

end Run

end GatewayService
end ModelPilot
