import ModelPilot.GatewayService
import ModelPilot.Prefixes
import ModelPilot.ProbeAdmissionProofs

/-! The fallback loop as a scan: the candidates it reaches are the ranking up to
the first one that stops it, and everything it records is recorded candidate by
candidate along that part of the ranking. -/
namespace ModelPilot.GatewayService
open CandidateCalls Prefixes ProviderHealthManager

/-- A ranked candidate with its attempt index. -/
abbrev Position := RankedCandidate × Nat

def Position.key (position : Position) : Key := position.1.candidate.key

section Scan
variable (service : GatewayService) (requestedModel requestId : String)
  (attempts : Nat → AttemptWorld)

/-- The invocation at a position. -/
def invocation (position : Position) : Invocation :=
  service.invokeCandidate requestedModel (attempts position.2) position.key requestId position.2

def next (position : Position) : NextStep :=
  nextStep (service.invocation requestedModel requestId attempts position).ended

/-- The loop does not go on behind the position. -/
def stops (position : Position) : Bool :=
  !(service.next requestedModel requestId attempts position).continues

def logAt (position : Position) : Option AttemptLog :=
  let log := service.attemptLog position.1 (attempts position.2)
    (service.invocation requestedModel requestId attempts position).ended
  match service.next requestedModel requestId attempts position with
  | .failed _ => some (log false)
  | .served _ => some (log true)
  | _ => none

def endAt (position : Position) : LoopEnd :=
  match service.next requestedModel requestId attempts position with
  | .served response => .served position.1 response
  | .escaped error => .escaped error
  | .cancelled => .cancelled
  | _ => .exhausted

def updateAt (position : Position) : Option (Key × HealthEligibility) :=
  (service.invocation requestedModel requestId attempts position).update.map (position.key, ·)

/-- The positions the loop reaches. -/
def reached (positions : List Position) : List Position :=
  upTo (service.stops requestedModel requestId attempts) positions

private theorem filterMap_cons_toList (f : α → Option β) (item : α) (rest : List α) :
    (item :: rest).filterMap f = (f item).toList ++ rest.filterMap f := by
  cases found : f item <;> simp [found]

/-- The loop is the scan of its positions. -/
theorem course_eq (index : Nat) (ranked : List RankedCandidate) :
    service.course requestedModel requestId attempts index ranked =
      { attempts := (service.reached requestedModel requestId attempts
          (ranked.zipIdx index)).filterMap (service.logAt requestedModel requestId attempts)
        updates := (service.reached requestedModel requestId attempts
          (ranked.zipIdx index)).filterMap (service.updateAt requestedModel requestId attempts)
        effects := (service.reached requestedModel requestId attempts
          (ranked.zipIdx index)).flatMap
            fun position => (service.invocation requestedModel requestId attempts position).effects
        ended := ((ranked.zipIdx index).find?
          (service.stops requestedModel requestId attempts)).elim .exhausted
            (service.endAt requestedModel requestId attempts) } := by
  induction ranked generalizing index with
  | nil => rfl
  | cons item rest ih =>
    have here : service.invocation requestedModel requestId attempts (item, index) =
      service.invokeCandidate requestedModel (attempts index) item.candidate.key requestId index :=
      rfl
    have step : service.next requestedModel requestId attempts (item, index) =
        nextStep (service.invokeCandidate requestedModel (attempts index) item.candidate.key
          requestId index).ended := rfl
    have update : service.updateAt requestedModel requestId attempts (item, index) =
        (service.invokeCandidate requestedModel (attempts index) item.candidate.key requestId
          index).update.map (item.candidate.key, ·) := rfl
    rw [course, List.zipIdx_cons]
    cases ended : nextStep (service.invokeCandidate requestedModel (attempts index)
        item.candidate.key requestId index).ended with
    | skipped =>
      rw [ended] at step
      have passes : service.stops requestedModel requestId attempts (item, index) = false := by
        simp [stops, step, NextStep.continues]
      simp [reached, upTo, passes, logAt, update, filterMap_cons_toList, step, here, ih,
        Course.after]
    | failed error =>
      rw [ended] at step
      have passes : service.stops requestedModel requestId attempts (item, index) = false := by
        simp [stops, step, NextStep.continues]
      simp [reached, upTo, passes, logAt, update, filterMap_cons_toList, step, here, ih,
        Course.after]
    | served response =>
      rw [ended] at step
      have halts : service.stops requestedModel requestId attempts (item, index) = true := by
        simp [stops, step, NextStep.continues]
      simp [reached, upTo, halts, logAt, endAt, update, filterMap_cons_toList, step, here,
        Course.after]
    | escaped error =>
      rw [ended] at step
      have halts : service.stops requestedModel requestId attempts (item, index) = true := by
        simp [stops, step, NextStep.continues]
      simp [reached, upTo, halts, logAt, endAt, update, filterMap_cons_toList, step, here,
        Course.after]
    | cancelled =>
      rw [ended] at step
      have halts : service.stops requestedModel requestId attempts (item, index) = true := by
        simp [stops, step, NextStep.continues]
      simp [reached, upTo, halts, logAt, endAt, update, filterMap_cons_toList, step, here,
        Course.after]

/-- The loop ends at the first position that stops it, or exhausts the ranking. -/
theorem course_ended (index : Nat) (ranked : List RankedCandidate) :
    ((ranked.zipIdx index).find? (service.stops requestedModel requestId attempts) = none ∧
      (service.course requestedModel requestId attempts index ranked).ended = .exhausted) ∨
    ∃ position, (ranked.zipIdx index).find? (service.stops requestedModel requestId attempts) =
        some position ∧
      (service.course requestedModel requestId attempts index ranked).ended =
        service.endAt requestedModel requestId attempts position ∧
      service.endAt requestedModel requestId attempts position ≠ .exhausted := by
  rw [course_eq]
  dsimp only
  cases found : (ranked.zipIdx index).find? (service.stops requestedModel requestId attempts) with
  | none => exact .inl ⟨rfl, rfl⟩
  | some position =>
    refine .inr ⟨position, rfl, rfl, ?_⟩
    have stopped := List.find?_some found
    unfold stops at stopped
    unfold endAt
    cases turned : service.next requestedModel requestId attempts position with
    | skipped =>
      rw [turned] at stopped
      cases stopped
    | failed error =>
      rw [turned] at stopped
      cases stopped
    | served response => simp
    | escaped error => simp
    | cancelled => simp

theorem endAt_served {position : Position} {item : RankedCandidate} {response : Payload}
    (served : service.endAt requestedModel requestId attempts position = .served item response) :
    position.1 = item ∧
      service.next requestedModel requestId attempts position = .served response := by
  unfold endAt at served
  cases turned : service.next requestedModel requestId attempts position with
  | served given =>
    rw [turned] at served
    cases served
    exact ⟨rfl, rfl⟩
  | _ =>
    rw [turned] at served
    cases served

end Scan

section Admission

/-- The candidate is called: its admission is eligible, or none is asked for. -/
def admits (service : GatewayService) (requestedModel : String) (world : AttemptWorld)
    (key : Key) : Bool :=
  if requestedModel = "auto" ∧ service.probes then
    match admitProbe world.healthStore world.probes world.reading key with
    | .ok (admission, _) => admission.evidence.eligible
    | .error _ => false
  else true

/-- The admission comes to a verdict: its clock reading is aware, or none is
asked for. -/
def Decides (service : GatewayService) (requestedModel : String) (world : AttemptWorld) : Prop :=
  requestedModel = "auto" ∧ service.probes = true → world.reading.toUtc.isSome

instance (service : GatewayService) (requestedModel : String) (world : AttemptWorld) :
    Decidable (service.Decides requestedModel world) := inferInstanceAs (Decidable (_ → _))

variable {service : GatewayService} {requestedModel requestId : String} {world : AttemptWorld}
  {key : Key} {index : Nat}

/-- What an invocation can be: an admission that raises or refuses, without
effects, or a call. -/
inductive Invoked (service : GatewayService) (requestedModel : String) (world : AttemptWorld)
    (key : Key) (requestId : String) (index : Nat) : Invocation → Prop where
  | undecided (naive : ¬ service.Decides requestedModel world)
      (denied : service.admits requestedModel world key = false) :
      Invoked service requestedModel world key requestId index
        { ended := .raised (.value "now must be timezone-aware") }
  | refused (decides : service.Decides requestedModel world) (evidence : HealthEligibility)
      (denied : service.admits requestedModel world key = false)
      (ineligible : evidence.eligible = false) :
      Invoked service requestedModel world key requestId index
        { update := some evidence, ended := .raised .candidateUnavailable }
  | called (decides : service.Decides requestedModel world) (update : Option HealthEligibility)
      (lease : Option ProbeLease) (allowed : service.admits requestedModel world key = true)
      (eligible : ∀ evidence ∈ update, evidence.eligible = true) :
      Invoked service requestedModel world key requestId index
        { update
          effects := (service.callCandidate world key requestId index lease).1
          ended := (service.callCandidate world key requestId index lease).2 }

theorem invokeCandidate_cases (service : GatewayService) (requestedModel : String)
    (world : AttemptWorld) (key : Key) (requestId : String) (index : Nat) :
    Invoked service requestedModel world key requestId index
      (service.invokeCandidate requestedModel world key requestId index) := by
  by_cases probed : requestedModel = "auto" ∧ service.probes = true
  · rw [invokeCandidate, if_pos probed]
    cases decided : admitProbe world.healthStore world.probes world.reading key with
    | error error =>
      cases shown : world.reading.toUtc with
      | some at_ =>
        rw [admitProbe_aware world.healthStore world.probes key shown] at decided
        cases decided
      | none =>
        have naive : ¬ service.Decides requestedModel world := by
          intro decides
          simpa [shown] using decides probed
        have denied : service.admits requestedModel world key = false := by
          rw [admits, if_pos probed, decided]
        rw [admitProbe, evaluateHealth_naive shown] at decided
        cases decided
        exact .undecided naive denied
    | ok admitted =>
      obtain ⟨admission, probes⟩ := admitted
      have decides : service.Decides requestedModel world := by
        intro _
        cases shown : world.reading.toUtc with
        | some at_ => rfl
        | none =>
          rw [admitProbe, evaluateHealth_naive shown] at decided
          cases decided
      have verdict : service.admits requestedModel world key = admission.evidence.eligible := by
        rw [admits, if_pos probed, decided]
      dsimp only
      by_cases eligible : admission.evidence.eligible = true
      · rw [if_pos eligible]
        exact .called decides (some admission.evidence) admission.lease (verdict.trans eligible)
          (by simpa using eligible)
      · have ineligible : admission.evidence.eligible = false := by simpa using eligible
        have leaseless : admission.lease = none := by
          rcases admitProbe_cases decided with ⟨_, none, _⟩ | ⟨_, granted, _⟩ | ⟨granted, _⟩
          · exact none
          · exact absurd granted eligible
          · exact absurd granted eligible
        rw [if_neg eligible, leaseless]
        exact .refused decides admission.evidence (verdict.trans ineligible) ineligible
  · rw [invokeCandidate, if_neg probed]
    exact .called (fun asked => absurd asked probed) none none (by rw [admits, if_neg probed])
      (by simp)

end Admission

section Calls

/-- How a request may be answered by a provider that keeps its contract: an
outcome, a legacy payload, or a `ProviderError`. -/
def Answers : CallResult → Prop
  | .outcome _ => True
  | .legacy _ => True
  | .raised (.providerError _) => True
  | _ => False

theorem foreign_of_answers {result : CallResult} (answers : Answers result) :
    result ≠ .raised .candidateUnavailable := by
  rintro rfl
  exact answers

/-- The response of a successful call. -/
def response? : CallResult → Option Payload
  | .outcome outcome => if outcome.success then outcome.response else none
  | .legacy response => some response
  | _ => none

/-- The update, with what its store gives, opens a circuit for a cooldown that ends
beyond the datetime range. -/
def UpdateOverflows (manager : ProviderHealthManager) (store : HealthStoreCall)
    (outcome : ProviderOutcome) : Prop :=
  ∃ stored health, store.getHealth = .ok stored ∧ Begins stored outcome health ∧
    Overflows (some Datetime.maxUtc) manager health outcome

/-- How a health update ends. -/
inductive UpdateEnd (manager : ProviderHealthManager) (store : HealthStoreCall)
    (outcome : ProviderOutcome) : Except PyError (Option ProviderHealth) → Prop where
  | unchanged (contained : ¬ UpdateOverflows manager store outcome) :
      UpdateEnd manager store outcome (.ok none)
  | stored {stored : Option ProviderHealth} {updated : ProviderHealth}
      (contained : ¬ UpdateOverflows manager store outcome)
      (read : store.getHealth = .ok stored)
      (turned : manager.transition (some Datetime.maxUtc) stored outcome = .ok updated) :
      UpdateEnd manager store outcome (.ok (some updated))
  | overflow (overflows : UpdateOverflows manager store outcome) :
      UpdateEnd manager store outcome (.error .overflow)

theorem updateProviderHealth_ends (manager : ProviderHealthManager) (store : HealthStoreCall)
    (outcome : ProviderOutcome) :
    UpdateEnd manager store outcome (updateProviderHealth (some manager) store outcome) := by
  cases read : store.getHealth with
  | error error =>
    have skipped : updateProviderHealth (some manager) store outcome = .ok none := by
      simp [updateProviderHealth, update, read]
    rw [skipped]
    refine .unchanged ?_
    rintro ⟨stored, _, found, _⟩
    rw [read] at found
    cases found
  | ok stored =>
    obtain ⟨health, begins, same⟩ := begins_exists (some Datetime.maxUtc) manager stored outcome
    have escapes : UpdateOverflows manager store outcome ↔
        manager.transition (some Datetime.maxUtc) stored outcome = .error .overflow := by
      rw [same, transition_overflow_iff]
      constructor
      · rintro ⟨_, other, found, starts, overflows⟩
        rw [read] at found
        cases found
        rwa [begins_unique begins starts]
      · exact fun overflows => ⟨stored, health, read, begins, overflows⟩
    cases turned : manager.transition (some Datetime.maxUtc) stored outcome with
    | ok updated =>
      have contained : ¬ UpdateOverflows manager store outcome := by simp [escapes, turned]
      cases written : store.upsertHealth with
      | none =>
        have kept : updateProviderHealth (some manager) store outcome = .ok (some updated) := by
          simp [updateProviderHealth, update, read, turned, written]
        rw [kept]
        exact .stored contained read turned
      | some error =>
        have lost : updateProviderHealth (some manager) store outcome = .ok none := by
          simp [updateProviderHealth, update, read, turned, written]
        rw [lost]
        exact .unchanged contained
    | error error =>
      rcases transition_error (same ▸ turned) with ⟨message, rfl⟩ | rfl
      · have rejected : updateProviderHealth (some manager) store outcome = .ok none := by
          simp [updateProviderHealth, update, read, turned]
        rw [rejected]
        exact .unchanged (by simp [escapes, turned])
      · have raised : updateProviderHealth (some manager) store outcome = .error .overflow := by
          simp [updateProviderHealth, update, read, turned]
        rw [raised]
        exact .overflow (escapes.mpr turned)

/-- The health update of the outcome opens a circuit for a cooldown that ends
beyond the datetime range. -/
def CooldownOverflows (service : GatewayService) (world : AttemptWorld) : Prop :=
  ∃ manager outcome stored health, service.health = some manager ∧
    world.result = .outcome outcome ∧
    (world.managerStore outcome.key).getHealth = .ok stored ∧ Begins stored outcome health ∧
    Overflows (some Datetime.maxUtc) manager health outcome

variable {service : GatewayService} {requestedModel requestId : String} {world : AttemptWorld}
  {key : Key} {index : Nat} {lease : Option ProbeLease}

theorem cooldownOverflows_iff {manager : ProviderHealthManager} {outcome : ProviderOutcome}
    (managed : service.health = some manager) (ended : world.result = .outcome outcome) :
    CooldownOverflows service world ↔
      UpdateOverflows manager (world.managerStore outcome.key) outcome := by
  constructor
  · rintro ⟨_, _, stored, health, present, also, found, begins, overflows⟩
    rw [managed] at present
    rw [ended] at also
    cases present
    cases also
    exact ⟨stored, health, found, begins, overflows⟩
  · rintro ⟨stored, health, found, begins, overflows⟩
    exact ⟨manager, outcome, stored, health, managed, ended, found, begins, overflows⟩

/-- The health update of an outcome raises exactly when its cooldown overflows. -/
theorem updateProviderHealth_cases (service : GatewayService) {outcome : ProviderOutcome}
    (ended : world.result = .outcome outcome) :
    (∃ written, updateProviderHealth service.health (world.managerStore outcome.key) outcome =
      .ok written ∧ ¬ CooldownOverflows service world) ∨
    (updateProviderHealth service.health (world.managerStore outcome.key) outcome =
      .error .overflow ∧ CooldownOverflows service world) := by
  cases managed : service.health with
  | none =>
    refine .inl ⟨none, rfl, ?_⟩
    rintro ⟨manager, _, _, _, present, _⟩
    rw [managed] at present
    cases present
  | some manager =>
    rw [cooldownOverflows_iff managed ended]
    have ends := updateProviderHealth_ends manager (world.managerStore outcome.key) outcome
    generalize updateProviderHealth (some manager) (world.managerStore outcome.key) outcome =
      result at ends
    cases ends with
    | unchanged contained => exact .inl ⟨_, rfl, contained⟩
    | stored contained => exact .inl ⟨_, rfl, contained⟩
    | overflow overflows => exact .inr ⟨rfl, overflows⟩

/-- A contained health update leaves the end of the call as it is; otherwise the
call ends in an overflow. -/
theorem afterCall_cases (service : GatewayService) (world : AttemptWorld) :
    (¬ CooldownOverflows service world ∧
      (afterCall service.health world.managerStore world.result).2 = world.result) ∨
    (CooldownOverflows service world ∧
      afterCall service.health world.managerStore world.result = (none, .raised .overflow)) := by
  cases ended : world.result with
  | outcome outcome =>
    rcases updateProviderHealth_cases service ended with
      ⟨written, updated, contained⟩ | ⟨raised, overflows⟩
    · exact .inl ⟨contained, by simp [afterCall, updated]⟩
    · exact .inr ⟨overflows, by simp [afterCall, raised]⟩
  | _ =>
    refine .inl ⟨?_, rfl⟩
    rintro ⟨_, _, _, _, _, also, _⟩
    rw [ended] at also
    cases also

/-- What the loop does with an answer: it serves a response, and goes on behind a
failure. -/
theorem nextStep_answer {result : CallResult} (answers : Answers result) :
    match response? result with
    | some response => nextStep result = .served response
    | none => ∃ error, nextStep result = .failed error := by
  cases result with
  | outcome outcome =>
    cases succeeded : outcome.success with
    | true =>
      obtain ⟨response, given⟩ := outcome.response_of_success succeeded
      simp [response?, nextStep, succeeded, given]
    | false => simp [response?, nextStep, succeeded]
  | legacy response => rfl
  | raised error =>
    cases error with
    | providerError message => exact ⟨some message, rfl⟩
    | _ => cases answers
  | cancelled => cases answers

/-- Any other end of a call leaves the loop. -/
theorem nextStep_fault {result : CallResult} (fault : ¬ Answers result)
    (foreign : result ≠ .raised .candidateUnavailable) :
    (∃ error, nextStep result = .escaped error) ∨ nextStep result = .cancelled := by
  cases result with
  | outcome outcome => exact absurd trivial fault
  | legacy response => exact absurd trivial fault
  | cancelled => exact .inr rfl
  | raised error =>
    cases error with
    | providerError message => exact absurd trivial fault
    | candidateUnavailable => exact absurd rfl foreign
    | _ => exact .inl ⟨_, rfl⟩

end Calls

section Effects

def callOf : GatewayEffect → Option (Key × Nat)
  | .called key index => some (key, index)
  | _ => none

def rowOf : GatewayEffect → Option AttemptRecord
  | .attemptRow attempt => some attempt
  | _ => none

def healthOf : GatewayEffect → Option ProviderHealth
  | .healthWrite health => some health
  | _ => none

def leaseOf : GatewayEffect → Option ProbeLease
  | .released lease => some lease
  | _ => none

def decisionOf : GatewayEffect → Option RoutingDecision
  | .decisionRecorded decision => some decision
  | _ => none

/-- The row a call leaves, if it leaves one. -/
def rowAt (service : GatewayService) (world : AttemptWorld) (requestId : String) (index : Nat) :
    List AttemptRecord :=
  (service.recordResult world requestId index).filterMap rowOf

variable {service : GatewayService} {requestId : String} {world : AttemptWorld} {key : Key}
  {index : Nat} {lease : Option ProbeLease}

/-- A result leaves attempt rows only. -/
theorem recordResult_rows (service : GatewayService) (world : AttemptWorld) (requestId : String)
    (index : Nat) : service.recordResult world requestId index =
      (service.rowAt world requestId index).map .attemptRow := by
  unfold rowAt recordResult
  split
  · unfold recordProviderAttempt
    split
    · rfl
    · dsimp only
      split
      · rfl
      · split <;> rfl
  · rfl

/-- What a call does, seen through any projection: the call, its row, its health
write, its release. -/
theorem filterMap_callCandidate (of : GatewayEffect → Option β) (service : GatewayService)
    (world : AttemptWorld) (key : Key) (requestId : String) (index : Nat)
    (lease : Option ProbeLease) :
    (service.callCandidate world key requestId index lease).1.filterMap of =
      (of (.called key index)).toList ++
      (service.rowAt world requestId index).filterMap (fun row => of (.attemptRow row)) ++
      ((afterCall service.health world.managerStore world.result).1.toList.filterMap
        fun health => of (.healthWrite health)) ++
      lease.toList.filterMap fun held => of (.released held) := by
  simp only [callCandidate, recordResult_rows, filterMap_cons_toList, List.filterMap_append,
    List.filterMap_map]
  cases (afterCall service.health world.managerStore world.result).1 <;> cases lease <;>
    simp [filterMap_cons_toList]

section Kinds
variable (service : GatewayService) (world : AttemptWorld) (key : Key) (requestId : String)
  (index : Nat) (lease : Option ProbeLease)

theorem calls_callCandidate :
    (service.callCandidate world key requestId index lease).1.filterMap callOf =
      [(key, index)] := by
  simp [filterMap_callCandidate, callOf]

theorem rows_callCandidate :
    (service.callCandidate world key requestId index lease).1.filterMap rowOf =
      service.rowAt world requestId index := by
  simp [filterMap_callCandidate, rowOf]

theorem healthWrites_callCandidate :
    (service.callCandidate world key requestId index lease).1.filterMap healthOf =
      (afterCall service.health world.managerStore world.result).1.toList := by
  simp [filterMap_callCandidate, healthOf]

theorem releases_callCandidate :
    (service.callCandidate world key requestId index lease).1.filterMap leaseOf =
      lease.toList := by
  simp [filterMap_callCandidate, leaseOf]

theorem decisions_callCandidate :
    (service.callCandidate world key requestId index lease).1.filterMap decisionOf = [] := by
  simp [filterMap_callCandidate, decisionOf]

end Kinds

end Effects

section Turns

/-- The candidate at the position is called when the loop reaches it. -/
def calledAt (service : GatewayService) (requestedModel : String) (attempts : Nat → AttemptWorld)
    (position : Position) : Bool :=
  service.admits requestedModel (attempts position.2) position.key

/-- The response of the call at the position, if it is called and succeeds. -/
def successAt (service : GatewayService) (requestedModel : String) (attempts : Nat → AttemptWorld)
    (position : Position) : Option Payload :=
  if service.calledAt requestedModel attempts position then
    response? (attempts position.2).result
  else none

/-- Whatever its health update does, the loop ends at the position: its admission
raises, or it is called and the call does not fail. -/
def settlesAt (service : GatewayService) (requestedModel : String) (attempts : Nat → AttemptWorld)
    (position : Position) : Bool :=
  if service.calledAt requestedModel attempts position then
    !(nextStep (attempts position.2).result).continues
  else !decide (service.Decides requestedModel (attempts position.2))

/-- The candidate at the position is called and its health update overflows. -/
def OverflowsAt (service : GatewayService) (requestedModel : String)
    (attempts : Nat → AttemptWorld) (position : Position) : Prop :=
  service.calledAt requestedModel attempts position = true ∧
    CooldownOverflows service (attempts position.2)

variable {service : GatewayService} {requestedModel requestId : String}
  {attempts : Nat → AttemptWorld} {position : Position}

/-- A turn of the loop: an admission that raises, a refusal that leaves its
verdict, or a call. -/
inductive Turn (service : GatewayService) (requestedModel requestId : String)
    (attempts : Nat → AttemptWorld) (position : Position) : Prop where
  | undecided (naive : ¬ service.Decides requestedModel (attempts position.2))
      (denied : service.calledAt requestedModel attempts position = false)
      (invoked : service.invocation requestedModel requestId attempts position =
        { ended := .raised (.value "now must be timezone-aware") })
  | refused (decides : service.Decides requestedModel (attempts position.2))
      (denied : service.calledAt requestedModel attempts position = false)
      (evidence : HealthEligibility) (ineligible : evidence.eligible = false)
      (invoked : service.invocation requestedModel requestId attempts position =
        { update := some evidence, ended := .raised .candidateUnavailable })
  | called (decides : service.Decides requestedModel (attempts position.2))
      (allowed : service.calledAt requestedModel attempts position = true)
      (update : Option HealthEligibility) (lease : Option ProbeLease)
      (eligible : ∀ evidence ∈ update, evidence.eligible = true)
      (invoked : service.invocation requestedModel requestId attempts position =
        { update
          effects := (service.callCandidate (attempts position.2) position.key requestId
            position.2 lease).1
          ended := (afterCall service.health (attempts position.2).managerStore
            (attempts position.2).result).2 })

theorem turn (service : GatewayService) (requestedModel requestId : String)
    (attempts : Nat → AttemptWorld) (position : Position) :
    Turn service requestedModel requestId attempts position := by
  have cases := service.invokeCandidate_cases requestedModel (attempts position.2) position.key
    requestId position.2
  generalize made : service.invokeCandidate requestedModel (attempts position.2) position.key
    requestId position.2 = invocation at cases
  cases cases with
  | undecided naive denied => exact .undecided naive denied made
  | refused decides evidence denied ineligible =>
    exact .refused decides denied evidence ineligible made
  | called decides update lease allowed eligible =>
    exact .called decides allowed update lease eligible made

/-- A called candidate decides by how its call ended. -/
theorem next_called (requestId : String)
    (allowed : service.calledAt requestedModel attempts position = true) :
    service.next requestedModel requestId attempts position =
      nextStep (afterCall service.health (attempts position.2).managerStore
        (attempts position.2).result).2 := by
  rw [next]
  cases service.turn requestedModel requestId attempts position with
  | undecided _ denied =>
    rw [allowed] at denied
    cases denied
  | refused _ denied =>
    rw [allowed] at denied
    cases denied
  | called _ _ _ _ _ invoked => rw [invoked]

/-- The loop ends where a call settles it, or where a health update overflows. -/
theorem stops_iff (service : GatewayService) (requestedModel requestId : String)
    (attempts : Nat → AttemptWorld) (position : Position) :
    service.stops requestedModel requestId attempts position = true ↔
      service.settlesAt requestedModel attempts position = true ∨
        service.OverflowsAt requestedModel attempts position := by
  rw [stops, settlesAt, OverflowsAt, next]
  cases service.turn requestedModel requestId attempts position with
  | undecided naive denied invoked => simp [invoked, denied, naive, nextStep, NextStep.continues]
  | refused decides denied evidence ineligible invoked =>
    simp [invoked, denied, decides, nextStep, NextStep.continues]
  | called decides allowed update lease eligible invoked =>
    rcases afterCall_cases service (attempts position.2) with
      ⟨contained, kept⟩ | ⟨overflows, raised⟩
    · simp [invoked, allowed, kept, contained]
    · simp [invoked, allowed, raised, overflows, nextStep, NextStep.continues]

/-- Without an overflow the loop reads the ranking up to where it is settled. -/
theorem reached_of_contained (requestId : String) (attempts : Nat → AttemptWorld)
    {positions : List Position}
    (contained : ∀ position ∈ upTo (service.settlesAt requestedModel attempts) positions,
      ¬ service.OverflowsAt requestedModel attempts position) :
    service.reached requestedModel requestId attempts positions =
        upTo (service.settlesAt requestedModel attempts) positions ∧
      positions.find? (service.stops requestedModel requestId attempts) =
        positions.find? (service.settlesAt requestedModel attempts) := by
  have agree : ∀ position ∈ upTo (service.settlesAt requestedModel attempts) positions,
      service.settlesAt requestedModel attempts position =
        service.stops requestedModel requestId attempts position := by
    intro position member
    rw [Bool.eq_iff_iff, stops_iff]
    exact ⟨.inl, fun stops => stops.resolve_right (contained position member)⟩
  have same := upTo_congr agree
  exact ⟨same.1.symm, same.2.symm⟩

/-- Where a health update overflows, the loop ends with the exception. -/
theorem endAt_overflow (overflows : service.OverflowsAt requestedModel attempts position) :
    service.endAt requestedModel requestId attempts position = .escaped .overflow := by
  rw [endAt, next_called requestId overflows.1]
  rcases afterCall_cases service (attempts position.2) with ⟨contained, _⟩ | ⟨_, raised⟩
  · exact absurd overflows.2 contained
  · rw [raised]
    rfl

/-- An overflow before the loop is settled ends it with the exception. -/
theorem course_of_overflow (requestId : String) (attempts : Nat → AttemptWorld)
    {ranked : List RankedCandidate}
    (member : position ∈ upTo (service.settlesAt requestedModel attempts) (ranked.zipIdx index))
    (overflows : service.OverflowsAt requestedModel attempts position) :
    ∃ first, (ranked.zipIdx index).find? (service.stops requestedModel requestId attempts) =
        some first ∧ service.OverflowsAt requestedModel attempts first ∧
      (service.course requestedModel requestId attempts index ranked).ended =
        .escaped .overflow := by
  obtain ⟨first, found, faulty, _⟩ :=
    find?_fault (service.stops_iff requestedModel requestId attempts) member overflows
  refine ⟨first, found, faulty, ?_⟩
  rw [course_eq]
  dsimp only
  rw [found, Option.elim_some, endAt_overflow faulty]

/-- What the loop does after a turn. -/
inductive Outcome (service : GatewayService) (requestedModel requestId : String)
    (attempts : Nat → AttemptWorld) (position : Position) : Prop where
  | skipped (denied : service.calledAt requestedModel attempts position = false)
      (next : service.next requestedModel requestId attempts position = .skipped)
  | overflowed (allowed : service.calledAt requestedModel attempts position = true)
      (overflows : CooldownOverflows service (attempts position.2))
      (next : service.next requestedModel requestId attempts position = .escaped .overflow)
  | served (allowed : service.calledAt requestedModel attempts position = true)
      (contained : ¬ CooldownOverflows service (attempts position.2)) (response : Payload)
      (succeeded : response? (attempts position.2).result = some response)
      (next : service.next requestedModel requestId attempts position = .served response)
  | failed (allowed : service.calledAt requestedModel attempts position = true)
      (contained : ¬ CooldownOverflows service (attempts position.2))
      (unanswered : response? (attempts position.2).result = none) (error : Option String)
      (next : service.next requestedModel requestId attempts position = .failed error)
  | broken (fault : ¬ service.Decides requestedModel (attempts position.2) ∨
        ¬ Answers (attempts position.2).result)
      (next : (∃ error, service.next requestedModel requestId attempts position =
          .escaped error) ∨
        service.next requestedModel requestId attempts position = .cancelled)

/-- No provider raises the exception the gateway keeps for itself. -/
theorem turn_outcome (service : GatewayService) (requestedModel requestId : String)
    (attempts : Nat → AttemptWorld) (position : Position)
    (foreign : (attempts position.2).result ≠ .raised .candidateUnavailable) :
    Outcome service requestedModel requestId attempts position := by
  cases service.turn requestedModel requestId attempts position with
  | undecided naive denied invoked =>
    exact .broken (.inl naive) (.inl ⟨_, by rw [next, invoked]; rfl⟩)
  | refused _ denied evidence ineligible invoked =>
    exact .skipped denied (by rw [next, invoked]; rfl)
  | called _ allowed update lease eligible invoked =>
    rcases afterCall_cases service (attempts position.2) with
      ⟨contained, kept⟩ | ⟨overflows, raised⟩
    · have step : service.next requestedModel requestId attempts position =
          nextStep (attempts position.2).result := by rw [next, invoked, kept]
      by_cases answers : Answers (attempts position.2).result
      · have answered := nextStep_answer answers
        cases given : response? (attempts position.2).result with
        | some response =>
          rw [given] at answered
          exact .served allowed contained response given (step.trans answered)
        | none =>
          rw [given] at answered
          obtain ⟨error, failed⟩ := answered
          exact .failed allowed contained given error (step.trans failed)
      · exact .broken (.inr answers) (by rw [step]; exact nextStep_fault answers foreign)
    · exact .overflowed allowed overflows (by rw [next, invoked, raised]; rfl)

/-- The effects of a turn, through a projection that does not see the call's own
writes apart. -/
theorem filterMap_turn (service : GatewayService) (requestedModel requestId : String)
    (attempts : Nat → AttemptWorld) (position : Position)
    {of : GatewayEffect → Option β} {part : List β}
    (calls : ∀ lease, (service.callCandidate (attempts position.2) position.key requestId
      position.2 lease).1.filterMap of = part) :
    (service.invocation requestedModel requestId attempts position).effects.filterMap of =
      if service.calledAt requestedModel attempts position then part else [] := by
  cases service.turn requestedModel requestId attempts position with
  | undecided _ denied invoked =>
    rw [invoked, denied]
    rfl
  | refused _ denied evidence ineligible invoked =>
    rw [invoked, denied]
    rfl
  | called _ allowed update lease eligible invoked =>
    rw [invoked, allowed, if_pos rfl]
    exact calls lease

/-- What a projection sees of the loop, it sees turn by turn at the candidates
that are called. -/
theorem filterMap_course (service : GatewayService) (requestedModel requestId : String)
    (attempts : Nat → AttemptWorld) (index : Nat) (ranked : List RankedCandidate)
    (of : GatewayEffect → Option β) (part : Position → List β)
    (calls : ∀ position lease, (service.callCandidate (attempts position.2) position.key requestId
      position.2 lease).1.filterMap of = part position) :
    (service.course requestedModel requestId attempts index ranked).effects.filterMap of =
      ((service.reached requestedModel requestId attempts (ranked.zipIdx index)).filter
        (service.calledAt requestedModel attempts)).flatMap part := by
  rw [course_eq]
  dsimp only
  generalize service.reached requestedModel requestId attempts (ranked.zipIdx index) = positions
  induction positions with
  | nil => rfl
  | cons position rest ih =>
    rw [List.flatMap_cons, List.filterMap_append, ih,
      filterMap_turn service requestedModel requestId attempts position (calls position)]
    cases called : service.calledAt requestedModel attempts position <;> simp [called]

/-- The calls of the loop are the admitted candidates it reaches, in order. -/
theorem calls_course (service : GatewayService) (requestedModel requestId : String)
    (attempts : Nat → AttemptWorld) (index : Nat) (ranked : List RankedCandidate) :
    (service.course requestedModel requestId attempts index ranked).effects.filterMap callOf =
      ((service.reached requestedModel requestId attempts (ranked.zipIdx index)).filter
        (service.calledAt requestedModel attempts)).map
          fun position => (position.key, position.2) := by
  rw [filterMap_course service requestedModel requestId attempts index ranked callOf
    (fun position => [(position.key, position.2)]) fun position lease =>
      calls_callCandidate service _ position.key requestId position.2 lease]
  exact List.map_eq_flatMap.symm

/-- A verdict left by a turn says whether its candidate was called. -/
theorem update_turn {entry : Key × HealthEligibility}
    (left : service.updateAt requestedModel requestId attempts position = some entry) :
    entry.1 = position.key ∧
      entry.2.eligible = service.calledAt requestedModel attempts position := by
  obtain ⟨evidence, found, rfl⟩ := Option.map_eq_some_iff.mp left
  refine ⟨rfl, ?_⟩
  cases service.turn requestedModel requestId attempts position with
  | undecided _ _ invoked =>
    rw [invoked] at found
    cases found
  | refused _ denied verdict ineligible invoked =>
    rw [invoked] at found
    cases found
    rw [denied, ineligible]
  | called _ allowed update lease eligible invoked =>
    rw [invoked] at found
    rw [allowed, eligible evidence found]

theorem update_refused (requestId : String)
    (decides : service.Decides requestedModel (attempts position.2))
    (denied : service.calledAt requestedModel attempts position = false) :
    ∃ evidence, service.updateAt requestedModel requestId attempts position =
      some (position.key, evidence) := by
  cases service.turn requestedModel requestId attempts position with
  | undecided naive => exact absurd decides naive
  | refused _ _ evidence _ invoked => exact ⟨evidence, by rw [updateAt, invoked]; rfl⟩
  | called _ allowed =>
    rw [denied] at allowed
    cases allowed

@[simp] theorem attemptLog_key {item : RankedCandidate} {world : AttemptWorld}
    {ended : CallResult} {success : Bool} :
    (service.attemptLog item world ended success).key = item.candidate.key := rfl

@[simp] theorem attemptLog_success {item : RankedCandidate} {world : AttemptWorld}
    {ended : CallResult} {success : Bool} :
    (service.attemptLog item world ended success).success = success := rfl

/-- The log of a turn is about its candidate, and tells a success from a failure. -/
theorem logAt_eq (decides : service.Decides requestedModel (attempts position.2))
    (answers : Answers (attempts position.2).result)
    (contained : service.calledAt requestedModel attempts position = true →
      ¬ CooldownOverflows service (attempts position.2)) :
    (service.logAt requestedModel requestId attempts position).map
        (fun log => (log.key, log.success)) =
      if service.calledAt requestedModel attempts position then
        some (position.key, (service.successAt requestedModel attempts position).isSome)
      else none := by
  cases service.turn_outcome requestedModel requestId attempts position
      (foreign_of_answers answers) with
  | skipped denied next => simp [logAt, next, denied]
  | overflowed allowed overflows => exact absurd overflows (contained allowed)
  | served allowed _ response succeeded next =>
    simp [logAt, next, allowed, successAt, succeeded, Position.key]
  | failed allowed _ unanswered error next =>
    simp [logAt, next, allowed, successAt, unanswered, Position.key]
  | broken fault =>
    rcases fault with naive | unanswerable
    · exact absurd decides naive
    · exact absurd answers unanswerable

end Turns
end ModelPilot.GatewayService
