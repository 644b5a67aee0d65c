import ModelPilot.LedgerCalls
import ModelPilot.RecordStorage
import ModelPilot.SharedLogs
import ModelPilot.StoredTimes

/-! Requests that are served together, whatever the order of their calls: the ledger
holds of each of them what it would hold had the request been alone. -/
namespace ModelPilot.LedgerRuns
open GatewayService GatewayRequest MetricsStore SharedLogs

private theorem exists_of_forall₂ {related : α → β → Prop} {left : List α}
    {right : List β} (relates : List.Forall₂ related left right) {item : α} (member : item ∈ left) :
    ∃ other ∈ right, related item other := by
  induction relates with
  | nil => cases member
  | cons first _ ih =>
    rcases List.mem_cons.mp member with rfl | inside
    · exact ⟨_, List.mem_cons_self, first⟩
    · obtain ⟨other, held, same⟩ := ih inside
      exact ⟨other, List.mem_cons_of_mem _ held, same⟩

section Calls

/-- The attempt, the log or the decision that a call is about. -/
def attemptOf : LedgerCall → Option AttemptRecord
  | .attempt attempt => some attempt
  | _ => none

def logOf : LedgerCall → Option RequestLog
  | .log item => some item
  | _ => none

def decidedOf : LedgerCall → Option RoutingDecision
  | .decision decision => some decision
  | _ => none

def namedBy : LedgerCall → String
  | .attempt attempt => attempt.requestId
  | .decision decision => decision.requestId
  | .log item => item.requestId

variable {requestId : String} {calls ending : List LedgerCall} {course : GatewayService.Course}

private theorem attempts_map (rows : List AttemptRecord) :
    (rows.map LedgerCall.attempt).filterMap attemptOf = rows ∧
      (rows.map LedgerCall.attempt).filterMap logOf = [] ∧
      (rows.map LedgerCall.attempt).filterMap decidedOf = [] := by
  induction rows with
  | nil => exact ⟨rfl, rfl, rfl⟩
  | cons row rest ih => simpa [attemptOf, logOf, decidedOf] using ih

theorem ending_attempts (ends : Ending requestId course ending) :
    ending.filterMap attemptOf = [] := by
  cases ends <;> rfl

theorem CallsOf.attempts (shape : CallsOf requestId calls course ending) :
    calls.filterMap attemptOf = course.effects.filterMap rowOf := by
  rw [shape.calls, List.filterMap_append, ending_attempts shape.ending, (attempts_map _).1,
    List.append_nil]

theorem CallsOf.logs (shape : CallsOf requestId calls course ending) :
    calls.filterMap logOf = ending.filterMap logOf := by
  rw [shape.calls, List.filterMap_append, (attempts_map _).2.1, List.nil_append]

theorem CallsOf.decisions (shape : CallsOf requestId calls course ending) :
    calls.filterMap decidedOf = ending.filterMap decidedOf := by
  rw [shape.calls, List.filterMap_append, (attempts_map _).2.2, List.nil_append]

/-- A request's calls are all about itself. -/
theorem CallsOf.owned (shape : CallsOf requestId calls course ending) {call : LedgerCall}
    (member : call ∈ calls) : namedBy call = requestId := by
  rw [shape.calls] at member
  rcases List.mem_append.mp member with row | last
  · obtain ⟨attempt, inside, rfl⟩ := List.mem_map.mp row
    exact shape.named attempt inside
  · cases shape.ending with
    | silent => cases last
    | logged told about =>
      rw [List.mem_singleton.mp last]
      exact about.requestId
    | decided told about agrees =>
      rcases List.mem_cons.mp last with rfl | last
      · exact about.requestId
      · rw [List.mem_singleton.mp last]
        exact agrees.requestId.trans about.requestId

end Calls

section Steps
variable {ι : Type} {fault : Nat → Option PyError} {ledger after : Ledger}
  {raised : Option PyError}

/-- A call that added a row to the attempts, or one to the decisions. -/
def AddsAttempt (entry : LedgerEntry ι) (row : AttemptRow) : Prop :=
  ∃ attempt, entry.call = .attempt attempt ∧ Stored row attempt

def AddsDecision (entry : LedgerEntry ι) (row : DecisionRow) : Prop :=
  ∃ decision, entry.call = .decision decision ∧ encodeDecision decision = .ok row

def tookAttempt (entry : LedgerEntry ι) : Bool :=
  (attemptOf entry.call).isSome && entry.raised.isNone

def tookDecision (entry : LedgerEntry ι) : Bool :=
  (decidedOf entry.call).isSome && entry.raised.isNone

theorem raised_attempt (attempt : AttemptRecord) : (ledger.perform fault (.attempt attempt)).1 =
    raisedOf (recordAttempt fault ledger.attempts attempt).1 := rfl

theorem raised_decision (decision : RoutingDecision) :
    (ledger.perform fault (.decision decision)).1 =
      raisedOf (MetricsStore.recordRoutingDecision fault ledger.decisions decision).1 := rfl

theorem perform_attempt {attempt : AttemptRecord}
    (performed : ledger.perform fault (.attempt attempt) = (raised, after)) :
    after.decisions = ledger.decisions ∧ after.logs = ledger.logs ∧
    ((raised.isSome = true ∧ after.attempts = ledger.attempts) ∨
      raised = none ∧
        ∃ row, after.attempts = ledger.attempts ++ [row] ∧ Stored row attempt) := by
  dsimp only [Ledger.perform] at performed
  rcases recordAttempt_rows fault ledger.attempts attempt with
    ⟨error, kept⟩ | ⟨row, added, stored, _⟩
  · rw [kept] at performed
    cases performed
    exact ⟨rfl, rfl, .inl ⟨rfl, rfl⟩⟩
  · rw [added] at performed
    cases performed
    exact ⟨rfl, rfl, .inr ⟨rfl, row, rfl, stored⟩⟩

theorem perform_decision {decision : RoutingDecision}
    (performed : ledger.perform fault (.decision decision) = (raised, after)) :
    after.attempts = ledger.attempts ∧ after.logs = ledger.logs ∧
    ((raised.isSome = true ∧ after.decisions = ledger.decisions) ∨
      raised = none ∧ ∃ row, after.decisions = ledger.decisions ++ [row] ∧
        encodeDecision decision = .ok row) := by
  dsimp only [Ledger.perform] at performed
  cases ran : recordRoutingDecision fault ledger.decisions decision with
  | mk ended rows =>
    rw [ran] at performed
    cases performed
    cases ended with
    | ok done =>
      obtain ⟨row, same, encoded, _⟩ := recordRoutingDecision_rows ran
      exact ⟨rfl, rfl, .inr ⟨rfl, row, same, encoded⟩⟩
    | error error =>
      refine ⟨rfl, rfl, .inl ⟨rfl, ?_⟩⟩
      unfold MetricsStore.recordRoutingDecision at ran
      split at ran <;> cases ran
      rfl

end Steps

section Alone
variable (fault : Nat → Option PyError)

/-- The times of an attempt can be written under every identifier, or under none. -/
theorem encodeAttempt_cases (attempt : AttemptRecord) :
    (∃ error, ∀ id, encodeAttempt id attempt = .error error) ∨
      ∀ id, encodeAttempt id attempt = .ok (rowOf id attempt) := by
  cases started : serialize attempt.startedAt with
  | error error => exact .inl ⟨error, fun id => by rw [encodeAttempt, started]; rfl⟩
  | ok startedAt =>
    cases finished : serialize attempt.finishedAt with
    | error error => exact .inl ⟨error, fun id => by rw [encodeAttempt, started, finished]; rfl⟩
    | ok finishedAt =>
      cases created : serialize attempt.createdAt with
      | error error =>
        exact .inl ⟨error, fun id => by rw [encodeAttempt, started, finished, created]; rfl⟩
      | ok createdAt =>
        refine .inr fun id => encodeAttempt_ok_iff.mpr ⟨⟨rfl, ?_, ?_, ?_⟩, rfl⟩
        · exact (serialize_ok_iff.mp started).1
        · exact (serialize_ok_iff.mp finished).1
        · exact (serialize_ok_iff.mp created).1

/-- What the columns of a row are answered. -/
def answerColumns (row : AttemptRow) : Except PyError Unit :=
  if ¬ row.Binds then .error .overflow
  else if ¬ row.Checks then .error (.other "sqlite3.IntegrityError")
  else .ok ()

theorem insertAttempt_fresh {rows : List AttemptRow} {attempt : AttemptRecord}
    (fresh : ∀ row ∈ rows, ¬ (row.requestId = attempt.requestId ∧
      row.attemptIndex = attempt.attemptIndex)) (id : Nat) :
    insertAttempt rows (rowOf id attempt) =
      (answerColumns (rowOf 0 attempt)).map fun _ => rows ++ [rowOf id attempt] := by
  have unknown : ¬ (rows.any fun held => held.requestId = (rowOf id attempt).requestId &&
      held.attemptIndex = (rowOf id attempt).attemptIndex) = true := by
    rw [List.any_eq_true]
    rintro ⟨held, member, same⟩
    rw [Bool.and_eq_true, decide_eq_true_eq, decide_eq_true_eq] at same
    exact fresh held member same
  unfold insertAttempt answerColumns
  by_cases binds : (rowOf 0 attempt).Binds
  · have own : (rowOf id attempt).Binds := binds
    rw [if_neg (not_not_intro own), if_neg (not_not_intro binds)]
    by_cases checks : (rowOf 0 attempt).Checks
    · have accepted : (rowOf id attempt).Checks := checks
      rw [if_neg (not_not_intro checks), if_neg]
      · rfl
      · rintro (refused | known)
        · exact refused accepted
        · exact unknown known
    · have refused : ¬ (rowOf id attempt).Checks := checks
      rw [if_pos checks, if_pos (.inl refused)]
      rfl
  · have own : ¬ (rowOf id attempt).Binds := binds
    rw [if_pos own, if_pos binds]
    rfl

/-- What an attempt under a key that no row has is answered, whatever the table. -/
def answerAlone (attempt : AttemptRecord) : Except PyError Unit := do
  BenchmarkStore.statement fault 0
  let row ← encodeAttempt 0 attempt
  BenchmarkStore.statement fault 1
  answerColumns row
  BenchmarkStore.statement fault 2

theorem recordAttempt_answer {rows : List AttemptRow} {attempt : AttemptRecord}
    (fresh : ∀ row ∈ rows, ¬ (row.requestId = attempt.requestId ∧
      row.attemptIndex = attempt.attemptIndex)) :
    (recordAttempt fault rows attempt).1 = answerAlone fault attempt := by
  have ended : (recordAttempt fault rows attempt).1 =
      (attemptTransaction fault rows attempt).map fun _ => () := by
    unfold recordAttempt
    cases attemptTransaction fault rows attempt <;> rfl
  rw [ended, attemptTransaction, answerAlone]
  cases BenchmarkStore.statement fault 0 with
  | error error => rfl
  | ok _ =>
    rcases encodeAttempt_cases attempt with ⟨error, refused⟩ | encoded
    · simp only [bind, Except.bind, refused, Except.map]
    · simp only [bind, Except.bind, encoded, insertAttempt_fresh fresh]
      cases BenchmarkStore.statement fault 1 with
      | error error => simp only [Except.map]
      | ok _ =>
        cases answerColumns (rowOf 0 attempt) with
        | error error => simp only [Except.map]
        | ok _ =>
          simp only [Except.map]
          cases BenchmarkStore.statement fault 2 <;> rfl

/-- An attempt under a key that no row has is answered as on an empty table. -/
theorem recordAttempt_alone {rows : List AttemptRow} {attempt : AttemptRecord}
    (fresh : ∀ row ∈ rows, ¬ (row.requestId = attempt.requestId ∧
      row.attemptIndex = attempt.attemptIndex)) :
    (recordAttempt fault rows attempt).1 = (recordAttempt fault [] attempt).1 := by
  rw [recordAttempt_answer fault fresh, recordAttempt_answer fault (List.forall_mem_nil _)]

/-- So is a decision under a request that no row has. -/
theorem recordRoutingDecision_alone {rows : List DecisionRow} {decision : RoutingDecision}
    (fresh : ∀ row ∈ rows, row.requestId ≠ decision.requestId) :
    (MetricsStore.recordRoutingDecision fault rows decision).1 =
      (MetricsStore.recordRoutingDecision fault [] decision).1 := by
  have ended : ∀ table, (MetricsStore.recordRoutingDecision fault table decision).1 =
      (decisionTransaction fault table decision).map fun _ => () := by
    intro table
    unfold MetricsStore.recordRoutingDecision
    cases decisionTransaction fault table decision <;> rfl
  rw [ended, ended, decisionTransaction, decisionTransaction]
  cases BenchmarkStore.statement fault 0 with
  | error error => rfl
  | ok _ =>
    cases encoded : encodeDecision decision with
    | error error => rfl
    | ok row =>
      have own : row.requestId = decision.requestId := by
        obtain ⟨_, _, made⟩ := bind_ok_iff.mp encoded
        cases made
        rfl
      have unknown : (rows.any fun other => other.requestId = row.requestId) = false := by
        rw [List.any_eq_false]
        intro other member
        simpa [own] using fresh other member
      simp only [bind, Except.bind, insertDecision, unknown, List.any_nil]
      cases BenchmarkStore.statement fault 1 with
      | error error => rfl
      | ok _ =>
        by_cases checks : row.Checks
        · simp only [if_neg (not_not_intro checks)]
          cases BenchmarkStore.statement fault 2 <;> rfl
        · simp only [if_pos checks]

end Alone

/-- Stored attempts read back. -/
theorem read_back {rows : List AttemptRow} {attempts : List AttemptRecord}
    (stored : List.Forall₂ Stored rows attempts) : rows.mapM attemptFromRow = .ok attempts := by
  induction stored with
  | nil => rfl
  | cons first _ ih =>
    rw [List.mapM_cons, attemptFromRow_stored first, ih]
    rfl

section Serving
variable {float decimal : Rounding} {ι : Type} [DecidableEq ι] {service : GatewayService}
  {requests : ι → GatewayRequest float} {initial ledger : Ledger}
  {history : List (LedgerEntry ι)}

/-- An advance is a call. -/
theorem serves_advance {moment after : List (LedgerEntry ι) × Ledger} {request : ι}
    {fault : Nat → Option PyError}
    (serves : Serves service decimal requests initial moment.1 moment.2)
    (begins : callsOf moment.1 request <+: (requests request).calls service decimal)
    (advanced : advance service decimal requests fault request moment = some after) :
    Serves service decimal requests initial after.1 after.2 := by
  unfold advance at advanced
  split at advanced
  · cases advanced
  · rename_i call here
    dsimp only at advanced
    split at advanced
    · rename_i hears
      cases advanced
      refine serves.call request fault ?_ rfl hears
      obtain ⟨rest, whole⟩ := begins
      rw [← whole, List.getElem?_append_right (Nat.le_refl _), Nat.sub_self] at here
      cases rest with
      | nil => cases here
      | cons head tail =>
        cases here
        exact ⟨tail, by rw [← whole, List.append_assoc]; rfl⟩
    · cases advanced

/-- The attempts and the decisions grow, and the logs keep the newest. -/
theorem grows (serves : Serves service decimal requests initial history ledger) :
    Grows AddsAttempt tookAttempt initial.attempts history ledger.attempts ∧
      Grows AddsDecision tookDecision initial.decisions history ledger.decisions := by
  induction serves with
  | start => exact ⟨.start, .start⟩
  | @call history ledger after call raised request fault _ _ performed _ ih =>
    obtain ⟨attempts, decisions⟩ := ih
    cases call with
    | attempt attempt =>
      obtain ⟨same, _, step⟩ := perform_attempt performed
      refine ⟨?_, ?_⟩
      · rcases step with ⟨refused, kept⟩ | ⟨rfl, row, added, stored⟩
        · rw [kept]
          exact attempts.skipped (by cases raised <;> simp_all [tookAttempt])
        · rw [added]
          exact attempts.added rfl ⟨attempt, rfl, stored⟩
      · rw [same]
        exact decisions.skipped rfl
    | decision decision =>
      obtain ⟨same, _, step⟩ := perform_decision performed
      refine ⟨?_, ?_⟩
      · rw [same]
        exact attempts.skipped rfl
      · rcases step with ⟨refused, kept⟩ | ⟨rfl, row, added, encoded⟩
        · rw [kept]
          exact decisions.skipped (by cases raised <;> simp_all [tookDecision])
        · rw [added]
          exact decisions.added rfl ⟨decision, rfl, encoded⟩
    | log item =>
      cases performed
      exact ⟨attempts.skipped rfl, decisions.skipped rfl⟩

theorem logs_kept (serves : Serves service decimal requests initial history ledger) :
    ledger.logs.limit = initial.logs.limit ∧ ledger.logs.list =
      ((history.filterMap fun entry => logOf entry.call).reverse ++ initial.logs.list).take
        initial.logs.limit := by
  induction serves with
  | start => exact ⟨rfl, (List.take_of_length_le initial.logs.bounded).symm⟩
  | @call history ledger after call raised request fault _ _ performed _ ih =>
    obtain ⟨limit, items⟩ := ih
    rw [List.filterMap_append, List.reverse_append]
    cases call with
    | attempt attempt =>
      rw [(perform_attempt performed).2.1]
      exact ⟨limit, items⟩
    | decision decision =>
      rw [(perform_decision performed).2.1]
      exact ⟨limit, items⟩
    | log item =>
      cases performed
      refine ⟨limit, ?_⟩
      change (item :: ledger.logs.list).take ledger.logs.limit = _
      rw [limit, items]
      exact take_cons_take item _ _

/-- At any moment a request has made the first of its calls. -/
theorem made (serves : Serves service decimal requests initial history ledger) (request : ι) :
    callsOf history request <+: (requests request).calls service decimal := by
  induction serves with
  | start => exact List.nil_prefix
  | @call history _ _ call _ other fault _ next _ _ ih =>
    by_cases same : other = request
    · subst same
      simpa [callsOf] using next
    · simpa [callsOf, same] using ih

theorem serves_serve {order : List ι} {moment after : List (LedgerEntry ι) × Ledger}
    (serves : Serves service decimal requests initial moment.1 moment.2)
    (served : serve service decimal requests order moment = some after) :
    Serves service decimal requests initial after.1 after.2 := by
  induction order generalizing moment with
  | nil =>
    cases served
    exact serves
  | cons request rest ih =>
    obtain ⟨middle, advanced, later⟩ := Option.bind_eq_some_iff.mp served
    exact ih (serves_advance serves (made serves request) advanced) later

theorem heard (serves : Serves service decimal requests initial history ledger)
    {entry : LedgerEntry ι} (member : entry ∈ history) :
    (requests entry.request).Hears entry.raised entry.call := by
  induction serves with
  | start => cases member
  | call _ _ _ _ _ hears ih =>
    rcases List.mem_append.mp member with inside | last
    · exact ih inside
    · rw [List.mem_singleton.mp last]
      exact hears

theorem owned (serves : Serves service decimal requests initial history ledger)
    {entry : LedgerEntry ι} (member : entry ∈ history) :
    namedBy entry.call = (requests entry.request).requestId := by
  obtain ⟨course, ending, shape, _⟩ :=
    calls_shape service decimal (requests entry.request)
  have inside : entry.call ∈ callsOf history entry.request :=
    List.mem_map_of_mem (List.mem_filter.mpr ⟨member, by simp⟩)
  exact CallsOf.owned shape ((made serves entry.request).subset inside)

/-- The attempts and the decisions among some calls of a request that its store took, as
far as the request has heard. -/
def takenAttempts (served : GatewayRequest float) (calls : List LedgerCall) :
    List AttemptRecord :=
  (calls.filterMap attemptOf).filter fun attempt =>
    (served.world.attempts attempt.attemptIndex).recordAttempt.isNone

def takenDecisions (served : GatewayRequest float) (calls : List LedgerCall) :
    List RoutingDecision :=
  if served.world.recordRoutingDecision = none then calls.filterMap decidedOf else []

theorem taken_attempts {request : ι}
    (hears : ∀ entry ∈ history, (requests entry.request).Hears entry.raised entry.call) :
    (history.filter fun entry => decide (entry.request = request) && tookAttempt entry).filterMap
        (fun entry => attemptOf entry.call) =
      takenAttempts (requests request) (callsOf history request) := by
  induction history with
  | nil => rfl
  | cons entry rest ih =>
    obtain ⟨heard, later⟩ := List.forall_mem_cons.mp hears
    have tail := ih later
    unfold takenAttempts callsOf at tail ⊢
    by_cases own : entry.request = request
    · cases called : entry.call with
      | attempt attempt =>
        rw [called, own] at heard
        have answer : ((requests request).world.attempts attempt.attemptIndex).recordAttempt =
            entry.raised := heard
        have about : attemptOf entry.call = some attempt := by
          rw [called]
          rfl
        cases raised : entry.raised with
        | none => simpa [own, tookAttempt, about, raised, answer] using tail
        | some error => simpa [own, tookAttempt, about, raised, answer] using tail
      | _ =>
        have about : attemptOf entry.call = none := by
          rw [called]
          rfl
        simpa [own, tookAttempt, about] using tail
    · simpa [own] using tail

theorem taken_decisions {request : ι}
    (hears : ∀ entry ∈ history, (requests entry.request).Hears entry.raised entry.call) :
    (history.filter fun entry => decide (entry.request = request) && tookDecision entry).filterMap
        (fun entry => decidedOf entry.call) =
      takenDecisions (requests request) (callsOf history request) := by
  induction history with
  | nil =>
    unfold takenDecisions
    split <;> rfl
  | cons entry rest ih =>
    obtain ⟨heard, later⟩ := List.forall_mem_cons.mp hears
    have tail := ih later
    unfold takenDecisions callsOf at tail ⊢
    by_cases own : entry.request = request
    · cases called : entry.call with
      | decision decision =>
        rw [called, own] at heard
        have answer : (requests request).world.recordRoutingDecision = entry.raised := heard
        have about : decidedOf entry.call = some decision := by
          rw [called]
          rfl
        rw [answer] at tail ⊢
        cases raised : entry.raised with
        | none =>
          rw [raised] at tail
          simpa [own, tookDecision, about, raised] using tail
        | some error =>
          rw [raised] at tail
          simpa [own, tookDecision, about, raised] using tail
      | _ =>
        have about : decidedOf entry.call = none := by
          rw [called]
          rfl
        simpa [own, tookDecision, about] using tail
    · simpa [own] using tail

/-- The attempts a request has made of its calls come under rising indices. -/
theorem rising {call : LedgerCall} {request : ι}
    (next : callsOf history request ++ [call] <+: (requests request).calls service decimal) :
    ((((callsOf history request) ++ [call]).filterMap attemptOf).map
      (·.attemptIndex)).Pairwise (· < ·) := by
  obtain ⟨course, ending, shape, _⟩ := calls_shape service decimal (requests request)
  have ordered := shape.rising
  rw [← CallsOf.attempts shape] at ordered
  exact ordered.sublist ((next.sublist.filterMap attemptOf).map _)

theorem finished_attempts {request : ι}
    (all : callsOf history request = (requests request).calls service decimal) :
    takenAttempts (requests request) (callsOf history request) =
        ((requests request).complete service decimal).effects.filterMap rowOf ∧
      takenDecisions (requests request) (callsOf history request) =
        ((requests request).complete service decimal).effects.filterMap decisionOf := by
  have alone := answered service decimal (requests request)
  have seen : ∀ effects : List GatewayEffect,
      (effects.filterMap GatewayEffect.ledgerCall).filterMap attemptOf = effects.filterMap rowOf ∧
        (effects.filterMap GatewayEffect.ledgerCall).filterMap decidedOf =
          effects.filterMap decisionOf := by
    intro effects
    rw [List.filterMap_filterMap, List.filterMap_filterMap]
    exact ⟨List.filterMap_congr fun effect _ => by cases effect <;> rfl,
      List.filterMap_congr fun effect _ => by cases effect <;> rfl⟩
  rw [all, alone.rows, alone.decisions, takenAttempts, takenDecisions, calls, (seen _).1,
    (seen _).2]
  exact ⟨rfl, rfl⟩

/-- What the requests share, at any moment, as each of them and a reader of the logs find
it. -/
structure Shared (service : GatewayService) (decimal : Rounding)
    (requests : ι → GatewayRequest float) (initial : Ledger) (history : List (LedgerEntry ι))
    (ledger : Ledger) : Prop where
  attempts : ∀ request, (ledger.attemptsOf (requests request).requestId).mapM attemptFromRow =
    .ok (takenAttempts (requests request) (callsOf history request))
  decisions : ∀ request, List.Forall₂ (fun row decision => encodeDecision decision = .ok row)
    (ledger.decisionsOf (requests request).requestId)
    (takenDecisions (requests request) (callsOf history request))
  finished : ∀ request, callsOf history request = (requests request).calls service decimal →
    takenAttempts (requests request) (callsOf history request) =
        ((requests request).complete service decimal).effects.filterMap rowOf ∧
      takenDecisions (requests request) (callsOf history request) =
        ((requests request).complete service decimal).effects.filterMap decisionOf
  answers : ∀ entry ∈ history,
    entry.raised = (({} : Ledger).perform entry.fault entry.call).1
  kept : initial.attempts <+: ledger.attempts ∧ initial.decisions <+: ledger.decisions
  logs : ledger.logs.list =
    ((history.filterMap fun entry => logOf entry.call).reverse ++ initial.logs.list).take
      initial.logs.limit

section Apart
variable (distinct : ∀ one other, (requests one).requestId = (requests other).requestId →
    one = other)
  (fresh : ∀ request, initial.attemptsOf (requests request).requestId = [] ∧
    initial.decisionsOf (requests request).requestId = [])
include distinct fresh

/-- The rows about a request are those of its own calls that were taken. -/
theorem rows_apart (serves : Serves service decimal requests initial history ledger)
    (request : ι) :
    List.Forall₂ Stored (ledger.attemptsOf (requests request).requestId)
      (takenAttempts (requests request) (callsOf history request)) := by
  have tagged : ∀ entry row, entry ∈ history → AddsAttempt entry row →
      decide (row.requestId = (requests request).requestId) =
        decide (entry.request = request) := by
    rintro entry row member ⟨attempt, called, stored⟩
    have name : row.requestId = (requests entry.request).requestId := by
      rw [← owned serves member, called, stored.row]
      rfl
    rw [name]
    exact decide_eq_decide.mpr ⟨distinct _ _, fun same => by rw [same]⟩
  have own := (grows serves).1.own tagged fun row member => by
    simpa using List.filter_eq_nil_iff.mp (fresh request).1 row member
  rw [← taken_attempts fun entry member => heard serves member]
  refine forall₂_contents ?_ own
  rintro entry row ⟨attempt, called, stored⟩
  exact ⟨attempt, by rw [called]; rfl, stored⟩

theorem decisions_apart (serves : Serves service decimal requests initial history ledger)
    (request : ι) :
    List.Forall₂ (fun row decision => encodeDecision decision = .ok row)
      (ledger.decisionsOf (requests request).requestId)
      (takenDecisions (requests request) (callsOf history request)) := by
  have tagged : ∀ entry row, entry ∈ history → AddsDecision entry row →
      decide (row.requestId = (requests request).requestId) =
        decide (entry.request = request) := by
    rintro entry row member ⟨decision, called, encoded⟩
    have name : row.requestId = (requests entry.request).requestId := by
      rw [← owned serves member, called]
      obtain ⟨_, _, made⟩ := bind_ok_iff.mp encoded
      cases made
      rfl
    rw [name]
    exact decide_eq_decide.mpr ⟨distinct _ _, fun same => by rw [same]⟩
  have own := (grows serves).2.own tagged fun row member => by
    simpa using List.filter_eq_nil_iff.mp (fresh request).2 row member
  rw [← taken_decisions fun entry member => heard serves member]
  refine forall₂_contents ?_ own
  rintro entry row ⟨decision, called, encoded⟩
  exact ⟨decision, by rw [called]; rfl, encoded⟩

/-- Every call is answered as by an empty ledger: no request is in the way of another. -/
theorem answered_alone (serves : Serves service decimal requests initial history ledger)
    {call : LedgerCall} {request : ι}
    (next : callsOf history request ++ [call] <+: (requests request).calls service decimal)
    (fault : Nat → Option PyError) :
    (ledger.perform fault call).1 = (({} : Ledger).perform fault call).1 := by
  obtain ⟨course, ending, shape, _⟩ := calls_shape service decimal (requests request)
  have own : namedBy call = (requests request).requestId :=
    CallsOf.owned shape (next.subset (List.mem_append_right _ List.mem_cons_self))
  cases call with
  | attempt attempt =>
    rw [raised_attempt, raised_attempt]
    apply congrArg raisedOf
    apply recordAttempt_alone
    rintro row member ⟨named, index⟩
    -- a row under this key is one of the request's own earlier attempts, whose index is lower
    have inside : row ∈ ledger.attemptsOf (requests request).requestId :=
      List.mem_filter.mpr ⟨member, by simpa using named.trans own⟩
    obtain ⟨earlier, made, stored⟩ :=
      exists_of_forall₂ (rows_apart distinct fresh serves request) inside
    have before := rising next
    rw [List.filterMap_append, List.map_append, List.pairwise_append] at before
    have lower := before.2.2 earlier.attemptIndex
      (List.mem_map_of_mem (List.mem_of_mem_filter made)) attempt.attemptIndex
      (by simp [attemptOf])
    rw [stored.row] at index
    exact absurd (Int.ofNat.inj index) (Nat.ne_of_lt lower)
  | decision decision =>
    rw [raised_decision, raised_decision]
    apply congrArg raisedOf
    apply recordRoutingDecision_alone
    rintro row member named
    have inside : row ∈ ledger.decisionsOf (requests request).requestId :=
      List.mem_filter.mpr ⟨member, by simpa using named.trans own⟩
    obtain ⟨earlier, made, _⟩ :=
      exists_of_forall₂ (decisions_apart distinct fresh serves request) inside
    have few : ((callsOf history request ++ [LedgerCall.decision decision]).filterMap
        decidedOf).length ≤ 1 := by
      refine (next.sublist.filterMap decidedOf).length_le.trans ?_
      rw [CallsOf.decisions shape]
      cases shape.ending with
      | silent => exact Nat.zero_le _
      | logged _ _ => exact Nat.zero_le _
      | decided _ _ _ => exact Nat.le_refl _
    rw [List.filterMap_append, List.length_append] at few
    have none : (callsOf history request).filterMap decidedOf = [] :=
      List.length_eq_zero_iff.mp (Nat.le_zero.mp (Nat.le_of_succ_le_succ few))
    unfold takenDecisions at made
    rw [none] at made
    split at made <;> cases made
  | log item => rfl

/-- Whatever the order in which requests with different identifiers make their calls, the
ledger holds of each of them what it has made of it itself, and answers it as if it were
alone. -/
theorem requests_share_safely (serves : Serves service decimal requests initial history ledger) :
    Shared service decimal requests initial history ledger := by
  refine ⟨fun request => read_back (rows_apart distinct fresh serves request),
    decisions_apart distinct fresh serves,
    fun request => finished_attempts, fun entry member => ?answers,
    ⟨(grows serves).1.keeps, (grows serves).2.keeps⟩, (logs_kept serves).2⟩
  case answers =>
    induction serves with
    | start => cases member
    | @call history ledger after call raised request fault before next performed _ ih =>
      rcases List.mem_append.mp member with inside | last
      · exact ih inside
      · rw [List.mem_singleton.mp last, ← answered_alone distinct fresh before next fault,
          performed]

end Apart
/-- The beginnings of the calls of a request: some of its rows, or all of them and a
beginning of what follows. -/
theorem beginning_cases {first second part : List α} (begins : part <+: first ++ second) :
    part <+: first ∨ ∃ more, part = first ++ more ∧ more <+: second := by
  obtain ⟨rest, same⟩ := begins
  rcases List.append_eq_append_iff.mp same with ⟨left, whole, _⟩ | ⟨more, rfl, behind⟩
  · exact .inl ⟨left, whole.symm⟩
  · exact .inr ⟨more, rfl, rest, behind.symm⟩

/-- A request that has logged has made all its rows. -/
theorem log_cases {requestId : String} {calls ending part : List LedgerCall}
    {course : GatewayService.Course}
    {log : RequestLog} (shape : CallsOf requestId calls course ending) (begins : part <+: calls)
    (logged : .log log ∈ part) :
    ∃ served more, part = (course.effects.filterMap rowOf).map .attempt ++ .log log :: more ∧
      Logged course served ∧ LogOf requestId course served log ∧
      (more = [] ∨ ∃ decision, more = [.decision decision] ∧ DecisionOf log decision) := by
  rw [shape.calls] at begins
  rcases beginning_cases begins with early | ⟨more, rfl, late⟩
  · obtain ⟨row, _, other⟩ := List.mem_map.mp (early.subset logged)
    cases other
  · have inside : .log log ∈ more := by
      rcases List.mem_append.mp logged with row | inside
      · obtain ⟨_, _, other⟩ := List.mem_map.mp row
        cases other
      · exact inside
    cases shape.ending with
    | silent =>
      rw [List.prefix_nil.mp late] at inside
      cases inside
    | @logged other served told about =>
      rcases List.prefix_cons_iff.mp late with rfl | ⟨rest, rfl, last⟩
      · cases inside
      · rw [List.prefix_nil.mp last] at inside ⊢
        cases List.mem_singleton.mp inside
        exact ⟨served, [], rfl, told, about, .inl rfl⟩
    | @decided other decision served told about agrees =>
      rcases List.prefix_cons_iff.mp late with rfl | ⟨rest, rfl, last⟩
      · cases inside
      · have same : log = other := by
          rcases List.mem_cons.mp inside with head | tail
          · cases head
            rfl
          · cases List.mem_singleton.mp (last.subset tail)
        subst same
        refine ⟨served, rest, rfl, told, about, ?_⟩
        rcases List.prefix_cons_iff.mp last with rfl | ⟨none, rfl, final⟩
        · exact .inl rfl
        · rw [List.prefix_nil.mp final]
          exact .inr ⟨decision, rfl, agrees⟩

/-- How a log tells its request ended: with the candidate that was called last and is the
only success, or with failures only. -/
def EndsOnce (log : RequestLog) : Prop :=
  (log.success = true ∧ ∃ failures last, log.attempts = failures ++ [last] ∧
    (∀ attempt ∈ failures, attempt.success = false) ∧ last.success = true ∧
    log.selectedProvider = some last.provider ∧ log.selectedModel = some last.model) ∨
  (log.success = false ∧ log.selectedProvider = none ∧ log.selectedModel = none ∧
    ∀ attempt ∈ log.attempts, attempt.success = false)

theorem endsOnce_of_log {requestId : String} {course : GatewayService.Course}
    {served : Option RankedCandidate} {log : RequestLog} (told : Logged course served)
    (about : LogOf requestId course served log) : EndsOnce log := by
  obtain ⟨failures, failed, attempts⟩ := told.attempts
  cases served with
  | none =>
    have same : log.attempts = failures := about.attempts.trans attempts
    exact .inr ⟨about.success, about.provider, about.model, same ▸ failed⟩
  | some item =>
    obtain ⟨last, same, succeeded, key⟩ := attempts
    refine .inl
      ⟨about.success, failures, last, about.attempts.trans same, failed, succeeded, ?_, ?_⟩
    · rw [about.provider]
      exact congrArg some (congrArg Prod.fst key).symm
    · rw [about.model]
      exact congrArg some (congrArg Prod.snd key).symm

theorem calls_once {requestId : String} {calls ending : List LedgerCall}
    {course : GatewayService.Course}
    (shape : CallsOf requestId calls course ending) :
    (calls.filterMap logOf).length ≤ 1 ∧ (calls.filterMap decidedOf).length ≤ 1 := by
  rw [CallsOf.logs shape, CallsOf.decisions shape]
  cases shape.ending with
  | silent => exact ⟨Nat.zero_le _, Nat.zero_le _⟩
  | logged _ _ => exact ⟨Nat.le_refl _, Nat.zero_le _⟩
  | decided _ _ _ => exact ⟨Nat.le_refl _, Nat.le_refl _⟩

/-- A decision is made behind the log it agrees with. -/
theorem decision_cases {requestId : String} {calls ending part : List LedgerCall}
    {course : GatewayService.Course}
    {decision : RoutingDecision} (shape : CallsOf requestId calls course ending)
    (begins : part <+: calls) (made : .decision decision ∈ part) :
    ∃ log served, .log log ∈ part ∧ LogOf requestId course served log ∧
      DecisionOf log decision := by
  rw [shape.calls] at begins
  rcases beginning_cases begins with early | ⟨more, rfl, late⟩
  · obtain ⟨row, _, other⟩ := List.mem_map.mp (early.subset made)
    cases other
  · have inside : .decision decision ∈ more := by
      rcases List.mem_append.mp made with row | inside
      · obtain ⟨_, _, other⟩ := List.mem_map.mp row
        cases other
      · exact inside
    cases shape.ending with
    | silent => cases late.subset inside
    | logged told about => cases List.mem_singleton.mp (late.subset inside)
    | @decided log other served told about agrees =>
      rcases List.prefix_cons_iff.mp late with rfl | ⟨rest, rfl, last⟩
      · cases inside
      · have same : decision = other := by
          rcases List.mem_cons.mp (late.subset inside) with head | tail
          · cases head
          · cases List.mem_singleton.mp tail
            rfl
        subst same
        exact ⟨log, served, List.mem_append_right _ List.mem_cons_self, about, agrees⟩

/-- How the log, the attempt rows and the decision of a request go together. -/
structure Consistent (service : GatewayService) (decimal : Rounding)
    (requests : ι → GatewayRequest float) (history : List (LedgerEntry ι)) (ledger : Ledger)
    (request : ι) : Prop where
  once : ((callsOf history request).filterMap logOf).length ≤ 1 ∧
    (ledger.decisionsOf (requests request).requestId).length ≤ 1
  logged : ∀ log, .log log ∈ callsOf history request →
    log.requestId = (requests request).requestId ∧ EndsOnce log ∧
    ∃ rows, (ledger.attemptsOf (requests request).requestId).mapM attemptFromRow = .ok rows ∧
      rows = takenAttempts (requests request) ((requests request).calls service decimal) ∧
      (rows.map rowTells).Sublist (log.attempts.map logTells)
  decided : ∀ row ∈ ledger.decisionsOf (requests request).requestId,
    ∃ log, .log log ∈ callsOf history request ∧ row.servedProvider = log.selectedProvider ∧
      row.servedModel = log.selectedModel ∧ log.success = row.servedProvider.isSome

/-- At any moment of requests that are served together: once a request is logged, its
attempt rows are final and the log tells all of them, in their order; and a routing
decision is only there behind the log, with the same served pair. -/
theorem ledger_is_consistent
    (distinct : ∀ one other,
      (requests one).requestId = (requests other).requestId → one = other)
    (fresh : ∀ request, initial.attemptsOf (requests request).requestId = [] ∧
      initial.decisionsOf (requests request).requestId = [])
    (serves : Serves service decimal requests initial history ledger) (request : ι) :
    Consistent service decimal requests history ledger request := by
  obtain ⟨course, ending, shape, _⟩ := calls_shape service decimal (requests request)
  have begins := made serves request
  have decisions := decisions_apart distinct fresh serves request
  obtain ⟨oneLog, oneDecision⟩ := calls_once shape
  refine ⟨⟨?oneLog, ?oneDecision⟩, fun log logged => ?logged, fun row member => ?decided⟩
  case oneLog => exact (begins.sublist.filterMap logOf).length_le.trans oneLog
  case oneDecision =>
    rw [decisions.length_eq, takenDecisions]
    split
    · exact (begins.sublist.filterMap decidedOf).length_le.trans oneDecision
    · exact Nat.zero_le _
  case logged =>
    obtain ⟨served, more, made, told, about, behind⟩ := log_cases shape begins logged
    have all : (callsOf history request).filterMap attemptOf =
        ((requests request).calls service decimal).filterMap attemptOf := by
      rw [CallsOf.attempts shape, made, List.filterMap_append, (attempts_map _).1]
      rcases behind with rfl | ⟨decision, rfl, _⟩ <;> simp [attemptOf]
    have taken : takenAttempts (requests request) (callsOf history request) =
        takenAttempts (requests request) ((requests request).calls service decimal) := by
      rw [takenAttempts, takenAttempts, all]
    refine ⟨about.requestId, endsOnce_of_log told about, _,
      read_back (rows_apart distinct fresh serves request), taken, ?_⟩
    rw [taken, takenAttempts, CallsOf.attempts shape, about.attempts]
    exact (List.filter_sublist.map _).trans told.rows
  case decided =>
    obtain ⟨decision, taken, encoded⟩ := exists_of_forall₂ decisions member
    have called : .decision decision ∈ callsOf history request := by
      unfold takenDecisions at taken
      split at taken
      · obtain ⟨call, inside, same⟩ := List.mem_filterMap.mp taken
        cases call <;> cases same
        exact inside
      · cases taken
    obtain ⟨log, served, logged, about, agrees⟩ := decision_cases shape begins called
    obtain ⟨_, _, made⟩ := bind_ok_iff.mp encoded
    cases made
    refine ⟨log, logged, agrees.provider, agrees.model, ?_⟩
    change log.success = decision.servedProvider.isSome
    rw [agrees.provider, about.success, about.provider, Option.isSome_map]

section Interleaved

/-- A gateway with one candidate and a metrics store. -/
def recordingGateway : GatewayService := { soleGateway with metrics := true }

/-- Two automatic requests that are answered. -/
def twoRequests : Bool → GatewayRequest .exact
  | false => ⟨qualityRequest, relayingWorld upstreamExtension⟩
  | true => ⟨qualityRequest, { relayingWorld upstreamExtension with uuidHex := "2" }⟩

theorem twoRequests_distinct : ∀ one other : Bool,
    (twoRequests one).requestId = (twoRequests other).requestId → one = other := by
  decide

theorem twoRequests_fresh (request : Bool) :
    ({} : Ledger).attemptsOf (twoRequests request).requestId = [] ∧
      ({} : Ledger).decisionsOf (twoRequests request).requestId = [] := ⟨rfl, rfl⟩

/-- Their calls, made in turns. -/
theorem two_requests_served : ∃ history ledger,
    Serves recordingGateway .exact twoRequests {} history ledger ∧
      (callsOf history false).length = 3 ∧ (callsOf history true).length = 3 ∧
      callsOf history false = (twoRequests false).calls recordingGateway .exact := by
  have ends : ((serve recordingGateway .exact twoRequests
      [false, true, true, false, false, true] ([], {})).map fun moment =>
        ((callsOf moment.1 false).length, (callsOf moment.1 true).length,
          ((twoRequests false).calls recordingGateway .exact).length)) = some (3, 3, 3) := by
    decide +kernel
  obtain ⟨⟨history, ledger⟩, served, counts⟩ := Option.map_eq_some_iff.mp ends
  simp only [Prod.mk.injEq] at counts
  have serves : Serves recordingGateway .exact twoRequests {} history ledger :=
    serves_serve .start served
  exact ⟨history, ledger, serves, counts.1, counts.2.1,
    (made serves false).eq_of_length (counts.1.trans counts.2.2.symm)⟩

theorem two_requests_share : ∃ history ledger, history ≠ [] ∧
    Shared recordingGateway .exact twoRequests {} history ledger := by
  obtain ⟨history, ledger, serves, count, _⟩ := two_requests_served
  refine ⟨history, ledger, ?_,
    requests_share_safely twoRequests_distinct twoRequests_fresh serves⟩
  rintro rfl
  cases count

/-- Both are logged, each with its row and its decision. -/
theorem two_requests_consistent : ∃ history ledger,
    callsOf history false = (twoRequests false).calls recordingGateway .exact ∧
    ∀ request, Consistent recordingGateway .exact twoRequests history ledger request := by
  obtain ⟨history, ledger, serves, _, _, all⟩ := two_requests_served
  exact ⟨history, ledger, all,
    ledger_is_consistent twoRequests_distinct twoRequests_fresh serves⟩

end Interleaved
end Serving
end ModelPilot.LedgerRuns
