import ModelPilot.BenchmarkApi
import ModelPilot.AdapterOutcomes

/-! One read of the dashboard (`fetchJson` of `lib/api.ts`): a request that races with its
deadline and with the signal of its caller. -/
namespace ModelPilot

/-! ### Errors -/

/-- `errorCodes`, in their order. -/
inductive ErrorCode where
  | benchmarkRunNotFound
  | noQualityEvidence
  | qualitySuiteNotConfigured
  | benchmarkDataUnavailable
  | invalidBenchmarkTarget
  | requestTimeout
  | requestFailed
  | invalidResponse
  deriving DecidableEq, Repr

namespace ErrorCode

def value : ErrorCode → String
  | .benchmarkRunNotFound => "benchmark_run_not_found"
  | .noQualityEvidence => "no_quality_evidence"
  | .qualitySuiteNotConfigured => "quality_suite_not_configured"
  | .benchmarkDataUnavailable => "benchmark_data_unavailable"
  | .invalidBenchmarkTarget => "invalid_benchmark_target"
  | .requestTimeout => "request_timeout"
  | .requestFailed => "request_failed"
  | .invalidResponse => "invalid_response"

def errorCodes : List ErrorCode :=
  [.benchmarkRunNotFound, .noQualityEvidence, .qualitySuiteNotConfigured,
    .benchmarkDataUnavailable, .invalidBenchmarkTarget, .requestTimeout, .requestFailed,
    .invalidResponse]

end ErrorCode

/-- `safeErrorCode`: the code of a payload when it is on the list. -/
def safeErrorCode (payload : Json) : ErrorCode :=
  match (payload.member "detail").bind (·.member "code") with
  | some (.str code) => (ErrorCode.errorCodes.find? (·.value = code)).getD .requestFailed
  | _ => .requestFailed

/-- What a read throws: the `AbortError` of `fetchJson`, an `ApiError`, or what `fetch`
rejects with, which no caller sees. -/
inductive Thrown where
  | cancelled
  | api (status : Option Nat) (code : ErrorCode)
  | other (name : String)
  deriving DecidableEq, Repr

def Thrown.timeout : Thrown := .api none .requestTimeout

namespace FetchJson

abbrev Outcome := Except Thrown Json

/-! ### The read -/

/-- How far the inner `request` is. -/
inductive Exchange where
  | unsent
  | sent
  | answered (status : Nat)
  | settled

/-- A read: the signal of its caller and whether it listens to it, its timer and the flag that
the timer sets, the rejection of `interrupted`, its request, what settled first, and what the
caller was given. -/
structure Call where
  aborted : Bool := false
  listening : Bool := true
  timer : Bool := true
  timedOut : Bool := false
  interrupted : Option Thrown := none
  request : Exchange := .sent
  raced : Option Outcome := none
  result : Option Outcome := none

/-- What can happen to a read: its caller aborts the signal, the timer fires, `fetch` rejects
or resolves, the body is read or cannot be, and the function goes on after the race. -/
inductive Event where
  | abort
  | deadline
  | reject (name : String)
  | answer (status : Nat)
  | read (body : Option Json)
  | resume

/-- The beginning, with the signal of the caller as it is. -/
def start (aborted : Bool) : Call :=
  if aborted then
    { aborted, listening := false, timer := false, request := .unsent
      result := some (.error .cancelled) }
  else {}

/-- `controller.abort()`, which is heard once. -/
def Call.abortController (call : Call) : Call :=
  match call.interrupted with
  | some _ => call
  | none =>
    let error := if call.timedOut then Thrown.timeout else .cancelled
    { call with interrupted := some error, raced := call.raced.or (some (.error error)) }

/-- The caller aborts its signal. -/
def Call.abort (call : Call) : Call :=
  if call.listening then
    { call with aborted := true, listening := false }.abortController
  else { call with aborted := true }

/-- The inner `request` settles. -/
def Call.settle (call : Call) (outcome : Outcome) : Call :=
  { call with request := .settled, raced := call.raced.or (some outcome) }

/-- `response.ok`. -/
def ok (status : Nat) : Bool := 200 ≤ status && status ≤ 299

/-- What `request` makes of an answer whose body was read, or could not be. -/
def responded (status : Nat) (body : Option Json) : Outcome :=
  if ok status then
    match body with
    | some payload => .ok payload
    | none => .error (.api status .invalidResponse)
  else .error (.api status (safeErrorCode (body.getD .null)))

/-- What the function makes of the race: its `return` and its `catch`. -/
def conclude (aborted timedOut : Bool) : Outcome → Outcome
  | .ok payload => .ok payload
  | .error error => .error (
      if aborted then .cancelled
      else if timedOut then .timeout
      else
        match error with
        | .api status code => .api status code
        | _ => .api none .requestFailed)

/-- The function goes on with what the race was decided with, and cleans up. -/
def Call.goOn (call : Call) (outcome : Outcome) : Call :=
  { call with
    result := some (conclude call.aborted call.timedOut outcome)
    timer := false
    listening := false }

/-- One event, when it can happen. -/
def Call.step (call : Call) : Event → Option Call
  | .abort => some call.abort
  | .deadline =>
    if call.timer then some { call with timer := false, timedOut := true }.abortController
    else none
  | .reject name =>
    match call.request with
    | .sent => some (call.settle (.error (.other name)))
    | _ => none
  | .answer status =>
    match call.request with
    | .sent => some { call with request := .answered status }
    | _ => none
  | .read body =>
    match call.request with
    | .answered status => some (call.settle (responded status body))
    | _ => none
  | .resume =>
    match call.raced, call.result with
    | some outcome, none => some (call.goOn outcome)
    | _, _ => none

/-- The read after some events. -/
def run (call : Call) (events : List Event) : Option Call := events.foldlM Call.step call

/-! ### What a read comes to -/

namespace Event

def isAbort : Event → Bool
  | .abort => true
  | _ => false

def isDeadline : Event → Bool
  | .deadline => true
  | _ => false

def isResume : Event → Bool
  | .resume => true
  | _ => false

def status? : Event → Option Nat
  | .answer status => some status
  | _ => none

/-- The events that settle the inner `request`. -/
def settles : Event → Bool
  | .reject _ | .read _ => true
  | _ => false

end Event

/-- What an event settles one side of the race with, after the status that was answered. -/
def sideOf (status : Option Nat) : Event → Option Outcome
  | .abort => some (.error .cancelled)
  | .deadline => some (.error .timeout)
  | .reject name => some (.error (.other name))
  | .read body => status.map (responded · body)
  | .answer _ | .resume => none

/-- What the race is decided with: by the first event that settles a side. -/
def decided (events : List Event) : Option Outcome :=
  events.findSome? (sideOf (events.findSome? Event.status?))

/-- The events before the function went on. -/
def untilResumed (events : List Event) : List Event := events.takeWhile (!·.isResume)

/-- What the caller is given once the function went on: an answer that came first, and else
what happened until then, an abort before the deadline and the deadline before the request. -/
def settlement (events : List Event) : Option Outcome :=
  let before := untilResumed events
  if events.any Event.isResume then
    (decided before).map (conclude (before.any Event.isAbort) (before.any Event.isDeadline))
  else none

/-! ### The race -/

section Race
variable {events later : List Event} {event : Event} {call next : Call} {outcome : Outcome}

@[simp] theorem abortController_aborted (call : Call) :
    call.abortController.aborted = call.aborted := by
  unfold Call.abortController
  split <;> rfl

@[simp] theorem abortController_listening (call : Call) :
    call.abortController.listening = call.listening := by
  unfold Call.abortController
  split <;> rfl

@[simp] theorem abortController_timer (call : Call) :
    call.abortController.timer = call.timer := by
  unfold Call.abortController
  split <;> rfl

@[simp] theorem abortController_timedOut (call : Call) :
    call.abortController.timedOut = call.timedOut := by
  unfold Call.abortController
  split <;> rfl

@[simp] theorem abortController_request (call : Call) :
    call.abortController.request = call.request := by
  unfold Call.abortController
  split <;> rfl

@[simp] theorem abortController_result (call : Call) :
    call.abortController.result = call.result := by
  unfold Call.abortController
  split <;> rfl

@[simp] theorem abortController_interrupted (call : Call) :
    call.abortController.interrupted.isSome = true := by
  unfold Call.abortController
  split
  · rename_i heard
    rw [heard]
    rfl
  · rfl

theorem run_append (call : Call) (events later : List Event) :
    run call (events ++ later) = (run call events).bind (run · later) := by
  simp [run, List.foldlM_append]

theorem any_append (events : List Event) (event : Event) (kind : Event → Bool) :
    (events ++ [event]).any kind = (events.any kind || kind event) := by
  rw [List.any_append, List.any_cons, List.any_nil, Bool.or_false]

theorem status_append (quiet : event.status? = none) :
    (events ++ [event]).findSome? Event.status? = events.findSome? Event.status? := by
  rw [List.findSome?_append, List.findSome?_singleton, quiet, Option.or_none]

theorem decided_append (quiet : event.status? = none) : decided (events ++ [event]) =
    (decided events).or (sideOf (events.findSome? Event.status?) event) := by
  unfold decided
  rw [status_append quiet, List.findSome?_append, List.findSome?_singleton]

theorem findSome_congr {α β : Type} {first second : α → Option β} {items : List α}
    (same : ∀ item ∈ items, first item = second item) :
    items.findSome? first = items.findSome? second := by
  induction items with
  | nil => rfl
  | cons item rest ih =>
    obtain ⟨here, others⟩ := List.forall_mem_cons.mp same
    rw [List.findSome?_cons, List.findSome?_cons, here, ih others]

/-- An answer alone decides nothing, as long as the request has not settled. -/
theorem decided_answer (unsettled : ∀ event ∈ events, event.settles = false) (status : Nat) :
    decided (events ++ [.answer status]) = decided events := by
  unfold decided
  rw [List.findSome?_append]
  refine (Option.or_none).trans (findSome_congr fun event member => ?_)
  cases event with
  | read body => cases unsettled _ member
  | _ => rfl

theorem decided_of_interrupted (stopped : events.any Event.isAbort ∨ events.any Event.isDeadline) :
    (decided events).isSome := by
  apply List.findSome?_isSome_iff.mpr
  rcases stopped with aborted | late
  · obtain ⟨event, member, is⟩ := List.any_eq_true.mp aborted
    refine ⟨event, member, ?_⟩
    cases event <;> first | rfl | cases is
  · obtain ⟨event, member, is⟩ := List.any_eq_true.mp late
    refine ⟨event, member, ?_⟩
    cases event <;> first | rfl | cases is

/-- What is known of the request. -/
def Requested (events : List Event) : Exchange → Prop
  | .unsent => False
  | .sent => events.findSome? Event.status? = none ∧ ∀ event ∈ events, event.settles = false
  | .answered status =>
    events.findSome? Event.status? = some status ∧ ∀ event ∈ events, event.settles = false
  | .settled => True

/-- A read whose race the function still waits for. -/
structure Racing (events : List Event) (call : Call) : Prop where
  unresumed : events.any Event.isResume = false
  aborted : call.aborted = events.any Event.isAbort
  timedOut : call.timedOut = events.any Event.isDeadline
  listening : call.listening = !call.aborted
  timer : call.timer = !call.timedOut
  interrupted : call.interrupted.isSome = (call.aborted || call.timedOut)
  request : Requested events call.request
  raced : call.raced = decided events
  result : call.result = none

/-- A read that was given to its caller. -/
structure Given (events : List Event) (call : Call) : Prop where
  resumed : events.any Event.isResume = true
  result : call.result = settlement events
  given : call.result.isSome
  listening : call.listening = false
  timer : call.timer = false

theorem racing_start : Racing [] (start false) :=
  ⟨rfl, rfl, rfl, rfl, rfl, rfl, ⟨rfl, List.forall_mem_nil _⟩, rfl, rfl⟩

theorem Racing.decided_isSome (racing : Racing events call)
    (stopped : call.interrupted.isSome = true) : (decided events).isSome := by
  apply decided_of_interrupted
  rw [racing.interrupted, racing.aborted, racing.timedOut] at stopped
  exact Bool.or_eq_true_iff.mp stopped

/-- An abort of the controller leaves a decided race as it is. -/
theorem Racing.raced_abort (racing : Racing events call) {stopped : Call}
    (interrupted : stopped.interrupted = call.interrupted) (raced : stopped.raced = call.raced) :
    stopped.abortController.raced = (decided events).or
      (some (.error (if stopped.timedOut then .timeout else .cancelled))) := by
  unfold Call.abortController
  rw [interrupted, raced, racing.raced]
  split
  · rename_i heard
    have already : call.interrupted.isSome = true := by rw [heard]; rfl
    obtain ⟨outcome, found⟩ := Option.isSome_iff_exists.mp (racing.decided_isSome already)
    rw [raced, racing.raced, found]
    rfl
  · rfl

theorem unsettled_append (unsettled : ∀ event ∈ events, event.settles = false)
    (going : event.settles = false) : ∀ other ∈ events ++ [event], other.settles = false :=
  List.forall_mem_append.mpr ⟨unsettled, List.forall_mem_singleton.mpr going⟩

/-- An exchange that goes on is not touched by an interruption. -/
theorem Requested.interrupted {request : Exchange} (requested : Requested events request)
    (quiet : event.status? = none) (going : event.settles = false) :
    Requested (events ++ [event]) request := by
  cases request with
  | unsent => exact requested
  | sent => exact ⟨(status_append quiet).trans requested.1, unsettled_append requested.2 going⟩
  | answered status =>
    exact ⟨(status_append quiet).trans requested.1, unsettled_append requested.2 going⟩
  | settled => exact requested

theorem Racing.aborts (racing : Racing events call) : Racing (events ++ [.abort]) call.abort := by
  have unresumed : (events ++ [Event.abort]).any Event.isResume = false := by
    rw [any_append, racing.unresumed]
    rfl
  have late : call.timedOut = (events ++ [Event.abort]).any Event.isDeadline := by
    rw [any_append, racing.timedOut]
    exact (Bool.or_false _).symm
  have stops : true = (events ++ [Event.abort]).any Event.isAbort := by
    rw [any_append]
    exact (Bool.or_true _).symm
  have requested : Requested (events ++ [.abort]) call.request :=
    racing.request.interrupted rfl rfl
  have decision : decided (events ++ [.abort]) = (decided events).or (some (.error .cancelled)) :=
    decided_append rfl
  unfold Call.abort
  split
  · refine ⟨unresumed, ?_, ?_, ?_, ?_, ?_, ?_, ?_, ?_⟩
    · simpa using stops
    · simpa using late
    · simp
    · simpa using racing.timer
    · simp
    · simpa using requested
    · refine Eq.trans (racing.raced_abort rfl rfl) (Eq.trans ?_ decision.symm)
      dsimp only
      cases timedOut : call.timedOut with
      | false => simp
      | true =>
        have stopped : call.interrupted.isSome = true := by
          rw [racing.interrupted, timedOut, Bool.or_true]
        obtain ⟨outcome, found⟩ := Option.isSome_iff_exists.mp (racing.decided_isSome stopped)
        rw [found]
        rfl
    · simpa using racing.result
  · rename_i deaf
    have aborted : call.aborted = true := by
      have unheard := racing.listening
      simpa [Bool.eq_false_iff.mpr deaf] using unheard
    have stopped : call.interrupted.isSome = true := by rw [racing.interrupted, aborted]; rfl
    obtain ⟨outcome, found⟩ := Option.isSome_iff_exists.mp (racing.decided_isSome stopped)
    refine ⟨unresumed, stops, late, ?_, racing.timer, ?_, requested, ?_, racing.result⟩
    · exact Bool.eq_false_iff.mpr deaf
    · simpa using stopped
    · rw [decision, found]
      exact racing.raced.trans found

theorem Racing.expires (racing : Racing events call) :
    Racing (events ++ [.deadline]) { call with timer := false, timedOut := true }.abortController := by
  have decision : decided (events ++ [.deadline]) = (decided events).or (some (.error .timeout)) :=
    decided_append rfl
  have requested : Requested (events ++ [.deadline]) call.request :=
    racing.request.interrupted rfl rfl
  refine ⟨?_, ?_, ?_, ?_, ?_, ?_, ?_, ?_, ?_⟩
  · rw [any_append, racing.unresumed]
    rfl
  · simp [racing.aborted, Event.isAbort]
  · simp [Event.isDeadline]
  · simpa using racing.listening
  · simp
  · simp
  · simpa using requested
  · exact Eq.trans (racing.raced_abort rfl rfl) decision.symm
  · simpa using racing.result

/-- An event of the exchange, which leaves the signal and the timer alone. -/
theorem Racing.exchanged (racing : Racing events call) (kind : event.isAbort = false)
    (timely : event.isDeadline = false) (going : event.isResume = false) {request : Exchange}
    {raced : Option Outcome} (requested : Requested (events ++ [event]) request)
    (decision : raced = decided (events ++ [event])) :
    Racing (events ++ [event]) { call with request, raced } where
  unresumed := by rw [any_append, racing.unresumed, going]; rfl
  aborted := by rw [any_append, kind, Bool.or_false]; exact racing.aborted
  timedOut := by rw [any_append, timely, Bool.or_false]; exact racing.timedOut
  listening := racing.listening
  timer := racing.timer
  interrupted := racing.interrupted
  request := requested
  raced := decision
  result := racing.result

theorem untilResumed_resume (unresumed : events.any Event.isResume = false) :
    untilResumed (events ++ [.resume]) = events := by
  have all : ∀ event ∈ events, (!event.isResume) = true := by
    intro event member
    simpa using List.any_eq_false.mp unresumed event member
  refine (List.takeWhile_append_of_pos all).trans ?_
  exact List.append_nil events

theorem untilResumed_append (resumed : events.any Event.isResume = true) (event : Event) :
    untilResumed (events ++ [event]) = untilResumed events := by
  induction events with
  | nil => cases resumed
  | cons first rest ih =>
    simp only [untilResumed, List.cons_append, List.takeWhile_cons]
    cases going : first.isResume with
    | true => rfl
    | false =>
      rw [List.any_cons, going, Bool.false_or] at resumed
      simp only [Bool.not_false, if_true]
      congr 1
      exact ih resumed

/-- What is given stays, whatever happens later. -/
theorem settlement_append (resumed : events.any Event.isResume = true) (event : Event) :
    settlement (events ++ [event]) = settlement events := by
  have again : (events ++ [event]).any Event.isResume = true := by
    rw [any_append, resumed, Bool.true_or]
  unfold settlement
  rw [untilResumed_append resumed, if_pos resumed, if_pos again]

/-- The caller is given what the race and the time until then make of each other. -/
theorem Racing.goesOn (racing : Racing events call) (raced : call.raced = some outcome) :
    Given (events ++ [.resume]) (call.goOn outcome) := by
  have resumed : (events ++ [Event.resume]).any Event.isResume = true := by
    rw [any_append]
    exact Bool.or_true _
  refine ⟨resumed, ?_, rfl, rfl, rfl⟩
  unfold settlement
  rw [untilResumed_resume racing.unresumed, if_pos resumed, ← racing.raced, raced,
    ← racing.aborted, ← racing.timedOut]
  rfl

/-- What one event preserves while the race goes on. -/
theorem Racing.step (racing : Racing events call) (moved : call.step event = some next) :
    Racing (events ++ [event]) next ∨ Given (events ++ [event]) next := by
  cases event with
  | abort =>
    cases moved
    exact .inl racing.aborts
  | deadline =>
    unfold Call.step at moved
    dsimp only at moved
    split at moved
    · cases moved
      exact .inl racing.expires
    · cases moved
  | reject name =>
    unfold Call.step at moved
    dsimp only at moved
    split at moved
    · cases moved
      refine .inl (racing.exchanged rfl rfl rfl trivial ?_)
      rw [decided_append rfl, racing.raced]
      rfl
    · cases moved
  | answer status =>
    unfold Call.step at moved
    dsimp only at moved
    split at moved
    · rename_i sent
      cases moved
      have requested := racing.request
      rw [sent] at requested
      refine .inl (racing.exchanged rfl rfl rfl ?_ ?_)
      · refine ⟨?_, unsettled_append requested.2 rfl⟩
        rw [List.findSome?_append, requested.1]
        rfl
      · rw [decided_answer requested.2, racing.raced]
    · cases moved
  | read body =>
    unfold Call.step at moved
    dsimp only at moved
    split at moved
    · rename_i status answered
      cases moved
      have requested := racing.request
      rw [answered] at requested
      refine .inl (racing.exchanged rfl rfl rfl trivial ?_)
      rw [decided_append rfl, racing.raced, requested.1]
      rfl
    · cases moved
  | resume =>
    unfold Call.step at moved
    dsimp only at moved
    split at moved
    · rename_i outcome raced unfinished
      cases moved
      exact .inr (racing.goesOn raced)
    · cases moved

/-- What one event preserves once the caller was given the outcome. -/
theorem Given.step (given : Given events call) (moved : call.step event = some next) :
    Given (events ++ [event]) next ∧ next.result = call.result ∧
      next.interrupted = call.interrupted := by
  have resumed : (events ++ [event]).any Event.isResume = true := by
    rw [any_append, given.resumed, Bool.true_or]
  have keeps {other : Call} (result : other.result = call.result)
      (listening : other.listening = false) (timer : other.timer = false) :
      Given (events ++ [event]) other := by
    refine ⟨resumed, ?_, ?_, listening, timer⟩
    · rw [result, settlement_append given.resumed]
      exact given.result
    · rw [result]
      exact given.given
  cases event with
  | abort =>
    cases moved
    unfold Call.abort
    rw [if_neg (by rw [given.listening]; exact Bool.false_ne_true)]
    exact ⟨keeps rfl given.listening given.timer, rfl, rfl⟩
  | deadline =>
    unfold Call.step at moved
    dsimp only at moved
    rw [if_neg (by rw [given.timer]; exact Bool.false_ne_true)] at moved
    cases moved
  | resume =>
    obtain ⟨outcome, held⟩ := Option.isSome_iff_exists.mp given.given
    unfold Call.step at moved
    dsimp only at moved
    rw [held] at moved
    split at moved
    · rename_i unfinished
      cases unfinished
    · cases moved
  | _ =>
    unfold Call.step at moved
    dsimp only at moved
    split at moved
    · cases moved
      exact ⟨keeps rfl given.listening given.timer, rfl, rfl⟩
    · cases moved

theorem run_singleton (call : Call) (event : Event) : run call [event] = call.step event := by
  simp [run]

/-- What a whole run preserves. -/
theorem run_tracks (ran : run (start false) events = some call) :
    Racing events call ∨ Given events call := by
  induction events using List.reverseRecOn generalizing call with
  | nil =>
    cases ran
    exact .inl racing_start
  | append_singleton events event ih =>
    rw [run_append] at ran
    obtain ⟨before, earlier, moved⟩ := Option.bind_eq_some_iff.mp ran
    rw [run_singleton] at moved
    rcases ih earlier with racing | given
    · exact racing.step moved
    · exact .inr (given.step moved).1

theorem Given.run (given : Given events call) (ran : run call later = some next) :
    Given (events ++ later) next ∧ next.result = call.result ∧
      next.interrupted = call.interrupted := by
  induction later using List.reverseRecOn generalizing next with
  | nil =>
    cases ran
    rw [List.append_nil]
    exact ⟨given, rfl, rfl⟩
  | append_singleton later event ih =>
    rw [run_append] at ran
    obtain ⟨before, earlier, moved⟩ := Option.bind_eq_some_iff.mp ran
    rw [run_singleton] at moved
    obtain ⟨still, result, interrupted⟩ := ih earlier
    obtain ⟨last, same, heard⟩ := still.step moved
    rw [← List.append_assoc]
    exact ⟨last, same.trans result, heard.trans interrupted⟩

theorem Racing.settlement_none (racing : Racing events call) : settlement events = none := by
  unfold settlement
  rw [racing.unresumed]
  rfl

/-- The result is what the events settle it with. -/
theorem result_eq (ran : run (start false) events = some call) :
    call.result = settlement events := by
  rcases run_tracks ran with racing | given
  · rw [racing.result, racing.settlement_none]
  · exact given.result

theorem step_resume (raced : call.raced = some outcome) (unfinished : call.result = none) :
    call.step .resume = some (call.goOn outcome) := by
  unfold Call.step
  dsimp only
  rw [raced, unfinished]

theorem resumes (raced : call.raced = some outcome) (unfinished : call.result = none) :
    ∃ next, run call [.resume] = some next ∧ next.result.isSome := by
  refine ⟨call.goOn outcome, ?_, rfl⟩
  rw [run_singleton]
  exact step_resume raced unfinished

/-- A read that waits is settled by its deadline at the latest. -/
theorem Racing.finishes (racing : Racing events call) :
    ∃ later, (later = [.resume] ∨ later = [.deadline, .resume]) ∧
      ∃ next, run call later = some next ∧ next.result.isSome := by
  cases raced : call.raced with
  | some outcome => exact ⟨_, .inl rfl, resumes raced racing.result⟩
  | none =>
    have untouched : call.interrupted = none := by
      apply Option.not_isSome_iff_eq_none.mp
      intro stopped
      have settled := racing.decided_isSome stopped
      rw [← racing.raced, raced] at settled
      cases settled
    have armed : call.timer = true := by
      rw [racing.timer]
      have quiet := racing.interrupted
      rw [untouched] at quiet
      rw [(Bool.or_eq_false_iff.mp quiet.symm).2]
      rfl
    refine ⟨_, .inr rfl, ?_⟩
    have fired : call.step .deadline =
        some { call with timer := false, timedOut := true }.abortController := by
      unfold Call.step
      exact if_pos armed
    have decided : ({ call with timer := false, timedOut := true } : Call).abortController.raced =
        some (.error .timeout) := by
      unfold Call.abortController
      rw [untouched, raced]
      rfl
    obtain ⟨next, ran, settled⟩ := resumes decided
      ((abortController_result _).trans racing.result)
    refine ⟨next, ?_, settled⟩
    have parts := run_append call [.deadline] [.resume]
    rw [run_singleton, fired] at parts
    exact parts.trans ran

end Race

/-! ### What the caller is told -/

section Told
variable {events later : List Event} {call next : Call} {outcome : Outcome} {error : Thrown}

/-- Why a caller is told an error: its own abort before anything else, then the deadline. -/
structure Told (events : List Event) (error : Thrown) : Prop where
  cancelled : error = .cancelled ↔ (untilResumed events).any Event.isAbort = true
  timeout : error = .timeout ↔ (untilResumed events).any Event.isDeadline = true ∧
    (untilResumed events).any Event.isAbort = false
  shown : error = .cancelled ∨ ∃ status code, error = .api status code

/-- What settles a side of the race. -/
theorem side_error {status : Option Nat} {event : Event}
    (settled : sideOf status event = some (.error error)) :
    event.isAbort = true ∨ event.isDeadline = true ∨ (∃ name, error = .other name) ∨
      ∃ answered code, error = .api (some answered) code := by
  cases event with
  | abort => exact .inl rfl
  | deadline => exact .inr (.inl rfl)
  | reject name =>
    cases settled
    exact .inr (.inr (.inl ⟨name, rfl⟩))
  | read body =>
    obtain ⟨answered, _, responds⟩ := Option.map_eq_some_iff.mp settled
    refine .inr (.inr (.inr ⟨answered, ?_⟩))
    unfold responded at responds
    split at responds
    · cases body with
      | some payload => cases responds
      | none =>
        cases responds
        exact ⟨_, rfl⟩
    · cases responds
      exact ⟨_, rfl⟩
  | answer _ => cases settled
  | resume => cases settled

/-- Without an interruption the error is that of the request. -/
theorem raised_error (aborted : events.any Event.isAbort = false)
    (timely : events.any Event.isDeadline = false) (decision : decided events = some (.error error)) :
    (∃ name, error = .other name) ∨ ∃ status code, error = .api (some status) code := by
  obtain ⟨event, member, settled⟩ := List.exists_of_findSome?_eq_some decision
  rcases side_error settled with stops | late | raised
  · cases (List.any_eq_false.mp aborted event member) stops
  · cases (List.any_eq_false.mp timely event member) late
  · exact raised

theorem told (settled : settlement events = some (.error error)) : Told events error := by
  unfold settlement at settled
  split at settled
  case isFalse => cases settled
  obtain ⟨raced, decision, concluded⟩ := Option.map_eq_some_iff.mp settled
  cases raced with
  | ok payload => cases concluded
  | error raised =>
    cases aborted : (untilResumed events).any Event.isAbort with
    | true =>
      rw [aborted] at concluded
      cases concluded
      exact ⟨by simp [aborted], by simp [aborted, Thrown.timeout], .inl rfl⟩
    | false =>
      cases late : (untilResumed events).any Event.isDeadline with
      | true =>
        rw [aborted, late] at concluded
        cases concluded
        exact ⟨by simp [aborted, Thrown.timeout], by simp [aborted, late, Thrown.timeout],
          .inr ⟨_, _, rfl⟩⟩
      | false =>
        rw [aborted, late] at concluded
        rcases raised_error aborted late decision with ⟨name, rfl⟩ | ⟨status, code, rfl⟩
        · cases concluded
          exact ⟨by simp [aborted], by simp [late, Thrown.timeout], .inr ⟨_, _, rfl⟩⟩
        · cases concluded
          exact ⟨by simp [aborted], by simp [late, Thrown.timeout], .inr ⟨_, _, rfl⟩⟩

theorem conclude_responded (status : Nat) (body : Option Json) :
    conclude false false (responded status body) = responded status body := by
  unfold responded
  split
  · cases body <;> rfl
  · rfl

theorem Given.not_resumes (given : Given events call) : call.step .resume = none := by
  obtain ⟨outcome, held⟩ := Option.isSome_iff_exists.mp given.given
  unfold Call.step
  dsimp only
  rw [held]
  split
  · rename_i unfinished
    cases unfinished
  · rfl

/-- Until the request settles, nothing has decided the race of a read that goes on. -/
theorem Racing.undecided (racing : Racing events call)
    (aborted : events.any Event.isAbort = false) (timely : events.any Event.isDeadline = false)
    (unsettled : ∀ event ∈ events, event.settles = false) : call.raced = none := by
  rw [racing.raced]
  apply List.findSome?_eq_none_iff.mpr
  intro event member
  cases event with
  | abort => cases List.any_eq_false.mp aborted _ member rfl
  | deadline => cases List.any_eq_false.mp timely _ member rfl
  | reject name => cases unsettled _ member
  | read body => cases unsettled _ member
  | answer status => rfl
  | resume => rfl

/-- Without an interruption, the caller is given what the answer makes of its body. -/
theorem responded_told {status : Nat} {body : Option Json}
    (ran : run (start false) (events ++ .read body :: .resume :: later) = some call)
    (aborted : events.any Event.isAbort = false) (timely : events.any Event.isDeadline = false)
    (answered : events.findSome? Event.status? = some status) :
    call.result = some (responded status body) := by
  rw [run_append] at ran
  obtain ⟨waiting, before, ran⟩ := Option.bind_eq_some_iff.mp ran
  obtain ⟨read, reading, ran⟩ := Option.bind_eq_some_iff.mp ran
  obtain ⟨resumed, going, ran⟩ := Option.bind_eq_some_iff.mp ran
  rcases run_tracks before with racing | given
  · have settled : ∃ held, waiting.request = .answered held ∧
        read = waiting.settle (responded held body) := by
      unfold Call.step at reading
      dsimp only at reading
      split at reading
      · rename_i held request
        cases reading
        exact ⟨held, request, rfl⟩
      · cases reading
    obtain ⟨held, request, rfl⟩ := settled
    have requested := racing.request
    rw [request] at requested
    cases requested.1.symm.trans answered
    have undecided := racing.undecided aborted timely requested.2
    have raced : (waiting.settle (responded status body)).raced = some (responded status body) := by
      change waiting.raced.or _ = _
      rw [undecided]
      rfl
    rcases racing.step reading with after | over_
    · have told := after.goesOn raced
      rw [step_resume raced after.result] at going
      cases going
      rw [(told.run ran).2.1]
      change some (conclude waiting.aborted waiting.timedOut _) = _
      rw [racing.aborted, racing.timedOut, aborted, timely, conclude_responded]
    · rw [over_.not_resumes] at going
      cases going
  · rw [(given.step reading).1.not_resumes] at going
    cases going

/-- What holds of a read after some events: it was given what they settle it with, once and
for all; until then its deadline can settle it; and an error tells why. -/
structure Settles (events : List Event) (call : Call) : Prop where
  result : call.result = settlement events
  final : call.result.isSome → ∀ later next, run call later = some next →
    next.result = call.result ∧ next.interrupted = call.interrupted
  finishes : call.result = none → ∃ later, (later = [.resume] ∨ later = [.deadline, .resume]) ∧
    ∃ next, run call later = some next ∧ next.result.isSome
  told : ∀ error, call.result = some (.error error) → Told events error

theorem settles_of_run (ran : run (start false) events = some call) : Settles events call := by
  have result := result_eq ran
  refine ⟨result, fun given later next continued => ?_, fun unfinished => ?_, fun error failed => ?_⟩
  · rcases run_tracks ran with racing | settled
    · rw [racing.result] at given
      cases given
    · exact (settled.run continued).2
  · rcases run_tracks ran with racing | settled
    · exact racing.finishes
    · have given := settled.given
      rw [unfinished] at given
      cases given
  · exact told (result.symm.trans failed)

/-- A read that was cancelled at its start. -/
structure Refused (call : Call) : Prop where
  result : call.result = some (.error .cancelled)
  request : call.request = .unsent
  listening : call.listening = false
  timer : call.timer = false

theorem Refused.step {event : Event} (refused : Refused call)
    (moved : call.step event = some next) : Refused next := by
  unfold Call.step at moved
  cases event with
  | abort =>
    cases moved
    unfold Call.abort
    rw [if_neg (by rw [refused.listening]; exact Bool.false_ne_true)]
    exact ⟨refused.result, refused.request, refused.listening, refused.timer⟩
  | deadline =>
    dsimp only at moved
    rw [if_neg (by rw [refused.timer]; exact Bool.false_ne_true)] at moved
    cases moved
  | resume =>
    dsimp only at moved
    rw [refused.result] at moved
    split at moved
    · rename_i unfinished
      cases unfinished
    · cases moved
  | _ =>
    dsimp only at moved
    rw [refused.request] at moved
    cases moved

theorem refused_of_run (ran : run (start true) events = some call) : Refused call := by
  induction events using List.reverseRecOn generalizing call with
  | nil =>
    cases ran
    exact ⟨rfl, rfl, rfl, rfl⟩
  | append_singleton events event ih =>
    rw [run_append] at ran
    obtain ⟨before, earlier, moved⟩ := Option.bind_eq_some_iff.mp ran
    rw [run_singleton] at moved
    exact (ih earlier).step moved

/-- A read that was not cancelled at its start settles once, whatever the order in which its
caller, its timer, the network and its own continuation come; one that was sends nothing. -/
theorem fetch_settles_once :
    (∀ events call, run (start false) events = some call → Settles events call) ∧
    ∀ events call, run (start true) events = some call →
      call.result = some (.error .cancelled) ∧ call.request = .unsent :=
  ⟨fun _ _ ran => settles_of_run ran,
    fun _ _ ran => ⟨(refused_of_run ran).result, (refused_of_run ran).request⟩⟩

/-- The deadline passes after the headers, and the body comes too late. -/
def lateBody : List Event := [.answer 200, .deadline, .read (some .null), .resume, .abort]

private theorem lateBody_runs : ∃ call, run (start false) lateBody = some call := ⟨_, rfl⟩

theorem late_body_times_out : ∃ call, run (start false) lateBody = some call ∧
    Settles lateBody call ∧ call.result = some (.error .timeout) := by
  obtain ⟨call, ran⟩ := lateBody_runs
  have settles := fetch_settles_once.1 lateBody call ran
  exact ⟨call, ran, settles, settles.result⟩

end Told

end FetchJson
end ModelPilot
