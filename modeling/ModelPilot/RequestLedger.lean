import ModelPilot.GatewayService
import ModelPilot.MetricsSummary

/-! What the requests of one gateway share: the attempt rows, the routing decisions
(`metrics/sqlite_store.py`) and the request logs (`logging.py`). Requests are served
concurrently, so their calls on these come in any order. -/
namespace ModelPilot
open MetricsStore

/-- `RequestLogStore`: a deque of at most `limit` logs, the newest at its left. -/
structure RequestLogStore where
  limit : Nat := 500
  items : List RequestLog := []
  bounded : items.length ≤ limit := by decide

namespace RequestLogStore

/-- `append`: `appendleft` on a full deque drops the item at its right. -/
def append (store : RequestLogStore) (item : RequestLog) : RequestLogStore where
  limit := store.limit
  items := (item :: store.items).take store.limit
  bounded := List.length_take_le _ _

/-- `list`. -/
def list (store : RequestLogStore) : List RequestLog := store.items

end RequestLogStore

structure Ledger where
  attempts : List AttemptRow := []
  decisions : List DecisionRow := []
  logs : RequestLogStore := {}

/-- A call of a request on what the requests share. -/
inductive LedgerCall where
  | attempt (attempt : AttemptRecord)
  | decision (decision : RoutingDecision)
  | log (item : RequestLog)

/-- The exception a call raised, if it raised one. -/
def raisedOf : Except PyError Unit → Option PyError
  | .ok () => none
  | .error error => some error

namespace Ledger

/-- A call under the faults of its statements: what it raises, and the ledger after it. -/
def perform (fault : Nat → Option PyError) (ledger : Ledger) :
    LedgerCall → Option PyError × Ledger
  | .attempt attempt =>
    let (ended, attempts) := recordAttempt fault ledger.attempts attempt
    (raisedOf ended, { ledger with attempts })
  | .decision decision =>
    let (ended, decisions) := recordRoutingDecision fault ledger.decisions decision
    (raisedOf ended, { ledger with decisions })
  | .log item => (none, { ledger with logs := ledger.logs.append item })

/-- The rows about a request. -/
def attemptsOf (ledger : Ledger) (requestId : String) : List AttemptRow :=
  ledger.attempts.filter (·.requestId = requestId)

def decisionsOf (ledger : Ledger) (requestId : String) : List DecisionRow :=
  ledger.decisions.filter (·.requestId = requestId)

end Ledger

/-- The call behind an effect of a request, when it is one on the ledger. -/
def GatewayEffect.ledgerCall : GatewayEffect → Option LedgerCall
  | .attemptRow attempt => some (.attempt attempt)
  | .requestLogged log => some (.log log)
  | .decisionRecorded decision => some (.decision decision)
  | _ => none

/-- The same surroundings, with a metrics store that takes what it is given. -/
def AttemptWorld.accepting (world : AttemptWorld) : AttemptWorld :=
  { world with recordAttempt := none }

/-- One request and what happens around it. -/
structure GatewayRequest (float : Rounding) where
  request : ChatCompletionRequest float
  world : RequestWorld float

namespace GatewayRequest
variable {float : Rounding}

def requestId (served : GatewayRequest float) : String := served.world.requestId

def accepting (served : GatewayRequest float) : GatewayRequest float :=
  { served with world := { served.world with
    attempts := fun index => (served.world.attempts index).accepting
    recordRoutingDecision := none } }

def complete (service : GatewayService) (decimal : Rounding) (served : GatewayRequest float) :
    GatewayService.Completed :=
  service.complete decimal served.request served.world

/-- The calls the request makes on the ledger, in order. Whether one raises changes
none of the others. -/
def calls (service : GatewayService) (decimal : Rounding) (served : GatewayRequest float) :
    List LedgerCall :=
  (served.accepting.complete service decimal).effects.filterMap GatewayEffect.ledgerCall

/-- What the request is told of a call is what the call raised. -/
def Hears (served : GatewayRequest float) (raised : Option PyError) : LedgerCall → Prop
  | .attempt attempt => (served.world.attempts attempt.attemptIndex).recordAttempt = raised
  | .decision _ => served.world.recordRoutingDecision = raised
  | .log _ => True

instance (served : GatewayRequest float) (raised : Option PyError) (call : LedgerCall) :
    Decidable (served.Hears raised call) :=
  match call with
  | .attempt attempt =>
    inferInstanceAs
      (Decidable ((served.world.attempts attempt.attemptIndex).recordAttempt = raised))
  | .decision _ => inferInstanceAs (Decidable (served.world.recordRoutingDecision = raised))
  | .log _ => inferInstanceAs (Decidable True)

end GatewayRequest

/-- A call that was made: by which request, under which faults, and what it raised. -/
structure LedgerEntry (ι : Type) where
  request : ι
  call : LedgerCall
  fault : Nat → Option PyError
  raised : Option PyError

section Serving
variable {float : Rounding} {ι : Type} [DecidableEq ι]

/-- The calls one of the requests made. -/
def callsOf (history : List (LedgerEntry ι)) (request : ι) : List LedgerCall :=
  (history.filter (·.request = request)).map (·.call)

/-- The moments of a gateway that serves requests: any of them may make its next call. -/
inductive Serves (service : GatewayService) (decimal : Rounding)
    (requests : ι → GatewayRequest float) (initial : Ledger) :
    List (LedgerEntry ι) → Ledger → Prop where
  | start : Serves service decimal requests initial [] initial
  | call {history : List (LedgerEntry ι)} {ledger after : Ledger} {call : LedgerCall}
      {raised : Option PyError} (request : ι) (fault : Nat → Option PyError)
      (before : Serves service decimal requests initial history ledger)
      (next : callsOf history request ++ [call] <+: (requests request).calls service decimal)
      (performed : ledger.perform fault call = (raised, after))
      (hears : (requests request).Hears raised call) :
      Serves service decimal requests initial (history ++ [⟨request, call, fault, raised⟩])
        after

/-- The next call of a request, when it has one left and hears what the call raises. -/
def advance (service : GatewayService) (decimal : Rounding) (requests : ι → GatewayRequest float)
    (fault : Nat → Option PyError) (request : ι) (moment : List (LedgerEntry ι) × Ledger) :
    Option (List (LedgerEntry ι) × Ledger) :=
  match ((requests request).calls service decimal)[(callsOf moment.1 request).length]? with
  | none => none
  | some call =>
    let (raised, after) := moment.2.perform fault call
    if (requests request).Hears raised call then
      some (moment.1 ++ [⟨request, call, fault, raised⟩], after)
    else none

/-- A schedule of undisturbed calls, by the requests that make them. -/
def serve (service : GatewayService) (decimal : Rounding) (requests : ι → GatewayRequest float) :
    List ι → List (LedgerEntry ι) × Ledger → Option (List (LedgerEntry ι) × Ledger)
  | [], moment => some moment
  | request :: rest, moment =>
    (advance service decimal requests (fun _ => none) request moment).bind
      (serve service decimal requests rest)

end Serving
end ModelPilot
