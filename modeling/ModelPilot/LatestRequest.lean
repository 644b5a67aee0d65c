/-! The slot of the latest request (`lib/latest-request.ts`), and the hook of the
benchmark dashboard that reads through it (`useRead` in
`components/benchmark-dashboard.tsx`). -/
namespace ModelPilot

/-- The slot, and the abort controllers it has made. A controller is known by its
number. -/
structure LatestRequest where
  controller : Option Nat := none
  created : Nat := 0
  aborted : List Nat := []
  deriving DecidableEq, Repr

namespace LatestRequest

def cancel (slot : LatestRequest) : LatestRequest :=
  match slot.controller with
  | some controller => { slot with controller := none, aborted := controller :: slot.aborted }
  | none => slot

/-- `begin`: the slot, and the controller of the ticket it returns. -/
def begin (slot : LatestRequest) : LatestRequest × Nat :=
  let slot := slot.cancel
  ({ slot with controller := some slot.created, created := slot.created + 1 }, slot.created)

/-- `signal.aborted` of a ticket. -/
def isAborted (slot : LatestRequest) (ticket : Nat) : Bool := ticket ∈ slot.aborted

/-- `isCurrent()` of a ticket. -/
def isCurrent (slot : LatestRequest) (ticket : Nat) : Bool :=
  slot.controller = some ticket && !slot.isAborted ticket

inductive Call where
  | begin
  | cancel
  deriving DecidableEq, Repr

def call (slot : LatestRequest) : Call → LatestRequest
  | .begin => slot.begin.1
  | .cancel => slot.cancel

/-- The slot after some calls. -/
def after (calls : List Call) : LatestRequest := calls.foldl call {}

end LatestRequest

inductive ReadState (δ ε : Type) where
  | idle
  | loading
  | success (data : δ)
  | error (error : ε)
  deriving DecidableEq, Repr

/-- What a settled load gives to `setResult`. -/
def ReadState.ofSettlement {δ ε : Type} : Except ε δ → ReadState δ ε
  | .ok data => .success data
  | .error raised => .error raised

/-- A load that was started, with the key that its callbacks hold. -/
structure Load (κ : Type) where
  key : κ
  settled : Bool := false
  deriving DecidableEq, Repr

/-- The hook: its `LatestRequest`, the loads started by ticket, the state of its
`useState`, the arguments of the last render, the dependencies its effect last ran with,
and what the last render returned for its key. -/
structure UseRead (κ ι δ ε : Type) where
  latest : LatestRequest := {}
  loads : List (Load κ) := []
  result : Option (κ × ReadState δ ε) := none
  arguments : Option (Option κ × ι) := none
  effect : Option (Option κ × ι) := none
  displayed : Option (Option κ × ReadState δ ε) := none

namespace UseRead
variable {κ ι δ ε : Type} [DecidableEq κ] [DecidableEq ι]

/-- What the hook returns. -/
def readState (key : Option κ) (result : Option (κ × ReadState δ ε)) : ReadState δ ε :=
  match key with
  | none => .idle
  | some key =>
    match result with
    | some (held, state) => if held = key then state else .loading
    | none => .loading

/-- What happens to a mounted hook: a render with a key and a load, the effects of the
last render, the settlement of a load, and the unmount. -/
inductive Event (κ ι δ ε : Type) where
  | render (key : Option κ) (load : ι)
  | effects
  | settle (ticket : Nat) (settlement : Except ε δ)
  | unmount

/-- The cleanup of the effect that ran last, which only an effect with a key has. -/
def cleanup (hook : UseRead κ ι δ ε) : UseRead κ ι δ ε :=
  match hook.effect with
  | some (some _, _) => { hook with latest := hook.latest.cancel, effect := none }
  | _ => { hook with effect := none }

/-- The body of the effect. -/
def runEffect (hook : UseRead κ ι δ ε) (key : Option κ) (load : ι) : UseRead κ ι δ ε :=
  match key with
  | none => { hook with effect := some (none, load) }
  | some key =>
    { hook with
      latest := hook.latest.begin.1
      loads := hook.loads ++ [{ key }]
      effect := some (some key, load) }

/-- The callbacks of a load. -/
def deliver (hook : UseRead κ ι δ ε) (ticket : Nat) (key : κ) (settlement : Except ε δ) :
    UseRead κ ι δ ε :=
  let settled := { hook with loads := hook.loads.set ticket ⟨key, true⟩ }
  if hook.latest.isCurrent ticket then
    { settled with result := some (key, .ofSettlement settlement) }
  else settled

/-- One event. A load that was not started, or has settled, does not settle. -/
def step (hook : UseRead κ ι δ ε) : Event κ ι δ ε → Option (UseRead κ ι δ ε)
  | .render key load => some
      { hook with
        arguments := some (key, load)
        displayed := some (key, readState key hook.result) }
  | .effects =>
    match hook.arguments with
    | none => none
    | some (key, load) =>
      if hook.effect = some (key, load) then some hook
      else some (hook.cleanup.runEffect key load)
  | .settle ticket settlement =>
    match hook.loads[ticket]? with
    | some ⟨key, false⟩ => some (hook.deliver ticket key settlement)
    | _ => none
  | .unmount => some hook.cleanup

/-- The hook after some events. -/
def run (events : List (Event κ ι δ ε)) : Option (UseRead κ ι δ ε) := events.foldlM step {}

end UseRead
end ModelPilot
