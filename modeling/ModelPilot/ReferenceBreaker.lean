import Mathlib.Data.List.DropRight
import Mathlib.Order.Lattice

/-! A circuit breaker in its own terms, over any linearly ordered time with an
addition. It opens when consecutive counted failures reach a threshold, refuses
decisive events while its cooldown runs, and then waits for one to decide. -/
namespace ModelPilot.ReferenceBreaker

structure Policy (τ : Type*) where
  threshold : ℕ
  cooldown : τ

inductive Phase (τ : Type*) where
  | closed
  | opened (since : τ)
  | probing (since : τ)
  deriving DecidableEq

structure Breaker (τ : Type*) where
  phase : Phase τ
  failures : ℕ
  updated : τ

inductive Kind where
  | success
  | counted
  | ignored
  deriving DecidableEq

structure Event (τ : Type*) where
  kind : Kind
  at_ : τ

variable {τ : Type*} [LinearOrder τ] [Add τ] {policy : Policy τ} {breaker after : Breaker τ}
  {event : Event τ}

/-- The breaker before the first event of a pair. -/
def fresh (at_ : τ) : Breaker τ := ⟨.closed, 0, at_⟩

/-- The cooldown still runs at `at_`. -/
def running (policy : Policy τ) (breaker : Breaker τ) (at_ : τ) : Bool :=
  match breaker.phase with
  | .opened since => at_ < since + policy.cooldown
  | _ => false

/-- An ended cooldown turns an open breaker into a probing one. -/
def elapse (policy : Policy τ) (breaker : Breaker τ) (at_ : τ) : Breaker τ :=
  match breaker.phase with
  | .opened since =>
    if at_ < since + policy.cooldown then breaker
    else { breaker with phase := .probing since, updated := at_ }
  | _ => breaker

/-- A counted failure opens the breaker unless it is closed and stays below the
threshold. -/
def fail (policy : Policy τ) (breaker : Breaker τ) (at_ : τ) : Breaker τ :=
  if breaker.phase = .closed ∧ breaker.failures + 1 < policy.threshold then
    ⟨.closed, breaker.failures + 1, at_⟩
  else
    ⟨.opened at_, breaker.failures + 1, at_⟩

/-- One event, refused when it is older than the breaker or decisive during
the cooldown. -/
def step (policy : Policy τ) (breaker : Breaker τ) (event : Event τ) : Option (Breaker τ) :=
  if event.at_ < breaker.updated then none
  else
    match event.kind with
    | .ignored => some (elapse policy breaker event.at_)
    | .success =>
      if running policy breaker event.at_ then none else some ⟨.closed, 0, event.at_⟩
    | .counted =>
      if running policy breaker event.at_ then none else some (fail policy breaker event.at_)

/-- The breaker after a run, with the events it accepted, oldest first. -/
structure History (τ : Type*) where
  breaker : Option (Breaker τ) := none
  accepted : List (Event τ) := []

def History.feed (policy : Policy τ) (history : History τ) (event : Event τ) : History τ :=
  match step policy (history.breaker.getD (fresh event.at_)) event with
  | some after => ⟨some after, history.accepted ++ [event]⟩
  | none => history

def run (policy : Policy τ) (events : List (Event τ)) : History τ :=
  events.foldl (History.feed policy) {}

/-- The counted failures after the last success. -/
def failuresSinceSuccess (accepted : List (Event τ)) : ℕ :=
  (accepted.rtakeWhile (·.kind ≠ .success)).countP (·.kind = .counted)

omit [LinearOrder τ] [Add τ] in
theorem failuresSinceSuccess_append (accepted : List (Event τ)) (event : Event τ) :
    failuresSinceSuccess (accepted ++ [event]) =
      match event.kind with
      | .success => 0
      | .counted => failuresSinceSuccess accepted + 1
      | .ignored => failuresSinceSuccess accepted := by
  cases kind : event.kind with
  | success =>
    rw [failuresSinceSuccess, List.rtakeWhile_concat_neg _ _ _ (by simp [kind])]
    rfl
  | counted =>
    rw [failuresSinceSuccess, List.rtakeWhile_concat_pos _ _ _ (by simp [kind])]
    simp [failuresSinceSuccess, kind]
  | ignored =>
    rw [failuresSinceSuccess, List.rtakeWhile_concat_pos _ _ _ (by simp [kind])]
    simp [failuresSinceSuccess, kind]

/-- What one accepted event does to the failure count. -/
theorem step_failures (stepped : step policy breaker event = some after) :
    after.failures =
      match event.kind with
      | .success => 0
      | .counted => breaker.failures + 1
      | .ignored => breaker.failures := by
  unfold step at stepped
  split at stepped
  · cases stepped
  cases kind : event.kind with
  | success =>
    simp only [kind] at stepped
    split at stepped
    · cases stepped
    · cases stepped; rfl
  | counted =>
    simp only [kind] at stepped
    split at stepped
    · cases stepped
    · cases stepped
      unfold fail
      split <;> rfl
  | ignored =>
    simp only [kind, Option.some.injEq] at stepped
    subst stepped
    unfold elapse
    split
    · split <;> rfl
    · rfl

/-- A breaker is closed exactly while its count is below the threshold. -/
def Consistent (policy : Policy τ) (breaker : Breaker τ) : Prop :=
  breaker.phase = .closed ↔ breaker.failures < policy.threshold

omit [LinearOrder τ] [Add τ] in
theorem fresh_consistent (positive : 0 < policy.threshold) (at_ : τ) :
    Consistent policy (fresh at_) := by
  simp [Consistent, fresh, positive]

theorem step_consistent (positive : 0 < policy.threshold)
    (before : Consistent policy breaker) (stepped : step policy breaker event = some after) :
    Consistent policy after := by
  unfold step at stepped
  split at stepped
  · cases stepped
  split at stepped
  · cases stepped
    unfold elapse
    split
    · rename_i since phase
      split
      · exact before
      · have reached : ¬ breaker.failures < policy.threshold := by
          simpa [Consistent, phase] using before
        simpa [Consistent] using reached
    · exact before
  · split at stepped
    · cases stepped
    · cases stepped; simpa [Consistent] using positive
  · split at stepped
    · cases stepped
    · cases stepped
      unfold fail
      split
      · rename_i below
        simpa [Consistent] using below.2
      · rename_i opens
        by_cases closed : breaker.phase = .closed
        · have reached : policy.threshold ≤ breaker.failures + 1 := by
            by_contra few
            exact opens ⟨closed, Nat.not_le.mp few⟩
          simpa [Consistent] using reached
        · have reached : policy.threshold ≤ breaker.failures :=
            Nat.not_lt.mp fun few => closed (before.mpr few)
          simpa [Consistent] using Nat.le_succ_of_le reached

/-- What every run establishes: the breaker agrees with its count, and the
count with the accepted events. -/
structure Sound (policy : Policy τ) (history : History τ) : Prop where
  unstarted : history.breaker = none → history.accepted = []
  consistent : ∀ breaker, history.breaker = some breaker → Consistent policy breaker
  counted : ∀ breaker, history.breaker = some breaker →
    breaker.failures = failuresSinceSuccess history.accepted

theorem feed_sound (positive : 0 < policy.threshold) (before : Sound policy history) :
    Sound policy (history.feed policy event) := by
  unfold History.feed
  split
  · rename_i after stepped
    have earlier : Consistent policy (history.breaker.getD (fresh event.at_)) ∧
        (history.breaker.getD (fresh event.at_)).failures =
          failuresSinceSuccess history.accepted := by
      cases current : history.breaker with
      | none => exact ⟨fresh_consistent positive _, by rw [before.unstarted current]; rfl⟩
      | some breaker => exact ⟨before.consistent breaker current, before.counted breaker current⟩
    refine ⟨by simp, fun breaker same => ?_, fun breaker same => ?_⟩
    · cases same
      exact step_consistent positive earlier.1 stepped
    · cases same
      rw [step_failures stepped, failuresSinceSuccess_append, earlier.2]
  · exact before

theorem run_sound (positive : 0 < policy.threshold) (events : List (Event τ)) :
    Sound policy (run policy events) := by
  have from_any : ∀ history, Sound policy history →
      Sound policy (events.foldl (History.feed policy) history) := by
    induction events with
    | nil => exact fun _ sound => sound
    | cons event rest ih => exact fun history sound => ih _ (feed_sound positive sound)
  exact from_any {} ⟨fun _ => rfl, by simp, by simp⟩

end ModelPilot.ReferenceBreaker
