/-! Runs of a machine whose steps may be refused. A state is reachable under a
guard when some run leads to it in which every step met the guard in the state
it was taken from; the guard `fun _ _ => True` gives all runs. -/
namespace ModelPilot.Runs

/-- The states reached by runs of `step` from an `initial` state, each of whose
steps satisfies `guard` in the state before it. -/
inductive Reachable (step : σ → ε → Option σ) (guard : σ → ε → Prop) (initial : σ → Prop) :
    σ → Prop where
  | start (first : initial s) : Reachable step guard initial s
  | step (before : Reachable step guard initial s) (allowed : guard s e)
      (taken : step s e = some t) : Reachable step guard initial t

variable {step : σ → ε → Option σ} {guard strong : σ → ε → Prop} {initial : σ → Prop}

/-- What holds initially and survives every guarded step holds in every
reachable state. -/
theorem Reachable.invariant {holds : σ → Prop}
    (first : ∀ s, initial s → holds s)
    (preserved : ∀ s e t, holds s → guard s e → step s e = some t → holds t)
    (reached : Reachable step guard initial s) : holds s := by
  induction reached with
  | start origin => exact first _ origin
  | step _ allowed taken ih => exact preserved _ _ _ ih allowed taken

/-- The transitions of a run over some events. -/
def trace (step : σ → ε → Option σ) : σ → List ε → Option (List (σ × ε × σ))
  | _, [] => some []
  | s, e :: rest => do
    let t ← step s e
    let later ← trace step t rest
    some ((s, e, t) :: later)

/-- Every transition of a run is a step. -/
theorem step_of_mem_trace {transitions : List (σ × ε × σ)}
    (ran : trace step s events = some transitions) (member : (before, e, after) ∈ transitions) :
    step before e = some after := by
  induction events generalizing s transitions with
  | nil =>
    cases ran
    cases member
  | cons first rest ih =>
    simp only [trace, Option.bind_eq_bind, Option.bind_eq_some_iff] at ran
    obtain ⟨t, taken, later, others, same⟩ := ran
    cases same
    rcases List.mem_cons.mp member with head | tail
    · cases head
      exact taken
    · exact ih others tail

/-- What holds where a run starts and survives its transitions holds before each
of them. -/
theorem before_of_mem_trace {holds : σ → Prop} {transitions : List (σ × ε × σ)}
    (first : holds s) (ran : trace step s events = some transitions)
    (preserved : ∀ before e after, (before, e, after) ∈ transitions → holds before → holds after)
    (member : (before, e, after) ∈ transitions) : holds before := by
  induction events generalizing s transitions with
  | nil =>
    cases ran
    cases member
  | cons event rest ih =>
    simp only [trace, Option.bind_eq_bind, Option.bind_eq_some_iff] at ran
    obtain ⟨t, taken, later, others, same⟩ := ran
    cases same
    rcases List.mem_cons.mp member with head | tail
    · cases head
      exact first
    · have next := preserved s event t List.mem_cons_self first
      exact ih next others (fun before e after inside =>
        preserved before e after (List.mem_cons_of_mem _ inside)) tail

end ModelPilot.Runs
