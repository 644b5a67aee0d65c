/-! Actions that read and change a state, leave a record of their events, and end with a
value or an exception: how they run one after the other, inside `try` blocks and inside
resources, and which event comes before which. -/
namespace ModelPilot

/-- What an action did: its events in order, the state it left, and how it ended. -/
structure Course (σ ε χ α : Type) where
  events : List ε
  state : σ
  outcome : Except χ α

def Action (σ ε χ α : Type) : Type := σ → Course σ ε χ α

namespace Action

section Programs
variable {σ ε χ ω α β : Type}

/-- An action, and what goes on from its end, whether by a value or by an exception. -/
def resume (first : Action σ ε χ α) (next : Except χ α → Action σ ε ω β) : Action σ ε ω β :=
  fun state =>
    let course := first state
    let later := next course.outcome course.state
    ⟨course.events ++ later.events, later.state, later.outcome⟩

/-- An end without events. -/
def done (outcome : Except χ α) : Action σ ε χ α := fun state => ⟨[], state, outcome⟩

/-- One event. -/
def emit (event : ε) : Action σ ε χ Unit := fun state => ⟨[event], state, .ok ()⟩

/-- A choice by how something ended. -/
def either {γ : Type} (handle : χ → γ) (next : α → γ) : Except χ α → γ
  | .ok value => next value
  | .error error => handle error

/-- One action after the other; an exception skips the second. -/
def andThen (first : Action σ ε χ α) (next : α → Action σ ε χ β) : Action σ ε χ β :=
  first.resume (either (fun error => done (.error error)) next)

instance : Monad (Action σ ε χ) where
  pure value := done (.ok value)
  bind := andThen

/-- `try`: `handle` goes on from an exception, `next` from a value. -/
def tryElse (body : Action σ ε χ α) (handle : χ → Action σ ε ω β) (next : α → Action σ ε ω β) :
    Action σ ε ω β :=
  body.resume (either handle next)

/-- `with`: the resource is closed however the body ends, and an exception of its
closing takes the place of that end. -/
def within (enter leave : Action σ ε χ Unit) (body : Action σ ε χ α) : Action σ ε χ α :=
  enter.andThen fun _ => body.resume fun outcome => leave.andThen fun _ => done outcome

end Programs

section Events
variable {σ ε χ ω α β : Type} {first : Action σ ε χ α} {state : σ} {event : ε}

@[simp] theorem done_course (outcome : Except χ α) :
    (done outcome : Action σ ε χ α) state = ⟨[], state, outcome⟩ := rfl

/-- An action without the events of a kind. -/
def Silent (kind : ε → Prop) (action : Action σ ε χ α) : Prop :=
  ∀ state, ∀ event ∈ (action state).events, ¬ kind event

/-- An action that ends with a value only after an event of a kind. -/
def Establishes (kind : ε → Prop) (action : Action σ ε χ α) : Prop :=
  ∀ state value, (action state).outcome = .ok value → ∃ event ∈ (action state).events, kind event

/-- Each event of the kind `later` comes after one of the kind `earlier`. -/
def Ordered (earlier later : ε → Prop) (events : List ε) : Prop :=
  ∀ before event after, events = before ++ event :: after → later event →
    ∃ cause ∈ before, earlier cause

/-- The events of an action are ordered in each of its courses. -/
def Guarded (earlier later : ε → Prop) (action : Action σ ε χ α) : Prop :=
  ∀ state, Ordered earlier later (action state).events

variable {earlier later kind : ε → Prop}

theorem Silent.done (outcome : Except χ α) : Silent kind (done outcome : Action σ ε χ α) := by
  intro state event member
  cases member

theorem Silent.emit (other : ¬ kind event) : Silent kind (emit event : Action σ ε χ Unit) := by
  intro state found member
  rw [List.mem_singleton.mp member]
  exact other

theorem Silent.resume {next : Except χ α → Action σ ε ω β} (begun : Silent kind first)
    (ended : ∀ outcome, Silent kind (next outcome)) : Silent kind (first.resume next) := by
  intro state event member
  rcases List.mem_append.mp member with early | late
  · exact begun state event early
  · exact ended _ _ event late

theorem Silent.either {handle : χ → Action σ ε ω β} {next : α → Action σ ε ω β}
    (handled : ∀ error, Silent kind (handle error)) (ended : ∀ value, Silent kind (next value))
    (outcome : Except χ α) : Silent kind (Action.either handle next outcome) := by
  cases outcome with
  | ok value => exact ended value
  | error error => exact handled error

theorem Silent.andThen {next : α → Action σ ε χ β} (begun : Silent kind first)
    (ended : ∀ value, Silent kind (next value)) : Silent kind (first.andThen next) :=
  begun.resume (.either (fun _ => .done _) ended)

theorem Establishes.emit (shown : kind event) :
    Establishes kind (Action.emit event : Action σ ε χ Unit) :=
  fun _ _ _ => ⟨event, List.mem_singleton_self event, shown⟩

/-- A sequence ends with a value only after both of its parts do. -/
theorem andThen_ok_iff {next : α → Action σ ε χ β} {value : β} :
    (first.andThen next state).outcome = .ok value ↔
      ∃ held, (first state).outcome = .ok held ∧
        (next held (first state).state).outcome = .ok value := by
  unfold Action.andThen Action.resume
  dsimp only
  cases (first state).outcome with
  | ok held => simp [either]
  | error error => simp [either]

theorem mem_andThen {next : α → Action σ ε χ β} :
    event ∈ (first.andThen next state).events ↔ event ∈ (first state).events ∨
      ∃ held, (first state).outcome = .ok held ∧
        event ∈ (next held (first state).state).events := by
  unfold Action.andThen Action.resume
  dsimp only
  rw [List.mem_append]
  cases (first state).outcome with
  | ok held => simp [either]
  | error error => simp [either]

theorem Establishes.of_first {next : α → Action σ ε χ β} (begun : Establishes kind first) :
    Establishes kind (first.andThen next) := by
  intro state value ended
  obtain ⟨held, reached, _⟩ := andThen_ok_iff.mp ended
  obtain ⟨event, member, shown⟩ := begun state held reached
  exact ⟨event, mem_andThen.mpr (.inl member), shown⟩

theorem Establishes.of_second {next : α → Action σ ε χ β}
    (ended : ∀ held, Establishes kind (next held)) : Establishes kind (first.andThen next) := by
  intro state value finished
  obtain ⟨held, reached, finished⟩ := andThen_ok_iff.mp finished
  obtain ⟨event, member, shown⟩ := ended held _ value finished
  exact ⟨event, mem_andThen.mpr (.inr ⟨held, reached, member⟩), shown⟩

theorem Ordered.of_silent {events : List ε} (silent : ∀ event ∈ events, ¬ later event) :
    Ordered earlier later events := by
  rintro before event after rfl shown
  exact absurd shown (silent event (List.mem_append_right _ List.mem_cons_self))

/-- After events without the later kind, order is kept by an ordered rest, and by any
rest once the earlier kind is among them. -/
theorem Ordered.append {events rest : List ε} (silent : ∀ event ∈ events, ¬ later event)
    (ordered : (∃ cause ∈ events, earlier cause) ∨ Ordered earlier later rest) :
    Ordered earlier later (events ++ rest) := by
  intro before event after split shown
  rcases List.append_eq_append_iff.mp split with ⟨middle, same, tail⟩ | ⟨middle, same, tail⟩
  · rcases ordered with ⟨cause, member, caused⟩ | ordered
    · refine ⟨cause, ?_, caused⟩
      rw [same]
      exact List.mem_append_left _ member
    · obtain ⟨cause, member, caused⟩ := ordered middle event after tail shown
      refine ⟨cause, ?_, caused⟩
      rw [same]
      exact List.mem_append_right _ member
  · cases middle with
    | nil =>
      rw [List.append_nil] at same
      rw [List.nil_append] at tail
      rcases ordered with ⟨cause, member, caused⟩ | ordered
      · exact ⟨cause, same ▸ member, caused⟩
      · obtain ⟨cause, member, _⟩ := ordered [] event after tail.symm shown
        cases member
    | cons head others =>
      obtain ⟨rfl, _⟩ := List.cons_eq_cons.mp tail
      rw [same] at silent
      exact absurd shown (silent event (List.mem_append_right _ List.mem_cons_self))

theorem Ordered.append_silent {events rest : List ε} (ordered : Ordered earlier later events)
    (silent : ∀ event ∈ rest, ¬ later event) : Ordered earlier later (events ++ rest) := by
  intro before event after split shown
  rcases List.append_eq_append_iff.mp split with ⟨middle, _, tail⟩ | ⟨middle, same, tail⟩
  · refine absurd shown (silent event ?_)
    rw [tail]
    exact List.mem_append_right _ List.mem_cons_self
  · cases middle with
    | nil =>
      refine absurd shown (silent event ?_)
      rw [List.nil_append] at tail
      rw [← tail]
      exact List.mem_cons_self
    | cons head others =>
      obtain ⟨rfl, _⟩ := List.cons_eq_cons.mp tail
      exact ordered before event others same shown

theorem Guarded.of_silent (silent : Silent later first) : Guarded earlier later first :=
  fun state => .of_silent (silent state)

/-- What goes on from a silent action is guarded where it is guarded itself, and where
the action ended with a value it established. -/
theorem Guarded.resume {next : Except χ α → Action σ ε ω β} (silent : Silent later first)
    (guarded : ∀ outcome, (Establishes earlier first ∧ ∃ value, outcome = .ok value) ∨
      Guarded earlier later (next outcome)) :
    Guarded earlier later (first.resume next) := by
  intro state
  refine .append (silent state) ?_
  rcases guarded (first state).outcome with ⟨established, value, ended⟩ | guarded
  · exact .inl (established state value ended)
  · exact .inr (guarded _)

theorem Guarded.tryElse {handle : χ → Action σ ε ω β} {next : α → Action σ ε ω β}
    (silent : Silent later first) (handled : ∀ error, Silent later (handle error))
    (guarded : Establishes earlier first ∨ ∀ value, Guarded earlier later (next value)) :
    Guarded earlier later (first.tryElse handle next) := by
  refine .resume silent fun outcome => ?_
  cases outcome with
  | error error => exact .inr (.of_silent (handled error))
  | ok value =>
    rcases guarded with established | guarded
    · exact .inl ⟨established, value, rfl⟩
    · exact .inr (guarded value)

theorem Guarded.andThen {next : α → Action σ ε χ β} (silent : Silent later first)
    (guarded : Establishes earlier first ∨ ∀ value, Guarded earlier later (next value)) :
    Guarded earlier later (first.andThen next) :=
  .tryElse silent (fun _ => .done _) guarded

/-- A guarded action stays guarded before a silent one. -/
theorem Guarded.before_silent {next : Except χ α → Action σ ε ω β}
    (guarded : Guarded earlier later first) (silent : ∀ outcome, Silent later (next outcome)) :
    Guarded earlier later (first.resume next) :=
  fun state => (guarded state).append_silent (silent _ _)

/-- What goes on inside a resource is guarded where the body is. -/
theorem Guarded.within {enter leave : Action σ ε χ Unit} (entered : Silent later enter)
    (left : Silent later leave) (guarded : Guarded earlier later first) :
    Guarded earlier later (Action.within enter leave first) :=
  .andThen entered (.inr fun _ => guarded.before_silent fun _ => left.andThen fun _ => .done _)

end Events

section Exceptions
variable {σ ε χ ω α β : Type} {first : Action σ ε χ α} {state : σ}
  {kind : χ → Prop} {later : ε → Prop}

/-- An action that raises no exception of a kind. -/
def Spares (kind : χ → Prop) (action : Action σ ε χ α) : Prop :=
  ∀ state error, (action state).outcome = .error error → ¬ kind error

/-- An exception of the kind comes before any of the later events. -/
def Aborts (kind : χ → Prop) (later : ε → Prop) (action : Action σ ε χ α) : Prop :=
  ∀ state error, (action state).outcome = .error error → kind error →
    ∀ event ∈ (action state).events, ¬ later event

theorem andThen_error_iff {next : α → Action σ ε χ β} {error : χ} :
    (first.andThen next state).outcome = .error error ↔
      (first state).outcome = .error error ∨ ∃ held, (first state).outcome = .ok held ∧
        (next held (first state).state).outcome = .error error := by
  unfold Action.andThen Action.resume
  dsimp only
  cases (first state).outcome with
  | ok held => simp [either]
  | error raised => simp [either]

theorem Spares.done {outcome : Except χ α}
    (spared : ∀ error, outcome = .error error → ¬ kind error) :
    Spares kind (Action.done outcome : Action σ ε χ α) :=
  fun _ error raised => spared error raised

theorem Spares.andThen {next : α → Action σ ε χ β} (begun : Spares kind first)
    (ended : ∀ value, Spares kind (next value)) : Spares kind (first.andThen next) := by
  intro state error raised
  rcases andThen_error_iff.mp raised with early | ⟨held, _, late⟩
  · exact begun state error early
  · exact ended held _ error late

theorem Aborts.of_spares (spared : Spares kind first) : Aborts kind later first :=
  fun state error raised held => absurd held (spared state error raised)

theorem Aborts.andThen {next : α → Action σ ε χ β} (silent : Silent later first)
    (aborts : ∀ value, Aborts kind later (next value)) :
    Aborts kind later (first.andThen next) := by
  intro state error raised held event member
  rcases mem_andThen.mp member with early | ⟨value, ended, late⟩
  · exact silent state event early
  · rcases andThen_error_iff.mp raised with stopped | ⟨other, same, stopped⟩
    · rw [ended] at stopped
      cases stopped
    · rw [ended] at same
      cases same
      exact aborts value _ error stopped held event late

/-- An exception of the body leaves the resource as it came, unless its closing raises
one of another kind. -/
theorem Aborts.within {enter leave : Action σ ε χ Unit} (entered : Silent later enter)
    (left : Silent later leave) (spared : Spares kind leave) (aborts : Aborts kind later first) :
    Aborts kind later (Action.within enter leave first) := by
  refine .andThen entered fun _ => ?_
  intro state error raised held event member
  have closing := andThen_error_iff.mp raised
  rcases List.mem_append.mp member with early | late
  · rcases closing with stopped | ⟨_, _, stopped⟩
    · exact absurd held (spared _ error stopped)
    · exact aborts state error stopped held event early
  · exact (left.andThen fun _ => Silent.done _) _ event late

end Exceptions

section Values
variable {σ ε χ ω α β : Type} {first : Action σ ε χ α} {state after : σ} {events : List ε}

theorem done_eq_iff {outcome ending : Except χ α} :
    done outcome state = ⟨events, after, ending⟩ ↔
      events = [] ∧ after = state ∧ ending = outcome := by
  rw [done_course, Course.mk.injEq, eq_comm, eq_comm (a := state), eq_comm (a := outcome)]

/-- The course of a sequence that ends with a value is that of its parts. -/
theorem andThen_eq_ok_iff {next : α → Action σ ε χ β} {value : β} :
    first.andThen next state = ⟨events, after, .ok value⟩ ↔
      ∃ early middle held late, first state = ⟨early, middle, .ok held⟩ ∧
        next held middle = ⟨late, after, .ok value⟩ ∧ events = early ++ late := by
  unfold Action.andThen Action.resume
  dsimp only
  obtain ⟨early, middle, outcome⟩ := first state
  cases outcome with
  | ok held =>
    cases course : next held middle with
    | mk late final ending => simp [either, course, and_assoc, and_comm, eq_comm]
  | error error => simp [either]

/-- A resource whose body and closing end with a value. -/
theorem within_eq_ok {enter leave : Action σ ε χ Unit} {value : α}
    (ended : Action.within enter leave first state = ⟨events, after, .ok value⟩) :
    ∃ opening opened body middle closing, enter state = ⟨opening, opened, .ok ()⟩ ∧
      first opened = ⟨body, middle, .ok value⟩ ∧ leave middle = ⟨closing, after, .ok ()⟩ ∧
      events = opening ++ body ++ closing := by
  obtain ⟨opening, opened, _, late, entered, inside, rfl⟩ := andThen_eq_ok_iff.mp ended
  unfold Action.resume at inside
  cases course : first opened with
  | mk body middle outcome =>
    rw [course] at inside
    dsimp only at inside
    cases closed : leave.andThen (fun _ => Action.done outcome) middle with
    | mk closing final ending =>
      rw [closed] at inside
      cases inside
      obtain ⟨early, held, _, rest, left, done, rfl⟩ := andThen_eq_ok_iff.mp closed
      cases done
      exact ⟨opening, opened, body, middle, early, entered, course, left, by simp⟩

/-- The action ends with a value and leaves a state. -/
structure Yields (action : Action σ ε χ α) (state : σ) (value : α) (after : σ) : Prop where
  outcome : (action state).outcome = .ok value
  leaves : (action state).state = after

theorem yields_done {outcome : Except χ α} {value : α} :
    (done outcome : Action σ ε χ α).Yields state value after ↔
      outcome = .ok value ∧ after = state := by
  constructor
  · rintro ⟨ended, rfl⟩
    exact ⟨ended, rfl⟩
  · rintro ⟨ended, rfl⟩
    exact ⟨ended, rfl⟩

theorem yields_pure {held value : α} :
    (pure held : Action σ ε χ α).Yields state value after ↔ value = held ∧ after = state := by
  rw [← Except.ok.injEq value held, eq_comm (a := Except.ok value)]
  exact yields_done

theorem yields_emit {event : ε} {value : Unit} :
    (emit event : Action σ ε χ Unit).Yields state value after ↔ after = state :=
  ⟨fun yields => yields.leaves.symm, fun same => ⟨rfl, same.symm⟩⟩

/-- Where the first part ends with a value, the second leaves the state. -/
theorem andThen_state {next : α → Action σ ε χ β} {held : α}
    (begun : (first state).outcome = .ok held) :
    (first.andThen next state).state = (next held (first state).state).state := by
  unfold Action.andThen Action.resume
  dsimp only
  rw [begun]
  rfl

/-- A sequence yields what its second part makes of what its first part yields. -/
theorem yields_bind {next : α → Action σ ε χ β} {value : β} :
    Yields (first >>= next) state value after ↔
      ∃ held middle, first.Yields state held middle ∧ (next held).Yields middle value after := by
  change (first.andThen next).Yields state value after ↔ _
  constructor
  · rintro ⟨ended, rfl⟩
    obtain ⟨held, begun, later⟩ := andThen_ok_iff.mp ended
    exact ⟨held, _, ⟨begun, rfl⟩, later, (andThen_state begun).symm⟩
  · rintro ⟨held, _, ⟨begun, rfl⟩, ended, rfl⟩
    exact ⟨andThen_ok_iff.mpr ⟨held, begun, ended⟩, andThen_state begun⟩

/-- What a sequence leaves after its first part yields. -/
theorem Yields.bind_state {next : α → Action σ ε χ β} {held : α}
    (begun : first.Yields state held after) :
    ((first >>= next) state).state = (next held after).state := by
  obtain ⟨ended, rfl⟩ := begun
  exact andThen_state ended

/-- After a part without the events of a kind, they are those of the rest. -/
theorem mem_bind_of_silent {kind : ε → Prop} {event : ε} {next : α → Action σ ε χ β}
    (silent : Silent kind first) (shown : kind event) :
    event ∈ ((first >>= next) state).events ↔
      ∃ held middle, first.Yields state held middle ∧ event ∈ (next held middle).events := by
  change event ∈ (first.andThen next state).events ↔ _
  rw [mem_andThen]
  constructor
  · rintro (early | ⟨held, ended, late⟩)
    · exact absurd shown (silent state event early)
    · exact ⟨held, _, ⟨ended, rfl⟩, late⟩
  · rintro ⟨held, _, ⟨ended, rfl⟩, late⟩
    exact .inr ⟨held, ended, late⟩

/-- A `try` whose body ends with a value. -/
theorem tryElse_of_ok {handle : χ → Action σ ε ω β} {next : α → Action σ ε ω β} {value : α}
    (ended : first state = ⟨events, after, .ok value⟩) :
    first.tryElse handle next state = ⟨events ++ (next value after).events,
      (next value after).state, (next value after).outcome⟩ := by
  unfold Action.tryElse Action.resume
  rw [ended]
  rfl

/-- A `try` whose body raises. -/
theorem tryElse_of_error {handle : χ → Action σ ε ω β} {next : α → Action σ ε ω β} {error : χ}
    (raised : first state = ⟨events, after, .error error⟩) :
    first.tryElse handle next state = ⟨events ++ (handle error after).events,
      (handle error after).state, (handle error after).outcome⟩ := by
  unfold Action.tryElse Action.resume
  rw [raised]
  rfl

end Values

section States
variable {σ ε χ ω α β : Type} {first : Action σ ε χ α} {holds : σ → σ → Prop}

/-- An action changes the state within a relation. -/
def Moves (holds : σ → σ → Prop) (action : Action σ ε χ α) : Prop :=
  ∀ state, holds state (action state).state

theorem Moves.resume {next : Except χ α → Action σ ε ω β}
    (trans : ∀ {before middle after}, holds before middle → holds middle after →
      holds before after)
    (begun : Moves holds first) (ended : ∀ outcome, Moves holds (next outcome)) :
    Moves holds (first.resume next) :=
  fun state => trans (begun state) (ended _ _)

theorem Moves.bind {next : α → Action σ ε χ β} (same : ∀ state, holds state state)
    (trans : ∀ {before middle after}, holds before middle → holds middle after →
      holds before after)
    (begun : Moves holds first) (ended : ∀ value, Moves holds (next value)) :
    Moves holds (first >>= next) := by
  refine Moves.resume trans begun fun outcome => ?_
  cases outcome with
  | ok value => exact ended value
  | error error => exact same

end States

section Resources
variable {σ ε χ α : Type} {enter : Action σ ε χ Unit} {state : σ}

/-- A resource that cannot be entered is not left. -/
theorem within_of_unentered (leave : Action σ ε χ Unit) (body : Action σ ε χ α) {error : χ}
    (refused : (enter state).outcome = .error error) :
    (within enter leave body state).events = (enter state).events ∧
      (within enter leave body state).state = (enter state).state := by
  unfold Action.within Action.andThen Action.resume
  dsimp only
  rw [refused]
  exact ⟨List.append_nil _, rfl⟩

/-- One that is entered is left once its body ends. -/
theorem within_of_entered (leave : Action σ ε χ Unit) (body : Action σ ε χ α)
    (entered : (enter state).outcome = .ok ()) :
    (within enter leave body state).events = (enter state).events ++
        ((body (enter state).state).events ++
          (leave (body (enter state).state).state).events) ∧
      (within enter leave body state).state =
        (leave (body (enter state).state).state).state := by
  unfold Action.within Action.andThen Action.resume
  dsimp only
  rw [entered]
  dsimp only [either]
  cases (leave (body (enter state).state).state).outcome <;>
    exact ⟨by simp, rfl⟩

end Resources

end Action

end ModelPilot
