import ModelPilot.Runs

/-! Transactions on one file, serialised by a lock. A transaction works on its own copy
from the moment it holds the lock and publishes the copy when it commits; when one of
its statements raises, the copy is dropped. Parties are told apart by an arbitrary
type. -/
namespace ModelPilot.Transactions

/-- The statements of a transaction; what comes after one may depend on what it finds. -/
inductive Program (σ ε : Type) where
  | commit
  | raise (error : ε)
  | step (act : σ → Except ε σ) (next : σ → Program σ ε)

namespace Program
variable {σ ε : Type}

/-- A transaction by itself. -/
def run : Program σ ε → σ → Except ε σ
  | .commit, working => .ok working
  | .raise error, _ => .error error
  | .step act next, working =>
    match act working with
    | .ok after => (next after).run after
    | .error error => .error error

/-- A transaction whose statement at any position, the commit included, may fail for
reasons of its own. -/
def attempt (fault : Nat → Option ε) : Nat → Program σ ε → σ → Except ε σ
  | position, .commit, working =>
    match fault position with
    | some error => .error error
    | none => .ok working
  | _, .raise error, _ => .error error
  | position, .step act next, working =>
    match fault position with
    | some error => .error error
    | none =>
      match act working with
      | .ok after => attempt fault (position + 1) (next after) after
      | .error error => .error error

theorem attempt_none (program : Program σ ε) (position : Nat) (working : σ) :
    program.attempt (fun _ => none) position working = program.run working := by
  induction program generalizing position working with
  | commit => rfl
  | raise error => rfl
  | step act next ih =>
    unfold attempt run
    cases act working with
    | error error => rfl
    | ok after => exact ih after (position + 1) after

/-- Faults only stop a transaction: one that succeeds is the plain one. -/
theorem run_of_attempt {fault : Nat → Option ε} {program : Program σ ε} {position : Nat}
    {working after : σ} (done : program.attempt fault position working = .ok after) :
    program.run working = .ok after := by
  induction program generalizing position working with
  | commit =>
    unfold attempt at done
    split at done <;> cases done
    rfl
  | raise error => cases done
  | step act next ih =>
    unfold attempt at done
    split at done
    · cases done
    · unfold run
      cases acted : act working with
      | error error =>
        rw [acted] at done
        cases done
      | ok middle =>
        rw [acted] at done
        exact ih middle done

/-- What every action of a program keeps, its run keeps. -/
inductive Keeps (holds : σ → σ → Prop) : Program σ ε → Prop where
  | commit : Keeps holds .commit
  | raise (error : ε) : Keeps holds (.raise error)
  | step {act : σ → Except ε σ} {next : σ → Program σ ε}
      (acts : ∀ before after, act before = .ok after → holds before after)
      (later : ∀ after, Keeps holds (next after)) : Keeps holds (.step act next)

theorem Keeps.run {holds : σ → σ → Prop} {program : Program σ ε} {before after : σ}
    (refl : ∀ state, holds state state)
    (trans : ∀ first second third, holds first second → holds second third → holds first third)
    (keeps : Keeps holds program) (ran : program.run before = .ok after) : holds before after := by
  induction keeps generalizing before with
  | commit =>
    cases ran
    exact refl _
  | raise error => cases ran
  | @step act next acts later ih =>
    unfold Program.run at ran
    cases acted : act before with
    | error error =>
      rw [acted] at ran
      cases ran
    | ok middle =>
      rw [acted] at ran
      exact trans _ _ _ (acts _ _ acted) (ih middle ran)

end Program

/-- Where a party is: before its transaction, in it with its copy, after it, told that
the file is locked, or rolled back. -/
inductive Phase (σ ε : Type) where
  | waiting
  | running (working : σ) (rest : Program σ ε)
  | finished
  | refused
  | failed (error : ε)

/-- The committed file, the party that holds its lock, and all parties. -/
structure Machine (ι σ ε : Type) where
  file : σ
  holder : Option ι := none
  phase : ι → Phase σ ε := fun _ => .waiting

inductive Event (ι : Type) where
  | start (party : ι)
  | refuse (party : ι)
  | advance (party : ι)

variable {ι σ ε : Type} [DecidableEq ι]

def Machine.enter (machine : Machine ι σ ε) (party : ι) (phase : Phase σ ε) : ι → Phase σ ε :=
  fun other => if other = party then phase else machine.phase other

/-- One move of a party that runs `program`. -/
def step (program : Program σ ε) (machine : Machine ι σ ε) : Event ι → Option (Machine ι σ ε)
  | .start party =>
    match machine.phase party, machine.holder with
    | .waiting, none => some
      { machine with
        holder := some party
        phase := machine.enter party (.running machine.file program) }
    | _, _ => none
  | .refuse party =>
    match machine.phase party, machine.holder with
    | .waiting, some _ => some { machine with phase := machine.enter party .refused }
    | _, _ => none
  | .advance party =>
    match machine.phase party with
    | .running working .commit => some
      { file := working, holder := none, phase := machine.enter party .finished }
    | .running _ (.raise error) => some
      { machine with holder := none, phase := machine.enter party (.failed error) }
    | .running working (.step act next) =>
      match act working with
      | .ok after => some
        { machine with phase := machine.enter party (.running after (next after)) }
      | .error error => some
        { machine with holder := none, phase := machine.enter party (.failed error) }
    | _ => none

variable {program rest : Program σ ε} {machine next : Machine ι σ ε} {event : Event ι}
  {start final working : σ} {party other : ι}

/-- Everything a move can do. -/
theorem step_cases (moved : step program machine event = some next) :
    (∃ party, machine.phase party = .waiting ∧ machine.holder = none ∧
      next = { machine with
        holder := some party
        phase := machine.enter party (.running machine.file program) }) ∨
    (∃ party, machine.phase party = .waiting ∧
      next = { machine with phase := machine.enter party .refused }) ∨
    ∃ party working rest, machine.phase party = .running working rest ∧
      ((rest = .commit ∧
        next = { file := working, holder := none, phase := machine.enter party .finished }) ∨
      (∃ act more after, rest = .step act more ∧ act working = .ok after ∧
        next = { machine with phase := machine.enter party (.running after (more after)) }) ∨
      ∃ error, rest.run working = .error error) := by
  cases event with
  | start party =>
    left
    simp only [step] at moved
    split at moved
    · rename_i waiting free
      cases moved
      exact ⟨party, waiting, free, rfl⟩
    · cases moved
  | refuse party =>
    right
    left
    simp only [step] at moved
    split at moved
    · rename_i waiting _
      cases moved
      exact ⟨party, waiting, rfl⟩
    · cases moved
  | advance party =>
    right
    right
    simp only [step] at moved
    split at moved
    · rename_i working running
      cases moved
      exact ⟨party, working, .commit, running, .inl ⟨rfl, rfl⟩⟩
    · rename_i working error running
      exact ⟨party, working, .raise error, running, .inr (.inr ⟨error, rfl⟩)⟩
    · rename_i working act more running
      refine ⟨party, working, .step act more, running, .inr ?_⟩
      cases acted : act working with
      | ok after =>
        rw [acted] at moved
        cases moved
        exact .inl ⟨act, more, after, rfl, acted, rfl⟩
      | error error => exact .inr ⟨error, by rw [Program.run, acted]⟩
    · cases moved

/-- The file is as it was until a party finishes and is final from then on; only the
holder of the lock runs, on a copy that leads to the final file; and no transaction
fails. -/
structure Serial (start final : σ) (machine : Machine ι σ ε) : Prop where
  file : (machine.file = start ∧ ∀ party, machine.phase party ≠ .finished) ∨ machine.file = final
  running : ∀ party working rest, machine.phase party = .running working rest →
    machine.holder = some party ∧ rest.run working = .ok final
  held : ∀ party, machine.holder = some party →
    ∃ working rest, machine.phase party = .running working rest
  sound : ∀ party error, machine.phase party ≠ .failed error

theorem enter_cases {phase seen : Phase σ ε} (entered : machine.enter party phase other = seen) :
    (other = party ∧ seen = phase) ∨ (other ≠ party ∧ machine.phase other = seen) := by
  unfold Machine.enter at entered
  split at entered
  · rename_i same
    exact .inl ⟨same, entered.symm⟩
  · rename_i different
    exact .inr ⟨different, entered⟩

/-- A phase that no party is in stays so when a party enters another one. -/
theorem enter_ne {phase absent : Phase σ ε} (before : ∀ other, machine.phase other ≠ absent)
    (apart : phase ≠ absent) (other : ι) : machine.enter party phase other ≠ absent := by
  intro entered
  rcases enter_cases entered with ⟨_, same⟩ | ⟨_, same⟩
  · exact apart same.symm
  · exact before other same

namespace Serial

theorem begin (one : program.run start = .ok final) (again : program.run final = .ok final)
    (serial : Serial start final machine) (free : machine.holder = none) (party : ι) :
    Serial start final { machine with
      holder := some party
      phase := machine.enter party (.running machine.file program) } where
  file := serial.file.imp_left fun unfinished =>
    ⟨unfinished.1, enter_ne unfinished.2 (by simp)⟩
  running other working rest entered := by
    rcases enter_cases entered with ⟨rfl, same⟩ | ⟨_, before⟩
    · cases same
      refine ⟨rfl, ?_⟩
      rcases serial.file with ⟨same, _⟩ | same <;> rw [same]
      · exact one
      · exact again
    · have locked := (serial.running other _ _ before).1
      rw [free] at locked
      cases locked
  held other holds := by
    cases holds
    exact ⟨_, _, if_pos rfl⟩
  sound other error := enter_ne (fun other => serial.sound other error) (by simp) other

theorem refuse (serial : Serial start final machine) (waiting : machine.phase party = .waiting) :
    Serial start final { machine with phase := machine.enter party .refused } where
  file := serial.file.imp_left fun unfinished =>
    ⟨unfinished.1, enter_ne unfinished.2 (by simp)⟩
  running other working rest entered := by
    rcases enter_cases entered with ⟨_, impossible⟩ | ⟨_, before⟩
    · cases impossible
    · exact serial.running other working rest before
  held other holds := by
    obtain ⟨working, rest, running⟩ := serial.held other holds
    have different : other ≠ party := by
      rintro rfl
      rw [waiting] at running
      cases running
    exact ⟨working, rest, (if_neg different).trans running⟩
  sound other error := enter_ne (fun other => serial.sound other error) (by simp) other

omit [DecidableEq ι] in
/-- Nobody runs beside the holder of the lock. -/
theorem alone (serial : Serial start final machine) (locked : machine.holder = some party)
    (different : other ≠ party) : machine.phase other ≠ .running working rest := by
  intro also
  have same := (serial.running other working rest also).1
  rw [locked] at same
  exact different (Option.some.inj same).symm

theorem commit (serial : Serial start final machine)
    (running : machine.phase party = .running working .commit) :
    Serial start final
      { file := working, holder := none, phase := machine.enter party .finished } where
  file := .inr (Except.ok.inj (serial.running party working _ running).2)
  running other working rest entered := by
    rcases enter_cases entered with ⟨_, impossible⟩ | ⟨different, before⟩
    · cases impossible
    · exact absurd before (serial.alone (serial.running party _ _ running).1 different)
  held other holds := by cases holds
  sound other error := enter_ne (fun other => serial.sound other error) (by simp) other

theorem act {after : σ} {action : σ → Except ε σ} {more : σ → Program σ ε}
    (serial : Serial start final machine)
    (running : machine.phase party = .running working (.step action more))
    (acted : action working = .ok after) :
    Serial start final
      { machine with phase := machine.enter party (.running after (more after)) } where
  file := serial.file.imp_left fun unfinished =>
    ⟨unfinished.1, enter_ne unfinished.2 (by simp)⟩
  running other working rest entered := by
    obtain ⟨locked, leads⟩ := serial.running party _ _ running
    rcases enter_cases entered with ⟨rfl, same⟩ | ⟨different, before⟩
    · cases same
      rw [Program.run, acted] at leads
      exact ⟨locked, leads⟩
    · exact absurd before (serial.alone locked different)
  held other holds := by
    have locked := (serial.running party _ _ running).1
    have same : other = party := (Option.some.inj (locked.symm.trans holds)).symm
    exact ⟨after, more after, if_pos same⟩
  sound other error := enter_ne (fun other => serial.sound other error) (by simp) other

theorem step (one : program.run start = .ok final) (again : program.run final = .ok final)
    (serial : Serial start final machine)
    (moved : Transactions.step program machine event = some next) : Serial start final next := by
  rcases step_cases moved with ⟨party, _, free, rfl⟩ | ⟨party, waiting, rfl⟩ |
    ⟨party, working, rest, running, moves⟩
  · exact serial.begin one again free party
  · exact serial.refuse waiting
  · rcases moves with ⟨rfl, rfl⟩ | ⟨act, more, after, rfl, acted, rfl⟩ | ⟨error, fails⟩
    · exact serial.commit running
    · exact serial.act running acted
    · have leads := (serial.running party working rest running).2
      rw [fails] at leads
      cases leads

end Serial

/-- Where one transaction succeeds, and succeeds again on what it leaves, any
interleaving of parties that run it stays serial. -/
theorem serial_of_reachable (one : program.run start = .ok final)
    (again : program.run final = .ok final)
    (reached : Runs.Reachable (step program) (fun _ _ => True)
      (fun machine : Machine ι σ ε => machine = { file := start }) machine) :
    Serial start final machine := by
  apply reached.invariant
  · rintro machine rfl
    exact ⟨.inl ⟨rfl, by simp⟩, by simp, by simp, by simp⟩
  · exact fun before event after serial _ moved => serial.step one again moved

/-- The holder of the lock finishes when it goes on. -/
theorem Serial.finishes (serial : Serial start final machine)
    (running : machine.phase party = .running working rest) :
    ∃ moves later,
      (List.replicate moves (.advance party)).foldlM (Transactions.step program) machine =
        some later ∧
      later.phase party = .finished ∧ later.file = final := by
  induction rest generalizing machine working with
  | commit =>
    refine ⟨1, { file := working, holder := none, phase := machine.enter party .finished },
      ?_, if_pos rfl, Except.ok.inj (serial.running party working _ running).2⟩
    simp [Transactions.step, running]
  | raise error =>
    have leads := (serial.running party working _ running).2
    cases leads
  | step act more ih =>
    cases acted : act working with
    | error error =>
      have leads := (serial.running party working _ running).2
      rw [Program.run, acted] at leads
      cases leads
    | ok after =>
      have entered : machine.enter party (.running after (more after)) party =
          .running after (more after) := if_pos rfl
      obtain ⟨moves, later, ran, done⟩ := ih after (serial.act running acted) entered
      refine ⟨moves + 1, later, ?_, done⟩
      rw [List.replicate_succ, List.foldlM_cons]
      have first : Transactions.step program machine (.advance party) = some
          { machine with phase := machine.enter party (.running after (more after)) } := by
        simp [Transactions.step, running, acted]
      rw [first]
      exact ran

end ModelPilot.Transactions
