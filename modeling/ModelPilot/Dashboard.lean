import Mathlib.Logic.Function.Basic
import ModelPilot.FetchJson

/-! The loads of the dashboard (`Dashboard` in `app/page.tsx`): six reads at a time, of which
only the newest load of a mounted dashboard is shown. -/
namespace ModelPilot

/-! ### The component -/

/-- The panels, in the order of the reads of a load. -/
inductive Panel where
  | health
  | summary
  | providers
  | decisions
  | failures
  | providerHealth
  deriving DecidableEq, Repr

def Panel.all : List Panel :=
  [.health, .summary, .providers, .decisions, .failures, .providerHealth]

theorem Panel.mem_all (panel : Panel) : panel ∈ Panel.all := by
  cases panel <;> decide

inductive Loadable where
  | loading
  | success (data : Json)
  | error

def Loadable.isLoading : Loadable → Bool
  | .loading => true
  | _ => false

namespace Dashboard
open FetchJson (Call Outcome)

/-- `settled`. -/
def settled : Outcome → Loadable
  | .ok data => .success data
  | .error _ => .error

/-- A load: its sequence number, its reads, which share the signal of one controller, and
whether it went on after `Promise.allSettled`. -/
structure Load where
  sequence : Nat
  calls : Panel → Call := fun _ => FetchJson.start false
  resumed : Bool := false

/-- The controller of a load aborts. -/
def Load.abort (load : Load) : Load :=
  { load with calls := fun panel => (load.calls panel).abort }

/-- One read of a load moves on. -/
def Load.setCall (load : Load) (panel : Panel) (call : Call) : Load :=
  { load with calls := Function.update load.calls panel call }

/-- Every read of a load has settled. -/
def Load.allSettled (load : Load) : Bool :=
  Panel.all.all fun panel => (load.calls panel).result.isSome

/-- What the panels are set to. -/
def Load.results (load : Load) (panel : Panel) : Loadable :=
  match (load.calls panel).result with
  | some outcome => settled outcome
  | none => .loading

end Dashboard

/-- The component: the states of its panels, its refs, the key that it refreshes the benchmarks
with, the loads it began, whether it is mounted, and what it rendered last. A controller is
known by the number of its load. -/
structure Dashboard where
  panels : Panel → Loadable := fun _ => .loading
  requestSequence : Nat := 0
  activeRequest : Option Nat := none
  benchmarkRefresh : Nat := 0
  loads : List Dashboard.Load := []
  mounted : Bool := false
  view : Panel → Loadable := fun _ => .loading

namespace Dashboard
open FetchJson (Call Outcome)

/-- `activeRequest.current?.abort()`. -/
def abortActive (dashboard : Dashboard) : List Load :=
  match dashboard.activeRequest with
  | some index => dashboard.loads.modify index Load.abort
  | none => dashboard.loads

/-- `load`, until it awaits its reads. -/
def load (dashboard : Dashboard) : Dashboard :=
  { dashboard with
    loads := dashboard.abortActive ++ [{ sequence := dashboard.requestSequence + 1 }]
    activeRequest := some dashboard.loads.length
    requestSequence := dashboard.requestSequence + 1 }

/-- `refresh`, until it awaits its load. -/
def refresh (dashboard : Dashboard) : Dashboard :=
  { dashboard with
    benchmarkRefresh := dashboard.benchmarkRefresh + 1
    panels := fun _ => .loading }.load

/-- The effect runs, or runs again after its cleanup. -/
def mount (dashboard : Dashboard) : Dashboard := { dashboard with mounted := true }.load

/-- The cleanup of the effect. -/
def unmount (dashboard : Dashboard) : Dashboard :=
  { dashboard with
    mounted := false
    requestSequence := dashboard.requestSequence + 1
    loads := dashboard.abortActive }

/-- `load` after its reads, for the load of a number. -/
def goOn (dashboard : Dashboard) (index : Nat) (load : Load) : Dashboard :=
  let resumed :=
    { dashboard with loads := dashboard.loads.modify index fun held => { held with resumed := true } }
  if load.sequence ≠ dashboard.requestSequence then resumed
  else { resumed with panels := load.results }

/-- `loadingAny`, of the panels of a render. -/
def loadingAny (panels : Panel → Loadable) : Bool :=
  Panel.all.any fun panel => (panels panel).isLoading

/-- What can happen: the effect and its cleanup, a click on the button, a render, an event of
one read of a load, and the continuation of a load. -/
inductive Event where
  | mount
  | unmount
  | click
  | render
  | network (index : Nat) (panel : Panel) (event : FetchJson.Event)
  | resume (index : Nat)

/-- One event, when it can happen. The button is disabled while the render shows a panel that
loads, and nobody but the component aborts a signal. -/
def step (dashboard : Dashboard) : Event → Option Dashboard
  | .mount => if dashboard.mounted then none else some dashboard.mount
  | .unmount => if dashboard.mounted then some dashboard.unmount else none
  | .click =>
    if dashboard.mounted && !loadingAny dashboard.view then some dashboard.refresh else none
  | .render =>
    if dashboard.mounted then some { dashboard with view := dashboard.panels } else none
  | .network index panel event =>
    match dashboard.loads[index]? with
    | some load =>
      if event.isAbort then none
      else
        ((load.calls panel).step event).map fun call =>
          { dashboard with
            loads := dashboard.loads.modify index fun held => held.setCall panel call }
    | none => none
  | .resume index =>
    match dashboard.loads[index]? with
    | some load =>
      if load.allSettled && !load.resumed then some (dashboard.goOn index load) else none
    | none => none

/-- The component after some events. -/
def run (dashboard : Dashboard) (events : List Event) : Option Dashboard :=
  events.foldlM step dashboard

/-! ### Live loads -/

section Live
variable {dashboard next : Dashboard} {event : Event} {index : Nat} {load : Load} {panel : Panel}

/-- The newest load of a mounted dashboard. -/
def Live (dashboard : Dashboard) (index : Nat) : Prop :=
  dashboard.mounted = true ∧ index + 1 = dashboard.loads.length

instance instDecidableLive : Decidable (Live dashboard index) := inferInstanceAs (Decidable (_ ∧ _))

/-- The reads of a load are those that some events make of a fresh read. -/
def Load.Reached (load : Load) : Prop :=
  ∀ panel, ∃ events, FetchJson.run (FetchJson.start false) events = some (load.calls panel)

/-- What holds at any time: only the signal of the live load is not aborted, and only its
sequence is the current one; and once it went on no panel loads. -/
structure Tracks (dashboard : Dashboard) : Prop where
  reached : ∀ (index : Nat) (load : Load), dashboard.loads[index]? = some load → load.Reached
  aborted : ∀ (index : Nat) (load : Load), dashboard.loads[index]? = some load → ∀ panel,
    (load.calls panel).aborted = !decide (Live dashboard index)
  below : ∀ (index : Nat) (load : Load), dashboard.loads[index]? = some load →
    load.sequence ≤ dashboard.requestSequence
  current : ∀ (index : Nat) (load : Load), dashboard.loads[index]? = some load →
    (load.sequence = dashboard.requestSequence ↔ Live dashboard index)
  active : dashboard.mounted = true →
    ∃ index, dashboard.loads.length = index + 1 ∧ dashboard.activeRequest = some index
  shown : ∀ (index : Nat) (load : Load), dashboard.loads[index]? = some load → Live dashboard index →
    load.resumed = true → loadingAny dashboard.panels = false

theorem call_aborted {call after : Call} {event : FetchJson.Event}
    (moved : call.step event = some after) : after.aborted = (call.aborted || event.isAbort) := by
  unfold Call.step at moved
  cases event with
  | abort =>
    cases moved
    unfold Call.abort
    split <;> simp [FetchJson.Event.isAbort]
  | deadline =>
    dsimp only at moved
    split at moved
    · cases moved
      simp [FetchJson.Event.isAbort]
    · cases moved
  | _ =>
    dsimp only at moved
    split at moved
    · cases moved
      exact (Bool.or_false _).symm
    · cases moved

theorem run_aborted {events : List FetchJson.Event} {call : Call}
    (ran : FetchJson.run (FetchJson.start false) events = some call) :
    call.aborted = events.any FetchJson.Event.isAbort := by
  induction events using List.reverseRecOn generalizing call with
  | nil =>
    cases ran
    rfl
  | append_singleton events event ih =>
    rw [FetchJson.run_append] at ran
    obtain ⟨before, earlier, moved⟩ := Option.bind_eq_some_iff.mp ran
    rw [FetchJson.run_singleton] at moved
    rw [call_aborted moved, ih earlier, FetchJson.any_append]

theorem reached_step {call after : Call} {event : FetchJson.Event}
    (reached : ∃ events, FetchJson.run (FetchJson.start false) events = some call)
    (moved : call.step event = some after) :
    ∃ events, FetchJson.run (FetchJson.start false) events = some after := by
  obtain ⟨events, ran⟩ := reached
  refine ⟨events ++ [event], ?_⟩
  rw [FetchJson.run_append, ran]
  exact (FetchJson.run_singleton call event).trans moved

theorem step_abort (call : Call) : call.step .abort = some call.abort := rfl

theorem abort_reached (reached : load.Reached) : load.abort.Reached :=
  fun panel => reached_step (reached panel) (step_abort _)

theorem abort_aborted (load : Load) (panel : Panel) : (load.abort.calls panel).aborted = true :=
  (call_aborted (step_abort (load.calls panel))).trans (Bool.or_true _)

@[simp] theorem setCall_self (load : Load) (panel : Panel) (call : Call) :
    (load.setCall panel call).calls panel = call := Function.update_self ..

theorem setCall_other {other : Panel} (load : Load) (call : Call) (different : other ≠ panel) :
    (load.setCall panel call).calls other = load.calls other := Function.update_of_ne different ..

theorem setCall_reached {call : Call} (reached : load.Reached)
    (moved : ∃ events, FetchJson.run (FetchJson.start false) events = some call) :
    (load.setCall panel call).Reached := by
  intro other
  by_cases same : other = panel
  · rw [same, setCall_self]
    exact moved
  · rw [setCall_other load call same]
    exact reached other

theorem abortActive_length (dashboard : Dashboard) :
    dashboard.abortActive.length = dashboard.loads.length := by
  unfold abortActive
  split
  · exact List.length_modify ..
  · rfl

/-- Once the active controller aborts, every signal is aborted. -/
theorem abortActive_spec (tracks : Tracks dashboard)
    (held : dashboard.abortActive[index]? = some load) :
    load.Reached ∧ (∀ panel, (load.calls panel).aborted = true) ∧
      ∃ old, dashboard.loads[index]? = some old ∧ load.sequence = old.sequence ∧
        load.resumed = old.resumed := by
  have same (old : Load) (kept : dashboard.loads[index]? = some old)
      (dead : ¬ Live dashboard index) (panel : Panel) : (old.calls panel).aborted = true := by
    rw [tracks.aborted index old kept panel, decide_eq_false dead]
    rfl
  unfold abortActive at held
  split at held
  · rename_i active aborts
    rw [List.getElem?_modify] at held
    obtain ⟨old, kept, rfl⟩ := Option.map_eq_some_iff.mp held
    split
    · exact ⟨abort_reached (tracks.reached index old kept), abort_aborted old, old, kept, rfl, rfl⟩
    · rename_i other
      refine ⟨tracks.reached index old kept, same old kept ?_, old, kept, rfl, rfl⟩
      rintro ⟨mounted, newest⟩
      obtain ⟨last, length, current⟩ := tracks.active mounted
      rw [aborts] at current
      cases current
      omega
  · rename_i idle
    refine ⟨tracks.reached index load held, same load held ?_, load, held, rfl, rfl⟩
    rintro ⟨mounted, newest⟩
    obtain ⟨last, length, current⟩ := tracks.active mounted
    rw [idle] at current
    cases current

theorem getElem_concat {α : Type} {items : List α} {item held : α}
    (found : (items ++ [item])[index]? = some held) :
    (index < items.length ∧ items[index]? = some held) ∨
      (index = items.length ∧ held = item) := by
  rw [List.getElem?_append] at found
  split at found
  · rename_i old
    exact .inl ⟨old, found⟩
  · rename_i beyond
    obtain ⟨inside, rfl⟩ := List.getElem?_eq_some_iff.mp found
    rw [List.length_singleton] at inside
    exact .inr ⟨by omega, by simp⟩

/-- A new load, beside loads that are all aborted. -/
theorem load_tracks (tracks : Tracks dashboard)
    (loads : next.loads = dashboard.abortActive ++ [{ sequence := dashboard.requestSequence + 1 }])
    (mounted : next.mounted = true) (active : next.activeRequest = some dashboard.loads.length)
    (sequence : next.requestSequence = dashboard.requestSequence + 1) : Tracks next := by
  have length : next.loads.length = dashboard.loads.length + 1 := by
    rw [loads, List.length_append, abortActive_length, List.length_singleton]
  have live_iff (index : Nat) : Live next index ↔ index = dashboard.loads.length := by
    unfold Live
    rw [length, mounted, Nat.add_right_cancel_iff]
    exact and_iff_right rfl
  have either {index : Nat} {load : Load} (held : next.loads[index]? = some load) :
      (¬ Live next index ∧ load.Reached ∧ (∀ panel, (load.calls panel).aborted = true) ∧
        load.sequence ≤ dashboard.requestSequence) ∨
      (Live next index ∧ load = { sequence := dashboard.requestSequence + 1 }) := by
    rw [loads] at held
    rw [live_iff, ← abortActive_length dashboard]
    rcases getElem_concat held with ⟨inside, old⟩ | ⟨last, new⟩
    · obtain ⟨reached, aborted, earlier, kept, same, _⟩ := abortActive_spec tracks old
      exact .inl ⟨by omega, reached, aborted, same ▸ tracks.below index earlier kept⟩
    · exact .inr ⟨last, new⟩
  constructor
  · intro index load held
    rcases either held with ⟨_, reached, _⟩ | ⟨_, rfl⟩
    · exact reached
    · exact fun panel => ⟨[], rfl⟩
  · intro index load held panel
    rcases either held with ⟨dead, _, aborted, _⟩ | ⟨live, rfl⟩
    · rw [aborted panel, decide_eq_false dead]
      rfl
    · rw [decide_eq_true live]
      rfl
  · intro index load held
    rcases either held with ⟨_, _, _, below⟩ | ⟨_, rfl⟩
    · omega
    · exact sequence.ge
  · intro index load held
    rcases either held with ⟨dead, _, _, below⟩ | ⟨live, rfl⟩
    · refine iff_of_false ?_ dead
      omega
    · exact iff_of_true sequence.symm live
  · exact fun _ => ⟨_, length, active⟩
  · intro index load held _ resumed
    rcases either held with ⟨dead, _⟩ | ⟨_, rfl⟩
    · contradiction
    · cases resumed

theorem unmount_tracks (tracks : Tracks dashboard) : Tracks dashboard.unmount := by
  have dead (index : Nat) : ¬ Live dashboard.unmount index := fun live => nomatch live.1
  constructor
  · exact fun index load held => (abortActive_spec tracks held).1
  · intro index load held panel
    rw [(abortActive_spec tracks held).2.1 panel, decide_eq_false (dead index)]
    rfl
  · intro index load held
    obtain ⟨_, _, old, kept, same, _⟩ := abortActive_spec tracks held
    have below := tracks.below index old kept
    change load.sequence ≤ dashboard.requestSequence + 1
    omega
  · intro index load held
    obtain ⟨_, _, old, kept, same, _⟩ := abortActive_spec tracks held
    have below := tracks.below index old kept
    refine iff_of_false ?_ (dead index)
    change load.sequence ≠ dashboard.requestSequence + 1
    omega
  · exact fun mounted => nomatch mounted
  · exact fun index load held live => absurd live (dead index)

/-- A change of one load that keeps its sequence and its signal, and of the panels. -/
theorem modify_tracks (tracks : Tracks dashboard) {change : Load → Load} {panels : Panel → Loadable}
    (held : dashboard.loads[index]? = some load) (reached : (change load).Reached)
    (aborted : ∀ panel, ((change load).calls panel).aborted = (load.calls panel).aborted)
    (sequence : (change load).sequence = load.sequence)
    (shown : ∀ other old, dashboard.loads[other]? = some old → Live dashboard other →
      (if index = other then change old else old).resumed = true → loadingAny panels = false) :
    Tracks { dashboard with loads := dashboard.loads.modify index change, panels } := by
  have live_iff (other : Nat) :
      Live { dashboard with loads := dashboard.loads.modify index change, panels } other ↔
        Live dashboard other := by
    unfold Live
    rw [List.length_modify]
  have either {other : Nat} {found : Load}
      (there : (dashboard.loads.modify index change)[other]? = some found) :
      ∃ old, dashboard.loads[other]? = some old ∧ found = (if index = other then change old else old) ∧
        found.Reached ∧ (∀ panel, (found.calls panel).aborted = (old.calls panel).aborted) ∧
        found.sequence = old.sequence := by
    rw [List.getElem?_modify] at there
    obtain ⟨old, kept, rfl⟩ := Option.map_eq_some_iff.mp there
    refine ⟨old, kept, rfl, ?_⟩
    split
    · rename_i same
      subst same
      cases held.symm.trans kept
      exact ⟨reached, aborted, sequence⟩
    · exact ⟨tracks.reached other old kept, fun _ => rfl, rfl⟩
  constructor
  · intro other found there
    obtain ⟨_, _, _, reached, _⟩ := either there
    exact reached
  · intro other found there panel
    obtain ⟨old, kept, _, _, same, _⟩ := either there
    rw [same panel, tracks.aborted other old kept panel, decide_eq_decide.mpr (live_iff other)]
  · intro other found there
    obtain ⟨old, kept, _, _, _, same⟩ := either there
    exact same ▸ tracks.below other old kept
  · intro other found there
    obtain ⟨old, kept, _, _, _, same⟩ := either there
    rw [live_iff, same]
    exact tracks.current other old kept
  · intro mounted
    obtain ⟨last, length, active⟩ := tracks.active mounted
    exact ⟨last, (List.length_modify ..).trans length, active⟩
  · intro other found there live resumed
    obtain ⟨old, kept, same, _⟩ := either there
    exact shown other old kept ((live_iff other).mp live) (same ▸ resumed)

/-- An event of one read. -/
theorem network_tracks (tracks : Tracks dashboard) {event : FetchJson.Event} {call : Call}
    (held : dashboard.loads[index]? = some load) (kind : event.isAbort = false)
    (moved : (load.calls panel).step event = some call) :
    Tracks { dashboard with
      loads := dashboard.loads.modify index fun held => held.setCall panel call } := by
  apply modify_tracks tracks held
  · exact setCall_reached (tracks.reached index load held)
      (reached_step (tracks.reached index load held panel) moved)
  · intro other
    by_cases same : other = panel
    · rw [same, setCall_self, call_aborted moved, kind, Bool.or_false]
    · rw [setCall_other load call same]
  · rfl
  · intro other old kept live resumed
    apply tracks.shown other old kept live
    split at resumed <;> exact resumed

theorem results_loaded (settled : load.allSettled = true) : loadingAny load.results = false := by
  apply List.any_eq_false.mpr
  intro panel member
  obtain ⟨outcome, result⟩ := Option.isSome_iff_exists.mp (List.all_eq_true.mp settled panel member)
  unfold Load.results
  rw [result]
  cases outcome <;> exact Bool.false_ne_true

/-- The continuation of a load. -/
theorem goOn_tracks (tracks : Tracks dashboard) (held : dashboard.loads[index]? = some load)
    (settled : load.allSettled = true) : Tracks (dashboard.goOn index load) := by
  unfold goOn
  dsimp only
  split
  · rename_i stale
    apply modify_tracks tracks held (tracks.reached index load held) (fun _ => rfl) rfl
    intro other old kept live resumed
    split at resumed
    · rename_i same
      subst same
      cases held.symm.trans kept
      exact absurd ((tracks.current index load held).mpr live) stale
    · exact tracks.shown other old kept live resumed
  · apply modify_tracks tracks held (tracks.reached index load held) (fun _ => rfl) rfl
    exact fun _ _ _ _ _ => results_loaded settled

/-- What one event preserves. -/
theorem step_tracks (tracks : Tracks dashboard) (moved : dashboard.step event = some next) :
    Tracks next := by
  unfold step at moved
  cases event with
  | mount =>
    dsimp only at moved
    split at moved
    · cases moved
    · cases moved
      exact load_tracks tracks rfl rfl rfl rfl
  | unmount =>
    dsimp only at moved
    split at moved
    · cases moved
      exact unmount_tracks tracks
    · cases moved
  | click =>
    dsimp only at moved
    split at moved
    · rename_i enabled
      cases moved
      exact load_tracks tracks rfl (Bool.and_eq_true_iff.mp enabled).1 rfl rfl
    · cases moved
  | render =>
    dsimp only at moved
    split at moved
    · cases moved
      exact ⟨tracks.reached, tracks.aborted, tracks.below, tracks.current, tracks.active,
        tracks.shown⟩
    · cases moved
  | network index panel event =>
    dsimp only at moved
    split at moved
    · rename_i load held
      split at moved
      · cases moved
      · rename_i kind
        obtain ⟨call, stepped, rfl⟩ := Option.map_eq_some_iff.mp moved
        exact network_tracks tracks held (Bool.eq_false_iff.mpr kind) stepped
    · cases moved
  | resume index =>
    dsimp only at moved
    split at moved
    · rename_i load held
      split at moved
      · rename_i ready
        cases moved
        exact goOn_tracks tracks held (Bool.and_eq_true_iff.mp ready).1
      · cases moved
    · cases moved

theorem run_append (dashboard : Dashboard) (events later : List Event) :
    run dashboard (events ++ later) = (run dashboard events).bind (run · later) := by
  simp [run, List.foldlM_append]

theorem run_singleton (dashboard : Dashboard) (event : Event) :
    run dashboard [event] = dashboard.step event := by
  simp [run]

/-- What a whole run preserves. -/
theorem run_tracks {events : List Event} (tracks : Tracks dashboard)
    (ran : run dashboard events = some next) : Tracks next := by
  induction events using List.reverseRecOn generalizing next with
  | nil =>
    cases ran
    exact tracks
  | append_singleton events event ih =>
    rw [run_append] at ran
    obtain ⟨before, earlier, moved⟩ := Option.bind_eq_some_iff.mp ran
    rw [run_singleton] at moved
    exact step_tracks (ih earlier) moved

theorem tracks_new : Tracks {} :=
  ⟨nofun, nofun, nofun, nofun, nofun, nofun⟩

end Live

/-! ### What is shown -/

section Shown
variable {dashboard next : Dashboard} {events : List Event} {event : Event} {index : Nat}
  {load : Load} {panels : Panel → Loadable}

/-- The panels show one load: all six of its settlements, of reads that nobody cancelled. It
was the newest load of a mounted dashboard when it went on, and no click came since. -/
def Delivered (events : List Event) (panels : Panel → Loadable) : Prop :=
  ∃ before later index load dashboard, events = before ++ .resume index :: later ∧
    run {} before = some dashboard ∧ Live dashboard index ∧ dashboard.loads[index]? = some load ∧
    (∀ panel, ∃ outcome, (load.calls panel).result = some outcome ∧
      outcome ≠ .error .cancelled ∧ panels panel = settled outcome) ∧
    .click ∉ later

theorem Delivered.append (delivered : Delivered events panels) (other : event ≠ .click) :
    Delivered (events ++ [event]) panels := by
  obtain ⟨before, later, index, load, dashboard, rfl, ran, live, held, results, quiet⟩ := delivered
  refine ⟨before, later ++ [event], index, load, dashboard, by simp, ran, live, held, results, ?_⟩
  intro clicked
  rcases List.mem_append.mp clicked with earlier | last
  · exact quiet earlier
  · exact other (List.mem_singleton.mp last).symm

/-- Nothing yet, or one load. -/
def Shows (events : List Event) (panels : Panel → Loadable) : Prop :=
  (∀ panel, panels panel = .loading) ∨ Delivered events panels

theorem Shows.append (shows : Shows events panels) (other : event ≠ .click) :
    Shows (events ++ [event]) panels :=
  shows.imp id fun delivered => delivered.append other

/-- Nobody cancelled a read whose signal is not aborted. -/
theorem not_cancelled {call : Call} {outcome : Outcome}
    (reached : ∃ events, FetchJson.run (FetchJson.start false) events = some call)
    (signal : call.aborted = false) (result : call.result = some outcome) :
    outcome ≠ .error .cancelled := by
  rintro rfl
  obtain ⟨events, ran⟩ := reached
  have told := (FetchJson.settles_of_run ran).told _ result
  obtain ⟨event, member, aborts⟩ := List.any_eq_true.mp (told.cancelled.mp rfl)
  rw [run_aborted ran] at signal
  exact List.any_eq_false.mp signal event ((List.takeWhile_sublist _).subset member) aborts

/-- The continuation of the live load. -/
theorem delivered_live (tracks : Tracks dashboard) (ran : run {} events = some dashboard)
    (held : dashboard.loads[index]? = some load) (settled : load.allSettled = true)
    (live : Live dashboard index) : Delivered (events ++ [.resume index]) load.results := by
  refine ⟨events, [], index, load, dashboard, rfl, ran, live, held, fun panel => ?_,
    List.not_mem_nil⟩
  obtain ⟨outcome, result⟩ :=
    Option.isSome_iff_exists.mp (List.all_eq_true.mp settled panel panel.mem_all)
  have signal : (load.calls panel).aborted = false := by
    rw [tracks.aborted index load held panel, decide_eq_true live]
    rfl
  refine ⟨outcome, result, not_cancelled (tracks.reached index load held panel) signal result, ?_⟩
  unfold Load.results
  rw [result]

/-- What the panels show after one more event. -/
theorem step_shows (tracks : Tracks dashboard) (ran : run {} events = some dashboard)
    (shows : Shows events dashboard.panels) (moved : dashboard.step event = some next) :
    Shows (events ++ [event]) next.panels := by
  unfold step at moved
  cases event with
  | click =>
    dsimp only at moved
    split at moved
    · cases moved
      exact .inl fun _ => rfl
    · cases moved
  | network index panel event =>
    dsimp only at moved
    split at moved
    · split at moved
      · cases moved
      · obtain ⟨call, _, rfl⟩ := Option.map_eq_some_iff.mp moved
        exact shows.append nofun
    · cases moved
  | resume index =>
    dsimp only at moved
    split at moved
    · rename_i load held
      split at moved
      · rename_i ready
        cases moved
        unfold goOn
        dsimp only
        split
        · exact shows.append nofun
        · rename_i same
          exact .inr (delivered_live tracks ran held (Bool.and_eq_true_iff.mp ready).1
            ((tracks.current index load held).mp (not_not.mp same)))
      · cases moved
    · cases moved
  | _ =>
    dsimp only at moved
    split at moved <;> cases moved
    exact shows.append nofun

theorem run_shows (ran : run {} events = some dashboard) : Shows events dashboard.panels := by
  induction events using List.reverseRecOn generalizing dashboard with
  | nil =>
    cases ran
    exact .inl fun _ => rfl
  | append_singleton events event ih =>
    rw [run_append] at ran
    obtain ⟨before, earlier, moved⟩ := Option.bind_eq_some_iff.mp ran
    rw [run_singleton] at moved
    exact step_shows (run_tracks tracks_new earlier) earlier (ih earlier) moved

@[simp] theorem goOn_view (dashboard : Dashboard) (index : Nat) (load : Load) :
    (dashboard.goOn index load).view = dashboard.view := by
  unfold goOn
  dsimp only
  split <;> rfl

@[simp] theorem goOn_mounted (dashboard : Dashboard) (index : Nat) (load : Load) :
    (dashboard.goOn index load).mounted = dashboard.mounted := by
  unfold goOn
  dsimp only
  split <;> rfl

/-- A render shows what the panels were, and nothing else changes what is shown. -/
theorem step_view (moved : dashboard.step event = some next) :
    next.view = dashboard.view ∨ next.view = dashboard.panels := by
  unfold step at moved
  cases event with
  | network index panel event =>
    dsimp only at moved
    split at moved
    · split at moved
      · cases moved
      · obtain ⟨call, _, rfl⟩ := Option.map_eq_some_iff.mp moved
        exact .inl rfl
    · cases moved
  | resume index =>
    dsimp only at moved
    split at moved
    · split at moved
      · cases moved
        exact .inl (goOn_view ..)
      · cases moved
    · cases moved
  | render =>
    dsimp only at moved
    split at moved <;> cases moved
    exact .inr rfl
  | _ =>
    dsimp only at moved
    split at moved <;> cases moved
    exact .inl rfl

theorem run_view (ran : run {} events = some dashboard) :
    ∃ before later, events = before ++ later ∧ Shows before dashboard.view := by
  induction events using List.reverseRecOn generalizing dashboard with
  | nil =>
    cases ran
    exact ⟨[], [], rfl, .inl fun _ => rfl⟩
  | append_singleton events event ih =>
    rw [run_append] at ran
    obtain ⟨before, earlier, moved⟩ := Option.bind_eq_some_iff.mp ran
    rw [run_singleton] at moved
    rcases step_view moved with same | rendered
    · obtain ⟨first, rest, rfl, shows⟩ := ih earlier
      exact ⟨first, rest ++ [event], List.append_assoc .., same ▸ shows⟩
    · exact ⟨events, [event], rfl, rendered ▸ run_shows earlier⟩

/-- What is left as it is until the next mount. -/
structure Rests (dashboard next : Dashboard) : Prop where
  mounted : next.mounted = false
  panels : next.panels = dashboard.panels
  view : next.view = dashboard.view

theorem step_rests (tracks : Tracks dashboard) (unmounted : dashboard.mounted = false)
    (other : event ≠ .mount) (moved : dashboard.step event = some next) :
    Rests dashboard next := by
  unfold step at moved
  rw [unmounted] at moved
  cases event with
  | mount => exact absurd rfl other
  | network index panel event =>
    dsimp only at moved
    split at moved
    · split at moved
      · cases moved
      · obtain ⟨call, _, rfl⟩ := Option.map_eq_some_iff.mp moved
        exact ⟨rfl, rfl, rfl⟩
    · cases moved
  | resume index =>
    dsimp only at moved
    split at moved
    · rename_i load held
      split at moved
      · cases moved
        have stale : load.sequence ≠ dashboard.requestSequence := fun same => by
          have live := ((tracks.current index load held).mp same).1
          rw [unmounted] at live
          cases live
        unfold goOn
        dsimp only
        rw [if_pos stale]
        exact ⟨unmounted, rfl, rfl⟩
      · cases moved
    · cases moved
  | _ => cases moved

theorem run_rests {later : List Event} (tracks : Tracks dashboard)
    (unmounted : dashboard.mounted = false) (away : .mount ∉ later)
    (ran : run dashboard later = some next) : Rests dashboard next := by
  induction later using List.reverseRecOn generalizing next with
  | nil =>
    cases ran
    exact ⟨unmounted, rfl, rfl⟩
  | append_singleton later event ih =>
    rw [run_append] at ran
    obtain ⟨before, earlier, moved⟩ := Option.bind_eq_some_iff.mp ran
    rw [run_singleton] at moved
    have rests := ih (fun member => away (List.mem_append_left _ member)) earlier
    have last := step_rests (run_tracks tracks earlier) rests.mounted
      (fun same => away (List.mem_append_right _ (List.mem_singleton.mpr same.symm))) moved
    exact ⟨last.mounted, last.panels.trans rests.panels, last.view.trans rests.view⟩

end Shown

/-! ### Deadlines -/

section Deadlines
variable {dashboard next : Dashboard} {index : Nat} {load : Load} {panel : Panel}

/-- The timers and the continuations, which wait for neither the network nor the user. -/
def Event.own : Event → Bool
  | .network _ _ .deadline | .network _ _ .resume | .resume _ => true
  | _ => false

/-- A load whose reads moved on, in a component that shows the same. -/
structure Advances (dashboard next : Dashboard) (index : Nat) (load after : Load) : Prop where
  panels : next.panels = dashboard.panels
  sequence : next.requestSequence = dashboard.requestSequence
  held : next.loads[index]? = some after
  same : after.sequence = load.sequence
  resumed : after.resumed = load.resumed

theorem Advances.trans {middle : Dashboard} {between after : Load}
    (first : Advances dashboard middle index load between)
    (second : Advances middle next index between after) :
    Advances dashboard next index load after :=
  ⟨second.panels.trans first.panels, second.sequence.trans first.sequence, second.held,
    second.same.trans first.same, second.resumed.trans first.resumed⟩

/-- One read moves on by its own events. -/
theorem run_network {events : List FetchJson.Event} {call : Call}
    (held : dashboard.loads[index]? = some load) (kind : events.any FetchJson.Event.isAbort = false)
    (ran : FetchJson.run (load.calls panel) events = some call) :
    ∃ next after, run dashboard (events.map (.network index panel)) = some next ∧
      Advances dashboard next index load after ∧ after.calls panel = call ∧
      ∀ other, other ≠ panel → after.calls other = load.calls other := by
  induction events generalizing dashboard load with
  | nil =>
    cases ran
    exact ⟨dashboard, load, rfl, ⟨rfl, rfl, held, rfl, rfl⟩, rfl, fun _ _ => rfl⟩
  | cons event events ih =>
    obtain ⟨moved, stepped, ran⟩ := Option.bind_eq_some_iff.mp ran
    rw [List.any_cons, Bool.or_eq_false_iff] at kind
    let changed : Dashboard := { dashboard with
      loads := dashboard.loads.modify index fun held => held.setCall panel moved }
    have step : dashboard.step (.network index panel event) = some changed := by
      unfold Dashboard.step
      dsimp only
      rw [held]
      dsimp only
      rw [kind.1, stepped]
      rfl
    have now : changed.loads[index]? = some (load.setCall panel moved) := by
      change (dashboard.loads.modify index _)[index]? = _
      rw [List.getElem?_modify_eq, held]
      rfl
    have first : Advances dashboard changed index load (load.setCall panel moved) :=
      ⟨rfl, rfl, now, rfl, rfl⟩
    obtain ⟨next, after, rest, advances, own, others⟩ := ih now kind.2
      (by rw [setCall_self]; exact ran)
    refine ⟨next, after, ?_, first.trans advances, own, fun other different => ?_⟩
    · rw [List.map_cons, ← List.singleton_append, run_append, run_singleton, step]
      exact rest
    · rw [others other different, setCall_other load moved different]

/-- One read of a load can settle by its deadline. -/
theorem read_settles (tracks : Tracks dashboard) (held : dashboard.loads[index]? = some load)
    (panel : Panel) : ∃ later next after, (∀ event ∈ later, event.own = true) ∧
      run dashboard later = some next ∧ Advances dashboard next index load after ∧
      (after.calls panel).result.isSome ∧
      ∀ other, (load.calls other).result.isSome → (after.calls other).result.isSome := by
  cases result : (load.calls panel).result with
  | some outcome =>
    refine ⟨[], dashboard, load, List.forall_mem_nil _, rfl, ⟨rfl, rfl, held, rfl, rfl⟩, ?_,
      fun _ settled => settled⟩
    rw [result]
    rfl
  | none =>
    obtain ⟨events, ran⟩ := tracks.reached index load held panel
    obtain ⟨own, shape, call, went, settled⟩ :=
      (FetchJson.settles_of_run ran).finishes result
    have kind : own.any FetchJson.Event.isAbort = false := by
      rcases shape with rfl | rfl <;> rfl
    obtain ⟨next, after, moved, advances, there, others⟩ := run_network held kind went
    refine ⟨_, next, after, ?_, moved, advances, there ▸ settled, fun other was => ?_⟩
    · rcases shape with rfl | rfl <;> simp [Event.own]
    · by_cases same : other = panel
      · rw [same, there]
        exact settled
      · rw [others other same]
        exact was

theorem reads_settle (tracks : Tracks dashboard) (held : dashboard.loads[index]? = some load)
    (panels : List Panel) : ∃ later next after, (∀ event ∈ later, event.own = true) ∧
      run dashboard later = some next ∧ Advances dashboard next index load after ∧
      ∀ panel, panel ∈ panels ∨ (load.calls panel).result.isSome →
        (after.calls panel).result.isSome := by
  induction panels generalizing dashboard load with
  | nil =>
    refine ⟨[], dashboard, load, List.forall_mem_nil _, rfl, ⟨rfl, rfl, held, rfl, rfl⟩, ?_⟩
    rintro panel (member | settled)
    · cases member
    · exact settled
  | cons first rest ih =>
    obtain ⟨events, middle, between, own, moved, advances, settled, kept⟩ :=
      read_settles tracks held first
    obtain ⟨later, next, after, alone, ran, onwards, all⟩ :=
      ih (run_tracks tracks moved) advances.held
    refine ⟨events ++ later, next, after, List.forall_mem_append.mpr ⟨own, alone⟩, ?_,
      advances.trans onwards, ?_⟩
    · rw [run_append, moved]
      exact ran
    · rintro panel (member | already)
      · rcases List.mem_cons.mp member with rfl | other
        · exact all panel (.inr settled)
        · exact all panel (.inl other)
      · exact all panel (.inr (kept panel already))

/-- While a mounted dashboard loads, its deadlines and its own continuations end that. -/
theorem loading_ends (tracks : Tracks dashboard) (mounted : dashboard.mounted = true)
    (loading : loadingAny dashboard.panels = true) : ∃ later next,
      (∀ event ∈ later, event.own = true) ∧ run dashboard later = some next ∧
      loadingAny next.panels = false := by
  obtain ⟨index, length, _⟩ := tracks.active mounted
  have inside : index < dashboard.loads.length := by omega
  have held : dashboard.loads[index]? = some dashboard.loads[index] :=
    List.getElem?_eq_getElem inside
  have live : Live dashboard index := ⟨mounted, length.symm⟩
  have waits : dashboard.loads[index].resumed = false := by
    apply Bool.eq_false_iff.mpr
    intro resumed
    rw [tracks.shown index _ held live resumed] at loading
    cases loading
  obtain ⟨later, settled, after, own, ran, advances, all⟩ := reads_settle tracks held Panel.all
  have ready : after.allSettled = true :=
    List.all_eq_true.mpr fun panel _ => all panel (.inl panel.mem_all)
  have current : after.sequence = settled.requestSequence := by
    rw [advances.same, advances.sequence]
    exact (tracks.current index _ held).mpr live
  refine ⟨later ++ [.resume index], settled.goOn index after, ?_, ?_, ?_⟩
  · exact List.forall_mem_append.mpr ⟨own, List.forall_mem_singleton.mpr rfl⟩
  · rw [run_append, ran]
    refine (run_singleton settled (.resume index)).trans ?_
    unfold step
    dsimp only
    rw [advances.held]
    dsimp only
    rw [if_pos (by rw [ready, advances.resumed, waits]; rfl)]
  · unfold goOn
    dsimp only
    rw [if_neg (not_not.mpr current)]
    exact results_loaded ready

/-- What holds of the dashboard after some events. -/
structure Consistent (events : List Event) (dashboard : Dashboard) : Prop where
  panels : Shows events dashboard.panels
  view : ∃ before later, events = before ++ later ∧ Shows before dashboard.view
  signals : ∀ (index : Nat) (load : Load), dashboard.loads[index]? = some load → ∀ panel,
    (load.calls panel).aborted = !decide (Live dashboard index)
  finishes : dashboard.mounted = true → loadingAny dashboard.panels = true → ∃ later next,
    (∀ event ∈ later, event.own = true) ∧ run dashboard later = some next ∧
      loadingAny next.panels = false
  rests : dashboard.mounted = false → ∀ later next, .mount ∉ later →
    run dashboard later = some next → Rests dashboard next

/-- Whatever the order of mounts, clicks, renders, answers, timers and continuations, the
panels and the last render show nothing or one whole load: the newest of a mounted dashboard
when it went on, with reads that nobody cancelled. Every other load is aborted; loading ends by
the deadlines at the latest; and an unmounted dashboard stays as it is. -/
theorem dashboard_shows_one_load (events : List Event) (dashboard : Dashboard)
    (ran : run {} events = some dashboard) : Consistent events dashboard := by
  have tracks := run_tracks tracks_new ran
  exact ⟨run_shows ran, run_view ran, tracks.aborted, loading_ends tracks,
    fun unmounted _ _ away later => run_rests tracks unmounted away later⟩

/-- A read of the second load is answered. -/
def answers (panel : Panel) : List Event :=
  [.network 1 panel (.answer 200), .network 1 panel (.read (some .null)),
    .network 1 panel .resume]

/-- The effect runs twice, as in development, and the first load fails late. The second one has
five answers and a timeout; it is rendered, and the button is clicked. -/
def strictMount : List Event :=
  [.mount, .unmount, .mount, .render, .network 0 .health (.reject "AbortError"),
    .network 0 .health .resume, .network 1 .failures .deadline, .network 1 .failures .resume] ++
  (answers .health ++ answers .summary ++ answers .providers ++ answers .decisions ++
    answers .providerHealth) ++ [.resume 1, .render, .click]

private theorem strictMount_runs : ∃ dashboard, run {} strictMount = some dashboard ∧
    loadingAny dashboard.view = false ∧ loadingAny dashboard.panels = true ∧
    dashboard.loads.length = 3 := ⟨_, rfl, rfl, rfl, rfl⟩

/-- The click leaves the load in the render and begins a third one. -/
theorem strict_mount_consistent :
    ∃ dashboard before later, run {} strictMount = some dashboard ∧
      Consistent strictMount dashboard ∧ dashboard.loads.length = 3 ∧
      strictMount = before ++ later ∧ Delivered before dashboard.view := by
  obtain ⟨dashboard, ran, shown, _, loads⟩ := strictMount_runs
  have consistent := dashboard_shows_one_load strictMount dashboard ran
  obtain ⟨before, later, split, nothing | delivered⟩ := consistent.view
  · rw [loadingAny, Panel.all, List.any_cons, nothing] at shown
    cases shown
  · exact ⟨dashboard, before, later, ran, consistent, loads, split, delivered⟩

end Deadlines

end Dashboard
end ModelPilot
