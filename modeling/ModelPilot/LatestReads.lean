import Mathlib.Data.List.Induction
import ModelPilot.LatestRequest

/-! Only the latest read is shown: which ticket of a slot is current, and what a hook that
reads through the slot displays. -/
namespace ModelPilot

namespace LatestRequest
variable {slot : LatestRequest} {calls : List Call} {ticket : Nat}

section Calls

theorem after_append (calls : List Call) (last : Call) :
    after (calls ++ [last]) = (after calls).call last := by
  simp [after, List.foldl_append]

/-- A slot after some calls: the number of its controllers, which of them it holds, and
that it has aborted the others. -/
structure Tracks (slot : LatestRequest) (calls : List Call) : Prop where
  created : slot.created = calls.count .begin
  newest : ∀ ticket, slot.controller = some ticket → ticket + 1 = slot.created
  aborted : ∀ ticket, ticket ∈ slot.aborted ↔
    ticket < slot.created ∧ slot.controller ≠ some ticket

theorem cancel_controller (slot : LatestRequest) : slot.cancel.controller = none := by
  unfold cancel
  cases held : slot.controller with
  | none => exact held
  | some controller => rfl

theorem cancel_created (slot : LatestRequest) : slot.cancel.created = slot.created := by
  unfold cancel
  cases slot.controller <;> rfl

theorem mem_cancel_aborted : ticket ∈ slot.cancel.aborted ↔
    slot.controller = some ticket ∨ ticket ∈ slot.aborted := by
  unfold cancel
  cases slot.controller with
  | none => simp
  | some controller => simp [eq_comm]

theorem Tracks.cancel (tracks : Tracks slot calls) : Tracks slot.cancel (calls ++ [.cancel]) where
  created := by
    rw [cancel_created, tracks.created]
    simp
  newest := by simp [cancel_controller]
  aborted := by
    intro ticket
    rw [mem_cancel_aborted, tracks.aborted, cancel_created, cancel_controller]
    have newest := tracks.newest ticket
    constructor
    · rintro (held | ⟨older, _⟩)
      · have last := newest held
        exact ⟨by omega, by simp⟩
      · exact ⟨older, by simp⟩
    · rintro ⟨older, _⟩
      by_cases held : slot.controller = some ticket
      · exact .inl held
      · exact .inr ⟨older, held⟩

theorem Tracks.begin (tracks : Tracks slot calls) : Tracks slot.begin.1 (calls ++ [.begin]) where
  created := by
    change slot.cancel.created + 1 = _
    rw [cancel_created, tracks.created]
    simp
  newest := by
    rintro ticket ⟨⟩
    rfl
  aborted := by
    intro ticket
    change ticket ∈ slot.cancel.aborted ↔
      ticket < slot.cancel.created + 1 ∧ some slot.cancel.created ≠ some ticket
    have cancelled := tracks.cancel.aborted ticket
    rw [cancelled, cancel_controller]
    simp only [ne_eq, reduceCtorEq, not_false_eq_true, and_true, Option.some.injEq]
    omega

theorem tracks_after (calls : List Call) : Tracks (after calls) calls := by
  induction calls using List.reverseRecOn with
  | nil => exact ⟨rfl, by simp [after], by simp [after]⟩
  | append_singleton calls last ih =>
    rw [after_append]
    cases last with
    | begin => exact ih.begin
    | cancel => exact ih.cancel

/-- The ticket a call of `begin` returns. -/
theorem begin_ticket (calls : List Call) : (after calls).begin.2 = calls.count .begin := by
  change (after calls).cancel.created = _
  rw [cancel_created, (tracks_after calls).created]

theorem isCurrent_iff : (after calls).isCurrent ticket = true ↔
    (after calls).controller = some ticket := by
  have aborted := (tracks_after calls).aborted ticket
  simp only [isCurrent, isAborted, Bool.and_eq_true, decide_eq_true_eq, Bool.not_eq_true',
    decide_eq_false_iff_not]
  rw [aborted]
  constructor
  · exact fun held => held.1
  · exact fun held => ⟨held, fun older => older.2 held⟩

/-- A ticket is current right after the `begin` that returned it. -/
theorem current_iff_last : (after calls).isCurrent ticket = true ↔
    ∃ before, calls = before ++ [.begin] ∧ before.count .begin = ticket := by
  rw [isCurrent_iff]
  induction calls using List.reverseRecOn with
  | nil => simp [after]
  | append_singleton calls last ih =>
    rw [after_append]
    cases last with
    | begin =>
      change some (after calls).begin.2 = some ticket ↔ _
      rw [begin_ticket, Option.some.injEq]
      constructor
      · exact fun same => ⟨calls, rfl, same⟩
      · rintro ⟨before, same, rfl⟩
        rw [List.append_inj_left' same rfl]
    | cancel =>
      change (after calls).cancel.controller = some ticket ↔ _
      rw [cancel_controller]
      apply iff_of_false (by simp)
      rintro ⟨before, same, _⟩
      cases List.append_inj_right' same rfl

theorem aborted_call (last : Call) (aborted : ticket ∈ slot.aborted) :
    ticket ∈ (slot.call last).aborted := by
  cases last with
  | begin => exact mem_cancel_aborted.mpr (.inr aborted)
  | cancel => exact mem_cancel_aborted.mpr (.inr aborted)

theorem aborted_later (later : List Call) (aborted : ticket ∈ (after calls).aborted) :
    ticket ∈ (after (calls ++ later)).aborted := by
  induction later using List.reverseRecOn with
  | nil => rwa [List.append_nil]
  | append_singleton later last ih =>
    rw [← List.append_assoc, after_append]
    exact aborted_call last ih

theorem not_current_of_aborted (aborted : ticket ∈ slot.aborted) :
    slot.isCurrent ticket = false := by
  simp [isCurrent, isAborted, aborted]

/-- An issued ticket that is not current has been aborted. -/
theorem aborted_of_stale (issued : ticket < calls.count .begin)
    (stale : (after calls).isCurrent ticket = false) : ticket ∈ (after calls).aborted := by
  have tracks := tracks_after calls
  rw [tracks.aborted, tracks.created]
  refine ⟨issued, fun held => ?_⟩
  rw [isCurrent_iff.mpr held] at stale
  cases stale

end Calls

end LatestRequest
namespace UseRead
open LatestRequest (after)

variable {κ ι δ ε : Type} [DecidableEq κ] [DecidableEq ι] {hook next : UseRead κ ι δ ε}
  {events : List (Event κ ι δ ε)} {event : Event κ ι δ ε} {key : κ} {shown : ReadState δ ε}
  {ticket : Nat}

section Hook

theorem run_append (events : List (Event κ ι δ ε)) (event : Event κ ι δ ε) :
    run (events ++ [event]) = (run events).bind (step · event) := by
  simp [run, List.foldlM_append]

/-- The settlement of a load for a key that was current when it settled, while the key
was that of the effect. -/
def Delivered (events : List (Event κ ι δ ε)) (key : κ) (shown : ReadState δ ε) : Prop :=
  ∃ before ticket settlement later hook, events = before ++ .settle ticket settlement :: later ∧
    run before = some hook ∧ hook.latest.isCurrent ticket = true ∧
    hook.loads[ticket]? = some ⟨key, false⟩ ∧ hook.effect.map Prod.fst = some (some key) ∧
    shown = .ofSettlement settlement

theorem Delivered.append (delivered : Delivered events key shown) (event : Event κ ι δ ε) :
    Delivered (events ++ [event]) key shown := by
  obtain ⟨before, ticket, settlement, later, hook, rfl, rest⟩ := delivered
  exact ⟨before, ticket, settlement, later ++ [event], hook, by simp, rest⟩

/-- What may be displayed for a key. -/
def Displays (events : List (Event κ ι δ ε)) (shown : ReadState δ ε) : Option κ → Prop
  | none => shown = .idle
  | some key => shown = .loading ∨ Delivered events key shown

theorem Displays.append {key : Option κ} (displays : Displays events shown key)
    (event : Event κ ι δ ε) : Displays (events ++ [event]) shown key := by
  cases key with
  | none => exact displays
  | some key => exact displays.imp id fun delivered => delivered.append event

/-- A hook after some events. Its slot has begun one request for each load, and only the
load of the effect's own key is current. -/
structure Tracks (hook : UseRead κ ι δ ε) (events : List (Event κ ι δ ε)) : Prop where
  slot : ∃ calls, hook.latest = after calls ∧
    calls.count .begin = (hook.loads.map (·.key)).length
  current : ∀ ticket, hook.latest.isCurrent ticket = true → ∃ key,
    hook.effect.map Prod.fst = some (some key) ∧ (hook.loads.map (·.key))[ticket]? = some key
  result : ∀ key shown, hook.result = some (key, shown) → Delivered events key shown
  displayed : ∀ key shown, hook.displayed = some (key, shown) → Displays events shown key

theorem displays_readState (tracks : Tracks hook events) (key : Option κ) :
    Displays events (readState key hook.result) key := by
  cases key with
  | none => rfl
  | some key =>
    unfold readState
    cases held : hook.result with
    | none => exact .inl rfl
    | some pair =>
      obtain ⟨owner, state⟩ := pair
      dsimp only
      split
      · rename_i same
        subst same
        exact .inr (tracks.result owner state held)
      · exact .inl rfl

/-- Events that leave the slot, the keys of the loads and the result as they are. -/
theorem Tracks.frame (tracks : Tracks hook events) (event : Event κ ι δ ε)
    (latest : next.latest = hook.latest)
    (loads : next.loads.map (·.key) = hook.loads.map (·.key))
    (effect : next.effect = hook.effect) (result : next.result = hook.result)
    (displayed : ∀ key shown, next.displayed = some (key, shown) → Displays events shown key) :
    Tracks next (events ++ [event]) where
  slot := by
    rw [latest, loads]
    exact tracks.slot
  current := by
    rw [latest, loads, effect]
    exact tracks.current
  result := by
    rw [result]
    exact fun key shown held => (tracks.result key shown held).append event
  displayed := fun key shown held => (displayed key shown held).append event

/-- Without a current ticket an effect can end, and another begin. -/
theorem cleanup_latest (tracks : Tracks hook events) :
    (∃ calls, hook.cleanup.latest = after calls ∧
      calls.count .begin = (hook.loads.map (·.key)).length) ∧
      ∀ ticket, hook.cleanup.latest.isCurrent ticket = false := by
  obtain ⟨calls, same, counted⟩ := tracks.slot
  unfold cleanup
  split
  · dsimp only
    have cancelled : hook.latest.cancel = after (calls ++ [.cancel]) := by
      rw [same, LatestRequest.after_append]
      rfl
    refine ⟨⟨_, cancelled, by simpa using counted⟩, fun ticket => ?_⟩
    unfold LatestRequest.isCurrent
    rw [LatestRequest.cancel_controller]
    rfl
  · rename_i other
    refine ⟨⟨calls, same, counted⟩, fun ticket => ?_⟩
    cases current : hook.latest.isCurrent ticket with
    | false => rfl
    | true =>
      obtain ⟨key, owned, _⟩ := tracks.current ticket current
      obtain ⟨⟨held, load⟩, effect, kept⟩ := Option.map_eq_some_iff.mp owned
      cases kept
      exact absurd effect (other key load)

omit [DecidableEq κ] [DecidableEq ι] in
theorem cleanup_frame (hook : UseRead κ ι δ ε) : hook.cleanup.loads = hook.loads ∧
    hook.cleanup.result = hook.result ∧ hook.cleanup.displayed = hook.displayed := by
  unfold cleanup
  split <;> exact ⟨rfl, rfl, rfl⟩

/-- The effect begins without a current ticket. -/
theorem runEffect_tracks (tracks : Tracks hook events) (key : Option κ) (load : ι) :
    Tracks (hook.cleanup.runEffect key load) (events ++ [.effects]) := by
  obtain ⟨⟨calls, same, counted⟩, idle⟩ := cleanup_latest tracks
  obtain ⟨loads, result, displayed⟩ := cleanup_frame hook
  have results : ∀ key shown, hook.cleanup.result = some (key, shown) →
      Delivered (events ++ [.effects]) key shown := by
    rw [result]
    exact fun key shown held => (tracks.result key shown held).append _
  have display : ∀ key shown, hook.cleanup.displayed = some (key, shown) →
      Displays (events ++ [.effects]) shown key := by
    rw [displayed]
    exact fun key shown held => (tracks.displayed key shown held).append _
  cases key with
  | none =>
    refine ⟨⟨calls, same, ?_⟩, fun ticket current => ?_, results, display⟩
    · change _ = (hook.cleanup.loads.map (·.key)).length
      rw [loads, counted]
    · have unowned : hook.cleanup.latest.isCurrent ticket = true := current
      rw [idle ticket] at unowned
      cases unowned
  | some key =>
    have begun : hook.cleanup.latest.begin.1 = after (calls ++ [.begin]) := by
      rw [same, LatestRequest.after_append]
      rfl
    refine ⟨⟨_, begun, ?_⟩, fun ticket current => ⟨key, rfl, ?_⟩, results, display⟩
    · change _ = ((hook.cleanup.loads ++ [Load.mk key false]).map (·.key)).length
      rw [loads, List.map_append, List.length_append, ← counted]
      simp
    · change ((hook.cleanup.loads ++ [Load.mk key false]).map (·.key))[ticket]? = some key
      have owned : (after (calls ++ [.begin])).isCurrent ticket = true := by
        rw [← begun]
        exact current
      obtain ⟨before, last, counted_⟩ := LatestRequest.current_iff_last.mp owned
      rw [← List.append_inj_left' last rfl, counted] at counted_
      rw [loads, List.map_append, List.map_singleton, ← counted_, List.getElem?_concat_length]

/-- A callback sets the result of a current load, and of no other. -/
theorem deliver_tracks (tracks : Tracks hook events) (ran : run events = some hook)
    (started : hook.loads[ticket]? = some ⟨key, false⟩) (settlement : Except ε δ) :
    Tracks (hook.deliver ticket key settlement) (events ++ [.settle ticket settlement]) := by
  have keys : (hook.loads.set ticket ⟨key, true⟩).map (·.key) = hook.loads.map (·.key) := by
    rw [List.map_set]
    refine List.ext_getElem? fun index => ?_
    rw [List.getElem?_set, List.getElem?_map]
    split
    · rename_i place
      subst place
      rw [started]
      simp [(List.getElem?_eq_some_iff.mp started).1]
    · rfl
  have settled : Tracks { hook with loads := hook.loads.set ticket ⟨key, true⟩ }
      (events ++ [.settle ticket settlement]) :=
    tracks.frame _ rfl keys rfl rfl tracks.displayed
  unfold deliver
  dsimp only
  split
  · rename_i current
    refine ⟨settled.slot, settled.current, ?_, settled.displayed⟩
    rintro _ _ ⟨⟩
    obtain ⟨owner, effect, listed⟩ := tracks.current ticket current
    rw [List.getElem?_map, started] at listed
    cases listed
    exact ⟨events, ticket, settlement, [], hook, rfl, ran, current, started, effect, rfl⟩
  · exact settled

/-- What one event preserves. -/
theorem step_tracks (tracks : Tracks hook events) (ran : run events = some hook)
    (moved : hook.step event = some next) : Tracks next (events ++ [event]) := by
  cases event with
  | render key load =>
    cases moved
    refine tracks.frame _ rfl rfl rfl rfl ?_
    rintro _ _ ⟨⟩
    exact displays_readState tracks key
  | effects =>
    unfold step at moved
    dsimp only at moved
    split at moved
    · cases moved
    · rename_i key load _
      split at moved
      · cases moved
        exact tracks.frame _ rfl rfl rfl rfl tracks.displayed
      · cases moved
        exact runEffect_tracks tracks key load
  | settle ticket settlement =>
    unfold step at moved
    dsimp only at moved
    split at moved
    · rename_i key started
      cases moved
      exact deliver_tracks tracks ran started settlement
    · cases moved
  | unmount =>
    cases moved
    obtain ⟨slot, idle⟩ := cleanup_latest tracks
    obtain ⟨loads, result, displayed⟩ := cleanup_frame hook
    refine ⟨by rw [loads]; exact slot, fun ticket current => ?_, ?_, ?_⟩
    · rw [idle ticket] at current
      cases current
    · rw [result]
      exact fun key shown held => (tracks.result key shown held).append _
    · rw [displayed]
      exact fun key shown held => (tracks.displayed key shown held).append _

theorem run_tracks (ran : run events = some hook) : Tracks hook events := by
  induction events using List.reverseRecOn generalizing hook with
  | nil =>
    cases ran
    exact ⟨⟨[], rfl, rfl⟩, by simp [LatestRequest.isCurrent], by simp, by simp⟩
  | append_singleton events event ih =>
    rw [run_append] at ran
    obtain ⟨before, earlier, moved⟩ := Option.bind_eq_some_iff.mp ran
    exact step_tracks (ih earlier) earlier moved

/-- Only the latest read is shown. After any calls on a slot at most one ticket is
current: the last one begun, when no cancel came after it. A ticket that is not current
is aborted, and stays so. After any events the hook displays nothing but `idle` without
a key, and with one `loading` or the settlement of a load for that key that was current
when it settled. -/
theorem latest_read_is_shown :
    (∀ calls : List LatestRequest.Call,
      (after calls).begin.2 = calls.count .begin ∧
      (∀ first second, (after calls).isCurrent first = true →
        (after calls).isCurrent second = true → first = second) ∧
      (∀ ticket, (after calls).isCurrent ticket = true ↔
        ∃ before later, calls = before ++ .begin :: later ∧ before.count .begin = ticket ∧
          .begin ∉ later ∧ .cancel ∉ later) ∧
      ∀ ticket < calls.count .begin, (after calls).isCurrent ticket = false → ∀ later,
        (after (calls ++ later)).isCurrent ticket = false ∧
          (after (calls ++ later)).isAborted ticket = true) ∧
    ∀ (events : List (Event κ ι δ ε)) (hook : UseRead κ ι δ ε), run events = some hook →
      (∃ calls, hook.latest = after calls) ∧
      ∀ key shown, hook.displayed = some (key, shown) → Displays events shown key := by
  refine ⟨fun calls => ⟨LatestRequest.begin_ticket calls, ?_, ?_, ?_⟩, fun events hook ran => ?_⟩
  · intro first second current also
    rw [LatestRequest.isCurrent_iff] at current also
    exact Option.some.inj (current.symm.trans also)
  · intro ticket
    rw [LatestRequest.current_iff_last]
    constructor
    · rintro ⟨before, rfl, counted⟩
      exact ⟨before, [], rfl, counted, by simp, by simp⟩
    · rintro ⟨before, later, rfl, counted, last, kept⟩
      cases later with
      | nil => exact ⟨before, rfl, counted⟩
      | cons call rest =>
        cases call with
        | begin => exact absurd List.mem_cons_self last
        | cancel => exact absurd List.mem_cons_self kept
  · intro ticket issued stale later
    have aborted :=
      LatestRequest.aborted_later later (LatestRequest.aborted_of_stale issued stale)
    exact ⟨LatestRequest.not_current_of_aborted aborted, by
      simpa [LatestRequest.isAborted] using aborted⟩
  · have tracks := run_tracks ran
    obtain ⟨calls, same, _⟩ := tracks.slot
    exact ⟨⟨calls, same⟩, tracks.displayed⟩

/-- The key changes before the first load settles, and back again. -/
def switchedKeys : List (Event String Unit String String) :=
  [.render (some "a") (), .effects, .render (some "b") (), .effects, .settle 0 (.ok "old"),
    .render (some "a") (), .effects, .settle 2 (.ok "new"), .settle 1 (.error "late"),
    .render (some "a") ()]

private theorem switchedKeys_display :
    (run switchedKeys).map (·.displayed) = some (some (some "a", .success "new")) := by
  decide +kernel

/-- The load begun last is shown, and a ticket that was cancelled is aborted. -/
theorem second_load_shown :
    (∃ hook, run switchedKeys = some hook ∧ (∃ calls, hook.latest = after calls) ∧
      hook.displayed = some (some "a", .success "new") ∧
      Displays switchedKeys (.success "new") (some "a")) ∧
    (after [.begin, .cancel]).isAborted 0 = true := by
  obtain ⟨slots, hooks⟩ := @latest_read_is_shown String Unit String String _ _
  obtain ⟨hook, ran, display⟩ := Option.map_eq_some_iff.mp switchedKeys_display
  obtain ⟨slot, displays⟩ := hooks switchedKeys hook ran
  exact ⟨⟨hook, ran, slot, display, displays _ _ display⟩,
    ((slots [.begin, .cancel]).2.2.2 0 (by decide) rfl []).2⟩

end Hook

end UseRead
end ModelPilot
