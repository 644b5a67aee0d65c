import Mathlib.Data.List.Basic
import Mathlib.Data.List.Infix
import Mathlib.Order.Basic

/-! Two logs grow with one course of events and are read one after the other. The
two readings belong to one moment of that course exactly when no event of the second
log follows one of the first between them. -/
namespace ModelPilot.Interleavings

variable {α : Type*} {first second : α → Bool} {before between after events : List α}

/-- A list of events splits into one without events of the first log and one without
events of the second. -/
theorem exists_split_iff (apart : ∀ event, first event = true → second event = false) :
    (∃ early late, events = early ++ late ∧ (∀ event ∈ early, first event = false) ∧
      ∀ event ∈ late, second event = false) ↔
    events.Pairwise fun earlier later => ¬ (first earlier = true ∧ second later = true) := by
  constructor
  · rintro ⟨early, late, rfl, without, also⟩
    rw [List.pairwise_append]
    refine ⟨.imp_of_mem (fun member _ _ held => ?_) (List.pairwise_of_forall fun _ _ => trivial),
      .imp_of_mem (fun _ member _ held => ?_) (List.pairwise_of_forall fun _ _ => trivial),
      fun event member _ _ held => ?_⟩
    · exact Bool.false_ne_true ((without _ member).symm.trans held.1)
    · exact Bool.false_ne_true ((also _ member).symm.trans held.2)
    · exact Bool.false_ne_true ((without _ member).symm.trans held.1)
  · intro ordered
    induction events with
    | nil => exact ⟨[], [], rfl, by simp, by simp⟩
    | cons event rest ih =>
      obtain ⟨head, tail⟩ := List.pairwise_cons.mp ordered
      cases opens : first event with
      | true =>
        refine ⟨[], event :: rest, rfl, by simp, fun later member => ?_⟩
        rcases List.mem_cons.mp member with rfl | inside
        · exact apart _ opens
        · exact Bool.eq_false_iff.mpr fun held => head later inside ⟨opens, held⟩
      | false =>
        obtain ⟨early, late, same, without, also⟩ := ih tail
        refine ⟨event :: early, late, by rw [same, List.cons_append], ?_, also⟩
        intro other member
        rcases List.mem_cons.mp member with rfl | inside
        · exact opens
        · exact without other inside

/-- The moments of a course, by where they lie relative to the two readings. -/
theorem moment_cases {moment : List α} (part : moment <+: before ++ between ++ after) :
    moment <+: before ∨
    (∃ early late, between = early ++ late ∧ moment = before ++ early) ∨
    ∃ past, moment = before ++ between ++ past := by
  obtain ⟨rest, same⟩ := part
  rw [List.append_assoc] at same
  rcases List.append_eq_append_iff.mp same with ⟨more, start, _⟩ | ⟨more, rfl, tail⟩
  · exact .inl ⟨more, start.symm⟩
  · rcases List.append_eq_append_iff.mp tail with ⟨past, rfl, _⟩ | ⟨late, split, _⟩
    · exact .inr (.inr ⟨past, by rw [List.append_assoc]⟩)
    · exact .inr (.inl ⟨more, late, split, rfl⟩)

theorem exists_moment_iff (before between after : List α)
    (apart : ∀ event, first event = true → second event = false) :
    (∃ moment, moment <+: before ++ between ++ after ∧
      moment.countP first = before.countP first ∧
      moment.countP second = (before ++ between).countP second) ↔
    between.Pairwise fun earlier later => ¬ (first earlier = true ∧ second later = true) := by
  rw [← exists_split_iff apart]
  have none {log : α → Bool} {items : List α} (count : items.countP log = 0) :
      ∀ event ∈ items, log event = false := fun event member =>
    Bool.eq_false_iff.mpr (List.countP_eq_zero.mp count event member)
  constructor
  · rintro ⟨moment, part, seen, counted⟩
    rcases moment_cases part with start | ⟨early, late, rfl, rfl⟩ | ⟨past, rfl⟩
    · -- a moment before the first reading has seen every event of the second log
      have fewer := start.sublist.countP_le (p := second)
      rw [counted, List.countP_append] at fewer
      exact ⟨[], between, rfl, by simp, none (by omega)⟩
    · simp only [List.countP_append] at seen counted
      exact ⟨early, late, rfl, none (by omega), none (by omega)⟩
    · simp only [List.countP_append] at seen
      exact ⟨between, [], by simp, none (by omega), by simp⟩
  · rintro ⟨early, late, rfl, without, also⟩
    have unseen : early.countP first = 0 := List.countP_eq_zero.mpr fun event member held =>
      Bool.false_ne_true ((without event member).symm.trans held)
    have done : late.countP second = 0 := List.countP_eq_zero.mpr fun event member held =>
      Bool.false_ne_true ((also event member).symm.trans held)
    refine ⟨before ++ early, ⟨late ++ after, by simp⟩, ?_, ?_⟩
    · rw [List.countP_append, unseen, Nat.add_zero]
    · simp only [List.countP_append, done, Nat.add_zero]

/-- A fold none of whose items moves the beginning ends there. -/
theorem foldlM_stays {β ε : Type*} {step : β → α → Except ε β} {items : List α} {start : β}
    (still : ∀ item ∈ items, step start item = .ok start) :
    items.foldlM step start = .ok start := by
  induction items with
  | nil => rfl
  | cons item rest ih =>
    obtain ⟨head, tail⟩ := List.forall_mem_cons.mp still
    rw [List.foldlM_cons, head]
    exact ih tail

section Rising

variable {β ε : Type*} [PartialOrder β] {step : β → α → Except ε β} {good : β → Prop}
  {items : List α} {start last : β}

theorem le_foldlM
    (rises : ∀ item ∈ items, ∀ value next, good value → step value item = .ok next →
      value ≤ next ∧ good next) (begins : good start) (done : items.foldlM step start = .ok last) :
    start ≤ last := by
  induction items generalizing start with
  | nil =>
    cases done
    exact le_refl _
  | cons item rest ih =>
    rw [List.foldlM_cons] at done
    cases moved : step start item with
    | error error =>
      rw [moved] at done
      cases done
    | ok next =>
      rw [moved] at done
      obtain ⟨higher, kept⟩ := rises item List.mem_cons_self start next begins moved
      exact higher.trans (ih (fun other member => rises other (List.mem_cons_of_mem _ member))
        kept done)

/-- A fold whose steps never lower what they are given ends where it began only when
no item moves the beginning. -/
theorem stays_of_foldlM
    (rises : ∀ item ∈ items, ∀ value next, good value → step value item = .ok next →
      value ≤ next ∧ good next) (begins : good start) (done : items.foldlM step start = .ok start) :
    ∀ item ∈ items, step start item = .ok start := by
  induction items with
  | nil => simp
  | cons item rest ih =>
    have later : ∀ other ∈ rest, ∀ value next, good value → step value other = .ok next →
        value ≤ next ∧ good next :=
      fun other member => rises other (List.mem_cons_of_mem _ member)
    rw [List.foldlM_cons] at done
    cases moved : step start item with
    | error error =>
      rw [moved] at done
      cases done
    | ok next =>
      rw [moved] at done
      obtain ⟨higher, kept⟩ := rises item List.mem_cons_self start next begins moved
      have same : next = start := le_antisymm (le_foldlM later kept done) higher
      subst same
      rw [List.forall_mem_cons]
      exact ⟨moved, ih later done⟩

end Rising
end ModelPilot.Interleavings
