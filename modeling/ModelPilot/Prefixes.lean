import Mathlib.Data.List.Basic

/-! The part of a list that a scan reads: everything up to the first item that
stops it, that item included. -/
namespace ModelPilot.Prefixes

def upTo (stops : α → Bool) : List α → List α
  | [] => []
  | item :: rest => if stops item then [item] else item :: upTo stops rest

variable {α : Type*} {stops halts : α → Bool} {items : List α} {item : α}

theorem upTo_sublist : (upTo stops items).Sublist items := by
  induction items with
  | nil => exact .slnil
  | cons head rest ih =>
    unfold upTo
    split
    · exact List.singleton_sublist.mpr List.mem_cons_self
    · exact ih.cons_cons head

theorem mem_of_mem_upTo (member : item ∈ upTo stops items) : item ∈ items :=
  upTo_sublist.subset member

/-- A scan that nothing stops reads the whole list. -/
theorem upTo_of_find?_none (never : items.find? stops = none) : upTo stops items = items := by
  induction items with
  | nil => rfl
  | cons head rest ih =>
    rw [List.find?_eq_none] at never
    have passes : ¬ stops head = true := never head List.mem_cons_self
    rw [upTo, if_neg passes, ih]
    rw [List.find?_eq_none]
    exact fun other member => never other (List.mem_cons_of_mem _ member)

/-- A scan that stops reads the passed items and then the one that stops it. -/
theorem upTo_of_find?_some (found : items.find? stops = some item) :
    ∃ passed later, items = passed ++ item :: later ∧ upTo stops items = passed ++ [item] ∧
      ∀ other ∈ passed, stops other = false := by
  induction items with
  | nil => cases found
  | cons head rest ih =>
    by_cases stop : stops head = true
    · rw [List.find?_cons_of_pos stop, Option.some.injEq] at found
      subst found
      exact ⟨[], rest, rfl, by simp [upTo, stop], by simp⟩
    · rw [List.find?_cons_of_neg stop] at found
      obtain ⟨passed, later, split, read, before⟩ := ih found
      refine ⟨head :: passed, later, by rw [split, List.cons_append], ?_, ?_⟩
      · rw [upTo, if_neg stop, read, List.cons_append]
      · intro other member
        rcases List.mem_cons.mp member with rfl | inside
        · simpa using stop
        · exact before other inside

/-- The item that stops a scan is read by it. -/
theorem mem_upTo_of_find? (found : items.find? stops = some item) : item ∈ upTo stops items := by
  obtain ⟨_, _, _, read, _⟩ := upTo_of_find?_some found
  rw [read]
  exact List.mem_append_right _ List.mem_cons_self

/-- Items that do not stop a scan are read before the rest. -/
theorem upTo_append {passed : List α} (rest : List α)
    (passes : ∀ item ∈ passed, stops item = false) :
    upTo stops (passed ++ rest) = passed ++ upTo stops rest ∧
      (passed ++ rest).find? stops = rest.find? stops := by
  induction passed with
  | nil => exact ⟨rfl, rfl⟩
  | cons head tail ih =>
    have pass : ¬ stops head = true := by simp [passes head List.mem_cons_self]
    obtain ⟨read, found⟩ := ih fun item member => passes item (List.mem_cons_of_mem _ member)
    rw [List.cons_append, upTo, if_neg pass, read, List.find?_cons_of_neg pass, found]
    exact ⟨rfl, rfl⟩

/-- Only the last item a scan reads can stop it. -/
theorem find?_of_mem_upTo (read : item ∈ upTo stops items) (stop : stops item = true) :
    items.find? stops = some item := by
  cases found : items.find? stops with
  | none => exact absurd stop (List.find?_eq_none.mp found item (mem_of_mem_upTo read))
  | some first =>
    obtain ⟨passed, _, _, list, passes⟩ := upTo_of_find?_some found
    rw [list, List.mem_append, List.mem_singleton] at read
    rcases read with before | rfl
    · rw [passes item before] at stop
      cases stop
    · rfl

/-- Two scans that agree on what one of them reads read the same. -/
theorem upTo_congr (agree : ∀ item ∈ upTo stops items, stops item = halts item) :
    upTo stops items = upTo halts items ∧ items.find? stops = items.find? halts := by
  induction items with
  | nil => exact ⟨rfl, rfl⟩
  | cons head rest ih =>
    by_cases stop : stops head = true
    · have halt : halts head = true := by
        rw [← agree head (by rw [upTo, if_pos stop]; exact List.mem_cons_self), stop]
      simp [upTo, stop, halt]
    · have read : upTo stops (head :: rest) = head :: upTo stops rest := by rw [upTo, if_neg stop]
      have pass : ¬ halts head = true := by
        rw [← agree head (by rw [read]; exact List.mem_cons_self)]
        exact stop
      have tail := ih fun other member =>
        agree other (by rw [read]; exact List.mem_cons_of_mem _ member)
      rw [read, upTo, if_neg pass, tail.1, List.find?_cons_of_neg stop,
        List.find?_cons_of_neg pass, tail.2]
      exact ⟨rfl, rfl⟩

/-- When a scan stops wherever another one does, or at a fault, and the other one
reads a fault, then it is a fault that stops it. -/
theorem find?_fault {fault : α → Prop}
    (stop : ∀ item, stops item = true ↔ halts item = true ∨ fault item)
    (read : item ∈ upTo halts items) (faulty : fault item) :
    ∃ first, items.find? stops = some first ∧ fault first ∧ first ∈ upTo halts items := by
  induction items with
  | nil => cases read
  | cons head rest ih =>
    by_cases bad : fault head
    · refine ⟨head, List.find?_cons_of_pos ((stop head).mpr (.inr bad)), bad, ?_⟩
      unfold upTo
      split <;> simp
    · by_cases halt : halts head = true
      · rw [upTo, if_pos halt, List.mem_singleton] at read
        subst read
        exact absurd faulty bad
      · have passes : ¬ stops head = true := by
          rw [stop, not_or]
          exact ⟨halt, bad⟩
        rw [upTo, if_neg halt, List.mem_cons] at read
        rcases read with rfl | later
        · exact absurd faulty bad
        · obtain ⟨first, found, firstFault, inside⟩ := ih later
          refine ⟨first, by rw [List.find?_cons_of_neg passes, found], firstFault, ?_⟩
          rw [upTo, if_neg halt]
          exact List.mem_cons_of_mem _ inside

end ModelPilot.Prefixes
