import Mathlib.Data.List.Perm.Subperm
import ModelPilot.LatestWins

/-! Ranks in sorted lists: how many items lie below a position, which items come
first, and that the first items do not depend on later ones. -/
namespace ModelPilot

section Positions
variable {α β : Type*} [LinearOrder β] {key : α → β} {items others : List α} {item : α}
  {position limit : Nat}

/-- A position in a strictly sorted list counts the smaller keys. -/
theorem countP_below (sorted : items.Pairwise (key · < key ·)) (bound : position < items.length) :
    items.countP (fun other => key other < key items[position]) = position := by
  induction items generalizing position with
  | nil => cases bound
  | cons head rest ih =>
    obtain ⟨above, later⟩ := List.pairwise_cons.mp sorted
    cases position with
    | zero =>
      rw [List.countP_eq_zero]
      intro other member
      rcases List.mem_cons.mp member with rfl | inside
      · simp
      · simpa using (above other inside).le
    | succ position =>
      have inside : position < rest.length := by simpa using bound
      have below := above _ (List.getElem_mem inside)
      rw [List.getElem_cons_succ, List.countP_cons, ih later inside, decide_eq_true below, if_pos rfl]

/-- The first items are those with few smaller ones. -/
theorem mem_take_iff (sorted : items.Pairwise (key · < key ·)) :
    item ∈ items.take limit ↔
      item ∈ items ∧ items.countP (fun other => key other < key item) < limit := by
  constructor
  · intro member
    obtain ⟨position, bound, rfl⟩ := List.getElem_of_mem member
    rw [List.length_take] at bound
    rw [List.getElem_take, countP_below sorted]
    exact ⟨List.getElem_mem _, by omega⟩
  · rintro ⟨member, few⟩
    obtain ⟨position, bound, rfl⟩ := List.getElem_of_mem member
    rw [countP_below sorted bound] at few
    rw [List.mem_take_iff_getElem]
    exact ⟨position, by omega, rfl⟩

/-- Items behind the first ones do not change which the first ones are. -/
theorem take_eq_of_later (sorted : items.Pairwise (key · < key ·))
    (otherSorted : others.Pairwise (key · < key ·)) (kept : ∀ item ∈ items, item ∈ others)
    (later : ∀ item ∈ others, item ∉ items →
      limit ≤ items.countP fun other => key other < key item) :
    others.take limit = items.take limit := by
  have nodup {list : List α} (strict : list.Pairwise (key · < key ·)) : list.Nodup :=
    strict.imp fun before same => before.ne (congrArg key same)
  refine sorted_ext (otherSorted.sublist (List.take_sublist _ _))
    (sorted.sublist (List.take_sublist _ _)) fun item => ?_
  rw [mem_take_iff otherSorted, mem_take_iff sorted]
  have fewer : items.countP (fun other => key other < key item) ≤
      others.countP fun other => key other < key item := by
    rw [List.countP_eq_length_filter, List.countP_eq_length_filter]
    refine ((nodup sorted).filter _).subperm ?_ |>.length_le
    intro other member
    obtain ⟨inside, below⟩ := List.mem_filter.mp member
    exact List.mem_filter.mpr ⟨kept other inside, below⟩
  have same (few : items.countP (fun other => key other < key item) < limit) :
      others.countP (fun other => key other < key item) ≤
        items.countP fun other => key other < key item := by
    rw [List.countP_eq_length_filter, List.countP_eq_length_filter]
    refine ((nodup otherSorted).filter _).subperm ?_ |>.length_le
    intro other member
    obtain ⟨inside, below⟩ := List.mem_filter.mp member
    by_contra absent
    have new : other ∉ items := fun held => absent (List.mem_filter.mpr ⟨held, below⟩)
    have many := later other inside new
    have more : items.countP (fun before => key before < key other) ≤
        items.countP fun before => key before < key item := by
      refine List.countP_mono_left fun before _ passed => ?_
      exact decide_eq_true ((of_decide_eq_true passed).trans (of_decide_eq_true below))
    omega
  constructor
  · rintro ⟨inside, few⟩
    by_cases held : item ∈ items
    · exact ⟨held, by omega⟩
    · have many := later item inside held
      omega
  · rintro ⟨inside, few⟩
    have equal := same few
    exact ⟨kept item inside, by omega⟩

end Positions

section Ranks
variable {α : Type*} [LinearOrder α] {items : List α} {position : Nat}

/-- Up to a position in a sorted list there are at least so many items not above it. -/
theorem lt_countP_le (sorted : items.Pairwise (· ≤ ·)) (bound : position < items.length) :
    position < items.countP (· ≤ items[position]) := by
  have first : (items.take (position + 1)).countP (· ≤ items[position]) =
      (items.take (position + 1)).length := by
    rw [List.countP_eq_length]
    intro item member
    obtain ⟨index, inside, rfl⟩ := List.getElem_of_mem member
    rw [List.length_take] at inside
    rw [List.getElem_take]
    rcases Nat.lt_or_eq_of_le (show index ≤ position by omega) with before | rfl
    · exact decide_eq_true (List.pairwise_iff_getElem.mp sorted _ _ _ _ before)
    · exact decide_eq_true (le_refl _)
  have part := (List.take_sublist (position + 1) items).countP_le
    (p := fun item => decide (item ≤ items[position]))
  rw [first, List.length_take] at part
  omega

/-- Below a position in a sorted list there are at most so many smaller items. -/
theorem countP_lt_le (sorted : items.Pairwise (· ≤ ·)) (bound : position < items.length) :
    items.countP (· < items[position]) ≤ position := by
  have none_ : (items.drop position).countP (· < items[position]) = 0 := by
    rw [List.countP_eq_zero]
    intro item member
    obtain ⟨index, inside, rfl⟩ := List.getElem_of_mem member
    rw [List.getElem_drop]
    rcases Nat.eq_zero_or_pos index with rfl | later
    · simp
    · have above := List.pairwise_iff_getElem.mp sorted position (position + index) bound
        (by rw [List.length_drop] at inside; omega) (by omega)
      simpa using above
  generalize items[position] = pivot at none_ ⊢
  have split : items.countP (· < pivot) = (items.take position).countP (· < pivot) +
      (items.drop position).countP (· < pivot) := by
    rw [← List.countP_append, List.take_append_drop]
  rw [split, none_, Nat.add_zero]
  exact List.countP_le_length.trans (List.length_take_le _ _)

end Ranks

end ModelPilot
