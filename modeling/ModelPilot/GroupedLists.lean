import Mathlib.Algebra.BigOperators.Group.List.Lemmas
import Mathlib.Algebra.GroupWithZero.Nat
import Mathlib.Algebra.Order.BigOperators.Group.List
import Mathlib.Algebra.Order.Group.Nat
import Mathlib.Data.List.Dedup

/-! Lists in groups: a total taken group by group, totals of groups that are cut at a cap,
and the beginning of a list whose wanted items come first. -/
namespace ModelPilot.GroupedLists

variable {α κ M : Type*} {key : α → κ} {keys : List κ} {items : List α}

section Totals
variable [DecidableEq κ]

/-- A total is the sum of the totals of the groups. -/
theorem sum_groups [AddCommMonoid M] (value : α → M) (once : keys.Nodup)
    (all : ∀ item ∈ items, key item ∈ keys) :
    (keys.map fun group => ((items.filter (key · = group)).map value).sum).sum =
      (items.map value).sum := by
  induction items with
  | nil => simp
  | cons item rest ih =>
    obtain ⟨here, others⟩ := List.forall_mem_cons.mp all
    have split (group : κ) : (((item :: rest).filter (key · = group)).map value).sum =
        (if group = key item then value item else 0) +
          ((rest.filter (key · = group)).map value).sum := by
      rw [List.filter_cons]
      by_cases own : key item = group
      · simp [own]
      · simp [own, Ne.symm own]
    have single : (keys.map fun group => if group = key item then value item else 0).sum =
        value item := by
      rw [List.sum_map_eq_nsmul_single (key item) _ fun group different _ => if_neg different,
        List.count_eq_one_of_mem once here, one_nsmul, if_pos rfl]
    simp only [split, List.sum_map_add, single, ih others, List.map_cons, List.sum_cons]

theorem length_groups (once : keys.Nodup) (all : ∀ item ∈ items, key item ∈ keys) :
    (keys.map fun group => (items.filter (key · = group)).length).sum = items.length := by
  have ones := sum_groups (fun _ => 1) once all
  simpa using ones

end Totals

section Capped
variable {cap : ℕ} {count : κ → ℕ}

theorem sum_capped_le (cap : ℕ) (count : κ → ℕ) (keys : List κ) :
    (keys.map fun group => min cap (count group)).sum ≤ (keys.map count).sum :=
  List.sum_le_sum fun group _ => min_le_right cap (count group)

/-- Nothing is lost to the cap exactly when no group is above it. -/
theorem sum_capped_eq_iff : (keys.map fun group => min cap (count group)).sum =
    (keys.map count).sum ↔ ∀ group ∈ keys, count group ≤ cap := by
  induction keys with
  | nil => simp
  | cons group rest ih =>
    have below := sum_capped_le cap count rest
    rw [List.forall_mem_cons, ← ih]
    simp only [List.map_cons, List.sum_cons]
    omega

end Capped

section Distinct
variable [DecidableEq κ] {left right : List κ}

theorem dedup_length_le (inside : left ⊆ right) : left.dedup.length ≤ right.dedup.length := by
  have subset : left.dedup ⊆ right.dedup := fun item member =>
    List.mem_dedup.mpr (inside (List.mem_dedup.mp member))
  exact (List.subperm_of_subset (List.nodup_dedup left) subset).length_le

/-- Lists with the same members have as many distinct ones. -/
theorem dedup_length_congr (same : ∀ item, item ∈ left ↔ item ∈ right) :
    left.dedup.length = right.dedup.length :=
  le_antisymm (dedup_length_le fun item => (same item).mp) (dedup_length_le fun item => (same item).mpr)

end Distinct

/-- When the wanted items come first, the beginning of a list holds as many of them as fit. -/
theorem countP_take {wanted : α → Bool}
    (first : items.Pairwise fun earlier later => wanted later = true → wanted earlier = true)
    (limit : ℕ) : (items.take limit).countP wanted = min limit (items.countP wanted) := by
  induction items generalizing limit with
  | nil => simp
  | cons item rest ih =>
    obtain ⟨before, others⟩ := List.pairwise_cons.mp first
    cases limit with
    | zero => simp
    | succ limit =>
      rw [List.take_succ_cons, List.countP_cons, List.countP_cons, ih others]
      cases here : wanted item with
      | true =>
        simp only [if_true]
        omega
      | false =>
        have none : rest.countP wanted = 0 := by
          apply List.countP_eq_zero.mpr
          intro later member held
          rw [before later member held] at here
          cases here
        simp [none]

end ModelPilot.GroupedLists
