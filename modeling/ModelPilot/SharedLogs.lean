import Mathlib.Data.List.Forall2
import Mathlib.Data.List.Infix
import Mathlib.Data.List.Pairwise
import ModelPilot.LatestWins

/-! Logs that several writers append to. A log grows by a history of entries, some of
which are accepted and add one row each. What it then holds of one writer is what that
writer's own entries added, whatever the others did in between. -/
namespace ModelPilot.SharedLogs

variable {ε ρ : Type*}

/-- A log that starts with some rows and grows by a history: an accepted entry adds its
row behind the others, and another entry none. -/
inductive Grows (adds : ε → ρ → Prop) (accepted : ε → Bool) (initial : List ρ) :
    List ε → List ρ → Prop where
  | start : Grows adds accepted initial [] initial
  | added {history : List ε} {table : List ρ} {entry : ε} {row : ρ}
      (before : Grows adds accepted initial history table)
      (taken : accepted entry = true) (made : adds entry row) :
      Grows adds accepted initial (history ++ [entry]) (table ++ [row])
  | skipped {history : List ε} {table : List ρ} {entry : ε}
      (before : Grows adds accepted initial history table)
      (refused : accepted entry = false) :
      Grows adds accepted initial (history ++ [entry]) table

variable {adds : ε → ρ → Prop} {accepted : ε → Bool} {initial table : List ρ}
  {history : List ε}

/-- Nothing that was in the log is lost or moved. -/
theorem Grows.keeps (grows : Grows adds accepted initial history table) : initial <+: table := by
  induction grows with
  | start => exact List.prefix_rfl
  | added _ _ _ ih => exact ih.trans (List.prefix_append _ _)
  | skipped _ _ ih => exact ih

/-- The rows of one writer are those of its accepted entries, in their order. -/
theorem Grows.own {mine : ρ → Bool} {writes : ε → Bool}
    (tagged : ∀ entry row, entry ∈ history → adds entry row → mine row = writes entry)
    (fresh : ∀ row ∈ initial, mine row = false)
    (grows : Grows adds accepted initial history table) :
    List.Forall₂ adds (history.filter fun entry => writes entry && accepted entry)
      (table.filter mine) := by
  induction grows with
  | start =>
    have none : initial.filter mine = [] :=
      List.filter_eq_nil_iff.mpr fun row member => by simp [fresh row member]
    rw [none]
    exact .nil
  | @added history table entry row before taken made ih =>
    have earlier := ih fun other row member => tagged other row (List.mem_append_left _ member)
    have own := tagged entry row (List.mem_append_right _ List.mem_cons_self) made
    rw [List.filter_append, List.filter_append]
    refine List.rel_append earlier ?_
    cases written : writes entry with
    | true =>
      rw [written] at own
      simpa [written, taken, own] using made
    | false =>
      rw [written] at own
      simp [written, own]
  | @skipped history table entry before refused ih =>
    have earlier := ih fun other row member => tagged other row (List.mem_append_left _ member)
    rw [List.filter_append]
    simpa [refused] using earlier

/-- What came to the log is one row for each accepted entry. -/
theorem Grows.rows (grows : Grows adds accepted initial history table) :
    ∃ added, table = initial ++ added ∧ List.Forall₂ adds (history.filter accepted) added := by
  induction grows with
  | start => exact ⟨[], by simp, .nil⟩
  | @added history table entry row before taken made ih =>
    obtain ⟨earlier, rfl, kept⟩ := ih
    refine ⟨earlier ++ [row], by simp, ?_⟩
    rw [List.filter_append]
    exact List.rel_append kept (by simpa [taken] using made)
  | @skipped history table entry before refused ih =>
    obtain ⟨earlier, rfl, kept⟩ := ih
    refine ⟨earlier, rfl, ?_⟩
    simpa [List.filter_append, refused] using kept

/-- What each entry of a list put into its row is what the rows hold. -/
theorem forall₂_contents {γ : Type*} {content : ε → Option γ} {holds : ρ → γ → Prop}
    {entries : List ε} {rows : List ρ}
    (holding : ∀ entry row, adds entry row →
      ∃ held, content entry = some held ∧ holds row held)
    (added : List.Forall₂ adds entries rows) :
    List.Forall₂ holds rows (entries.filterMap content) := by
  induction added with
  | nil => exact .nil
  | cons made _ ih =>
    obtain ⟨held, same, kept⟩ := holding _ _ made
    rw [List.filterMap_cons_some same]
    exact .cons kept ih

section Newest
variable {items newer : List ρ} {limit : Nat}

/-- A bounded log that keeps its newest items forgets no more than one that keeps them
all and is cut once. -/
theorem take_cons_take (item : ρ) (items : List ρ) (limit : Nat) :
    (item :: items.take limit).take limit = (item :: items).take limit := by
  cases limit with
  | zero => rfl
  | succ limit =>
    rw [List.take_succ_cons, List.take_succ_cons, List.take_take, min_eq_left (Nat.le_succ limit)]

/-- An item that fewer than the limit came after is among the newest. -/
theorem mem_newest {item : ρ} (few : newer.length < limit) :
    item ∈ (newer ++ item :: items).take limit := by
  obtain ⟨more, enough⟩ := Nat.exists_eq_add_of_lt few
  have left : limit - newer.length = more + 1 := by omega
  rw [List.take_append, left, List.take_succ_cons]
  exact List.mem_append_right _ List.mem_cons_self

end Newest

section Sorted
variable {τ : Type*} [LinearOrder τ] {time : ρ → τ} {number : ρ → ℕ} {same : ρ → ρ → Prop}
  {rows others : List ρ}

private theorem zip_related (alike : List.Forall₂ same rows others) :
    ∀ pair ∈ rows.zip others, same pair.1 pair.2 := by
  induction alike with
  | nil => simp
  | cons first _ ih => exact List.forall_mem_cons.mpr ⟨first, ih⟩

/-- In two numbered logs that hold the same things in the same order, numbers compare
alike. -/
private theorem numbers_alike (numbered : rows.Pairwise (number · < number ·))
    (renumbered : others.Pairwise (number · < number ·)) (length : rows.length = others.length) :
    ∀ pair ∈ rows.zip others, ∀ other ∈ rows.zip others,
      number pair.1 ≤ number other.1 ↔ number pair.2 ≤ number other.2 := by
  have left : (rows.zip others).map Prod.fst = rows := List.map_fst_zip length.le
  have right : (rows.zip others).map Prod.snd = others := List.map_snd_zip length.ge
  have first : (rows.zip others).Pairwise (number ·.1 < number ·.1) := by
    rw [← List.pairwise_map (f := Prod.fst) (R := (number · < number ·)), left]
    exact numbered
  have second : (rows.zip others).Pairwise (number ·.2 < number ·.2) := by
    rw [← List.pairwise_map (f := Prod.snd) (R := (number · < number ·)), right]
    exact renumbered
  let Alike (pair other : ρ × ρ) : Prop :=
    (number pair.1 ≤ number other.1 ↔ number pair.2 ≤ number other.2) ∧
      (number other.1 ≤ number pair.1 ↔ number other.2 ≤ number pair.2)
  have symm : Std.Symm Alike := ⟨fun _ _ held => ⟨held.2, held.1⟩⟩
  have pairwise : (rows.zip others).Pairwise Alike := by
    refine (first.and second).imp fun before => ?_
    obtain ⟨earlier, also⟩ := before
    exact ⟨iff_of_true earlier.le also.le, iff_of_false (not_le.mpr earlier) (not_le.mpr also)⟩
  intro pair member other inside
  exact (pairwise.forall_of_forall (fun _ _ => ⟨by simp, by simp⟩) member inside).1

/-- Two numbered logs that hold the same things in the same order are the same when they are
read from the latest, the greater number first among what has one time: the numbers of one
log need not be those of the other. -/
theorem sorted_reads (times : ∀ row other, same row other → time row = time other)
    (numbered : rows.Pairwise (number · < number ·))
    (renumbered : others.Pairwise (number · < number ·))
    (alike : List.Forall₂ same rows others) :
    List.Forall₂ same
      (sortedBy (fun row => OrderDual.toDual (toLex (time row, number row))) rows)
      (sortedBy (fun row => OrderDual.toDual (toLex (time row, number row))) others) := by
  have length := alike.length_eq
  have related := zip_related alike
  have numbers := numbers_alike numbered renumbered length
  have left : (rows.zip others).map Prod.fst = rows := List.map_fst_zip length.le
  have right : (rows.zip others).map Prod.snd = others := List.map_snd_zip length.ge
  have order : sortedBy (fun pair : ρ × ρ => OrderDual.toDual (toLex (time pair.1, number pair.1)))
      (rows.zip others) =
      sortedBy (fun pair : ρ × ρ => OrderDual.toDual (toLex (time pair.2, number pair.2)))
        (rows.zip others) := by
    apply sortedBy_congr
    intro pair member other inside
    have here := times _ _ (related pair member)
    have there := times _ _ (related other inside)
    simp only [OrderDual.toDual_le_toDual, Prod.Lex.toLex_le_toLex, here, there,
      numbers other inside pair member]
  conv_lhs => rw [← left]
  conv_rhs => rw [← right]
  rw [sortedBy_map, sortedBy_map, order, List.forall₂_map_left_iff, List.forall₂_map_right_iff,
    List.forall₂_same]
  exact fun pair member => related pair (mem_sortedBy.mp member)

end Sorted
end ModelPilot.SharedLogs
