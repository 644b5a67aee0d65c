import Mathlib.Data.List.Induction
import Mathlib.Data.List.MinMax
import Mathlib.Data.List.Sort
import Mathlib.Data.Prod.Lex
import ModelPilot.Dict

/-! Sorting by a key, and replaying ranked batches of keyed items into a
dictionary. When the batches come in increasing rank, what remains under a key
is the item of the greatest-ranked batch that has one. -/
namespace ModelPilot

/-- `sorted(items, key=key)`. -/
def sortedBy [LinearOrder β] (key : α → β) (items : List α) : List α :=
  items.insertionSort (key · ≤ key ·)

/-- `max(items, key=key)`, when there is one. -/
def greatest [LinearOrder β] (key : α → β) (items : List α) : Option α := items.argmax key

section Sorting
variable {α β : Type*} [LinearOrder β] {key : α → β} {left right items : List α} {item other : α}

theorem mem_sortedBy {item : α} : item ∈ sortedBy key items ↔ item ∈ items :=
  (List.perm_insertionSort _ _).mem_iff

theorem sortedBy_perm (key : α → β) (items : List α) : (sortedBy key items).Perm items :=
  List.perm_insertionSort _ _

theorem sortedBy_pairwise (key : α → β) (items : List α) :
    (sortedBy key items).Pairwise (key · ≤ key ·) := by
  have total : Std.Total (fun a b : α => key a ≤ key b) := ⟨fun a b => le_total (key a) (key b)⟩
  have trans : IsTrans α (fun a b => key a ≤ key b) := ⟨fun _ _ _ => le_trans⟩
  exact List.pairwise_insertionSort _ _

/-- Items whose keys differ are sorted strictly. -/
theorem sortedBy_strict (distinct : (items.map key).Nodup) :
    (sortedBy key items).Pairwise (key · < key ·) := by
  have apart : (sortedBy key items).Pairwise (key · ≠ key ·) := by
    rw [← List.pairwise_map (f := key) (R := (· ≠ ·))]
    exact ((sortedBy_perm key items).map key).nodup_iff.mpr distinct
  apply ((sortedBy_pairwise key items).and apart).imp
  rintro a b ⟨before, different⟩
  exact lt_of_le_of_ne before different

/-- Strictly sorted lists with the same members are the same list. -/
theorem sorted_ext (leftSorted : left.Pairwise (key · < key ·))
    (rightSorted : right.Pairwise (key · < key ·))
    (same : ∀ item, item ∈ left ↔ item ∈ right) : left = right := by
  have antisymm : Std.Antisymm (fun a b : α => key a < key b) :=
    ⟨fun _ _ before after => absurd (before.trans after) (lt_irrefl _)⟩
  have irrefl : Std.Irrefl (fun a b : α => key a < key b) := ⟨fun _ => lt_irrefl _⟩
  exact List.Pairwise.eq_of_mem_iff leftSorted rightSorted same

/-- Lists whose items have the same keys in the same places stay so when sorted. -/
theorem forall₂_sortedBy {γ : Type*} {otherKey : γ → β} {related : α → γ → Prop} {others : List γ}
    (keys : ∀ item other, related item other → key item = otherKey other)
    (relates : List.Forall₂ related items others) :
    List.Forall₂ related (sortedBy key items) (sortedBy otherKey others) := by
  have inserted {item : α} {other : γ} (first : related item other) {sorted : List α}
      {resorted : List γ} (rest : List.Forall₂ related sorted resorted) :
      List.Forall₂ related (sorted.orderedInsert (key · ≤ key ·) item)
        (resorted.orderedInsert (otherKey · ≤ otherKey ·) other) := by
    induction rest with
    | nil => exact .cons first .nil
    | cons head tail ih =>
      rw [List.orderedInsert, List.orderedInsert, keys _ _ first, keys _ _ head]
      split
      · exact .cons first (.cons head tail)
      · exact .cons head ih
  induction relates with
  | nil => exact .nil
  | cons first _ ih => exact inserted first ih

/-- Changed items are sorted by the key of what they become. -/
theorem sortedBy_map {γ : Type*} (change : γ → α) (items : List γ) :
    sortedBy key (items.map change) = (sortedBy (fun item => key (change item)) items).map change :=
  (List.map_insertionSort _ _ change items fun _ _ _ _ => Iff.rfl).symm

section Columns
variable {γ κ : Type*} [LinearOrder γ] [LinearOrder κ] {column : α → β} {time : α → γ} {tie : α → κ}

/-- Keys that order the items alike sort them alike. -/
theorem sortedBy_congr (alike : ∀ a ∈ items, ∀ b ∈ items, column a ≤ column b ↔ time a ≤ time b) :
    sortedBy column items = sortedBy time items := by
  have sorted := List.map_insertionSort (fun a b => column a ≤ column b)
    (fun a b => time a ≤ time b) id items alike
  rwa [List.map_id, List.map_id] at sorted

/-- So do the pairs of such a key and a tie. -/
theorem toLex_alike (alike : ∀ a ∈ items, ∀ b ∈ items, column a ≤ column b ↔ time a ≤ time b)
    (a : α) (first : a ∈ items) (b : α) (second : b ∈ items) :
    toLex (column a, tie a) ≤ toLex (column b, tie b) ↔
      toLex (time a, tie a) ≤ toLex (time b, tie b) := by
  have forward := alike a first b second
  have backward := alike b second a first
  have before : column a < column b ↔ time a < time b := by
    rw [← not_le, ← not_le, backward]
  have same : column a = column b ↔ time a = time b := by
    rw [le_antisymm_iff, le_antisymm_iff, forward, backward]
  simp only [Prod.Lex.toLex_le_toLex, before, same]

/-- `ORDER BY column, tie`. -/
theorem sortedBy_lex_congr
    (alike : ∀ a ∈ items, ∀ b ∈ items, column a ≤ column b ↔ time a ≤ time b) :
    sortedBy (fun item => toLex (column item, tie item)) items =
      sortedBy (fun item => toLex (time item, tie item)) items :=
  sortedBy_congr (toLex_alike alike)

/-- `ORDER BY column DESC, tie DESC`. -/
theorem sortedBy_lex_dual_congr
    (alike : ∀ a ∈ items, ∀ b ∈ items, column a ≤ column b ↔ time a ≤ time b) :
    sortedBy (fun item => OrderDual.toDual (toLex (column item, tie item))) items =
      sortedBy (fun item => OrderDual.toDual (toLex (time item, tie item))) items :=
  sortedBy_congr fun a first b second => toLex_alike alike b second a first

end Columns

theorem greatest_eq_none : greatest key items = none ↔ items = [] := List.argmax_eq_none

theorem greatest_mem (found : greatest key items = some item) : item ∈ items :=
  List.argmax_mem found

theorem le_greatest (found : greatest key items = some item) (member : other ∈ items) :
    key other ≤ key item :=
  List.le_of_mem_argmax member found

/-- An item above all others is the greatest. -/
theorem greatest_cons (above : ∀ other ∈ items, key other < key item) :
    greatest key (item :: items) = some item := by
  rw [greatest, List.argmax_cons]
  cases best : items.argmax key with
  | none => rfl
  | some other => simp [not_lt_of_gt (above other (List.argmax_mem best))]

/-- The greatest item of a list depends on its members only, when their keys
differ. -/
theorem greatest_congr (same : ∀ item, item ∈ left ↔ item ∈ right)
    (distinct : ∀ a ∈ right, ∀ b ∈ right, key a = key b → a = b) :
    greatest key left = greatest key right := by
  cases best : greatest key left with
  | none =>
    have empty : right = [] := List.eq_nil_iff_forall_not_mem.mpr fun item member => by
      simpa [greatest_eq_none.mp best] using (same item).mpr member
    exact (greatest_eq_none.mpr empty).symm
  | some item =>
    have inside := (same item).mp (greatest_mem best)
    cases better : greatest key right with
    | none => simp [greatest_eq_none.mp better] at inside
    | some other =>
      have member := greatest_mem better
      have above := le_greatest better inside
      have below := le_greatest best ((same other).mpr member)
      rw [distinct item inside other member (le_antisymm above below)]

/-- In a strictly sorted list the last item is the greatest. -/
theorem getLast?_eq_greatest (sorted : items.Pairwise (key · < key ·)) :
    items.getLast? = greatest key items := by
  induction items using List.reverseRecOn with
  | nil => rfl
  | append_singleton older newest ih =>
    obtain ⟨_, _, later⟩ := List.pairwise_append.mp sorted
    rw [List.getLast?_concat, greatest, List.argmax_concat]
    cases best : older.argmax key with
    | none => rfl
    | some item =>
      have below := later item (List.argmax_mem best) newest List.mem_cons_self
      simp [below]

end Sorting

namespace LatestWins
variable {ρ α κ β ν : Type*} [LinearOrder β]
  {contents : ρ → List α} {key : α → κ} {rank : ρ → β} {value : ρ → α → ν}
  {left right runs : List ρ} {name : κ} {run : ρ} {item : α}

/-- A batch of the history has an item under `name`. -/
structure Attempt (contents : ρ → List α) (key : α → κ) (runs : List ρ) (name : κ) (run : ρ)
    (item : α) : Prop where
  run_mem : run ∈ runs
  item_mem : item ∈ contents run
  named : key item = name

/-- The attempt under `name` in the greatest-ranked batch that has one. -/
structure Latest (contents : ρ → List α) (key : α → κ) (rank : ρ → β) (runs : List ρ) (name : κ)
    (run : ρ) (item : α) : Prop extends Attempt contents key runs name run item where
  greatest : ∀ other found, Attempt contents key runs name other found → rank other ≤ rank run

/-- The latest attempts depend on the members of the history only. -/
theorem latest_congr (same : ∀ run, run ∈ left ↔ run ∈ right) :
    Latest contents key rank left name run item ↔
      Latest contents key rank right name run item := by
  have moved : ∀ {these those : List ρ}, (∀ run, run ∈ these ↔ run ∈ those) →
      Latest contents key rank these name run item →
        Latest contents key rank those name run item := by
    intro these those agree latest
    exact ⟨⟨(agree run).mp latest.run_mem, latest.item_mem, latest.named⟩,
      fun other found attempt => latest.greatest other found
        ⟨(agree other).mpr attempt.run_mem, attempt.item_mem, attempt.named⟩⟩
  exact ⟨moved same, moved fun run => (same run).symm⟩

/-- A batch ranked above the whole history decides the names it contains and
no others. -/
theorem latest_cons_iff {newer : ρ} (later : ∀ run ∈ runs, rank run < rank newer) :
    Latest contents key rank (newer :: runs) name run item ↔
      (run = newer ∧ item ∈ contents newer ∧ key item = name) ∨
      ((∀ found ∈ contents newer, key found ≠ name) ∧
        Latest contents key rank runs name run item) := by
  constructor
  · intro latest
    rcases List.mem_cons.mp latest.run_mem with rfl | older
    · exact .inl ⟨rfl, latest.item_mem, latest.named⟩
    · refine .inr ⟨fun found inside named => ?_, ⟨older, latest.item_mem, latest.named⟩,
        fun other found attempt => latest.greatest other found
          ⟨List.mem_cons_of_mem _ attempt.run_mem, attempt.item_mem, attempt.named⟩⟩
      have above := latest.greatest newer found ⟨List.mem_cons_self, inside, named⟩
      exact absurd (later run older) (not_lt_of_ge above)
  · rintro (⟨rfl, inside, named⟩ | ⟨absent, latest⟩)
    · refine ⟨⟨List.mem_cons_self, inside, named⟩, fun other found attempt => ?_⟩
      rcases List.mem_cons.mp attempt.run_mem with rfl | older
      · exact le_refl _
      · exact le_of_lt (later other older)
    · refine ⟨⟨List.mem_cons_of_mem _ latest.run_mem, latest.item_mem, latest.named⟩,
        fun other found attempt => ?_⟩
      rcases List.mem_cons.mp attempt.run_mem with rfl | older
      · exact absurd attempt.named (absent found attempt.item_mem)
      · exact latest.greatest other found ⟨older, attempt.item_mem, attempt.named⟩

variable [DecidableEq κ]

/-- One batch on top of a dictionary. -/
def record (contents : ρ → List α) (key : α → κ) (value : ρ → α → ν) (dict : Dict κ ν)
    (run : ρ) : Dict κ ν :=
  (contents run).foldl (fun dict item => dict.set (key item) (value run item)) dict

/-- The batches one after the other; later items replace earlier ones. -/
def replay (contents : ρ → List α) (key : α → κ) (value : ρ → α → ν) (runs : List ρ) :
    Dict κ ν :=
  runs.foldl (record contents key value) Dict.empty

/-- What one batch leaves under a name. -/
theorem get?_record (single : ((contents run).map key).Nodup) (dict : Dict κ ν) (name : κ)
    (result : ν) :
    (record contents key value dict run).get? name = some result ↔
      (∃ item ∈ contents run, key item = name ∧ value run item = result) ∨
      ((∀ item ∈ contents run, key item ≠ name) ∧ dict.get? name = some result) := by
  unfold record
  generalize contents run = items at single
  induction items generalizing dict with
  | nil => simp
  | cons head rest ih =>
    obtain ⟨fresh, tail⟩ := List.nodup_cons.mp single
    rw [List.foldl_cons, ih _ tail, Dict.get?_set]
    have absent : ∀ item ∈ rest, key item ≠ key head := fun item inside same =>
      fresh (same ▸ List.mem_map_of_mem inside)
    by_cases named : key head = name
    · subst named
      simp only [if_pos, List.mem_cons, exists_eq_or_imp, forall_eq_or_imp, true_and,
        Option.some.injEq, ne_eq, not_true_eq_false, false_and, or_false]
      exact ⟨fun h => h.elim (fun ⟨item, inside, same, _⟩ => absurd same (absent item inside))
        (fun h => .inl h.2), fun h => h.elim (fun same => .inr ⟨absent, same⟩) .inl⟩
    · simp [named]

/-- Replaying batches in increasing rank leaves the latest attempt under every
name. -/
theorem get?_replay (sorted : runs.Pairwise (rank · < rank ·))
    (single : ∀ run ∈ runs, ((contents run).map key).Nodup) (name : κ) (result : ν) :
    (replay contents key value runs).get? name = some result ↔
      ∃ run item, Latest contents key rank runs name run item ∧ value run item = result := by
  induction runs using List.reverseRecOn with
  | nil =>
    simp only [replay, List.foldl_nil, Dict.get?_empty, reduceCtorEq, false_iff]
    rintro ⟨run, item, latest, _⟩
    cases latest.run_mem
  | append_singleton older newest ih =>
    obtain ⟨ordered, _, later⟩ := List.pairwise_append.mp sorted
    have below : ∀ run ∈ older, rank run < rank newest := fun run inside =>
      later run inside newest List.mem_cons_self
    have reordered : ∀ run item, Latest contents key rank (older ++ [newest]) name run item ↔
        Latest contents key rank (newest :: older) name run item :=
      fun run item => latest_congr (by simp [or_comm])
    have before := ih ordered fun run inside => single run (List.mem_append_left _ inside)
    have newestSingle := single newest (by simp)
    have step : replay contents key value (older ++ [newest]) =
        record contents key value (replay contents key value older) newest := by
      simp [replay, List.foldl_append]
    rw [step, get?_record newestSingle, before]
    simp only [reordered, latest_cons_iff below]
    constructor
    · rintro (⟨item, inside, named, same⟩ | ⟨absent, run, item, latest, same⟩)
      · exact ⟨newest, item, .inl ⟨rfl, inside, named⟩, same⟩
      · exact ⟨run, item, .inr ⟨absent, latest⟩, same⟩
    · rintro ⟨run, item, ⟨rfl, inside, named⟩ | ⟨absent, latest⟩, same⟩
      · exact .inl ⟨item, inside, named, same⟩
      · exact .inr ⟨absent, run, item, latest, same⟩

end LatestWins
end ModelPilot
