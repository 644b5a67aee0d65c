import Mathlib.Data.List.Nodup

/-! Insertion-ordered dictionaries: setting a present key keeps its place and
replaces its value, setting a new key appends. Every dictionary carries the
fact that its keys are distinct. -/
namespace ModelPilot

namespace DictEntries
variable [DecidableEq κ]

def lookup (key : κ) : List (κ × α) → Option α
  | [] => none
  | (other, value) :: rest => if other = key then some value else lookup key rest

def insert (key : κ) (value : α) : List (κ × α) → List (κ × α)
  | [] => [(key, value)]
  | (other, previous) :: rest =>
    if other = key then (key, value) :: rest else (other, previous) :: insert key value rest

theorem lookup_insert (key probe : κ) (value : α) (entries : List (κ × α)) :
    lookup probe (insert key value entries) =
      if key = probe then some value else lookup probe entries := by
  induction entries with
  | nil => simp [insert, lookup]
  | cons entry rest ih =>
    obtain ⟨other, previous⟩ := entry
    by_cases same : other = key
    · subst same
      by_cases hit : other = probe <;> simp [insert, lookup, hit]
    · by_cases hit : other = probe
      · subst hit
        simp [insert, lookup, same, Ne.symm same]
      · simp [insert, lookup, same, hit, ih]

theorem mem_keys_insert (key probe : κ) (value : α) (entries : List (κ × α)) :
    probe ∈ (insert key value entries).map Prod.fst ↔
      probe = key ∨ probe ∈ entries.map Prod.fst := by
  induction entries with
  | nil => simp [insert]
  | cons entry rest ih =>
    obtain ⟨other, previous⟩ := entry
    by_cases same : other = key
    · subst same
      simp [insert]
    · simp only [insert, if_neg same, List.map_cons, List.mem_cons, ih]
      exact or_left_comm

theorem nodup_insert (key : κ) (value : α) (entries : List (κ × α))
    (distinct : (entries.map Prod.fst).Nodup) :
    ((insert key value entries).map Prod.fst).Nodup := by
  induction entries with
  | nil => simp [insert]
  | cons entry rest ih =>
    obtain ⟨other, previous⟩ := entry
    obtain ⟨fresh, tail⟩ := List.nodup_cons.mp distinct
    by_cases same : other = key
    · subst same
      simpa [insert] using distinct
    · simp only [insert, if_neg same, List.map_cons, List.nodup_cons]
      refine ⟨fun member => ?_, ih tail⟩
      rcases (mem_keys_insert key other value rest).mp member with equal | older
      · exact same equal
      · exact fresh older

theorem mem_insert (key : κ) (value : α) (entries : List (κ × α))
    (member : entry ∈ insert key value entries) : entry = (key, value) ∨ entry ∈ entries := by
  induction entries with
  | nil => simpa [insert] using member
  | cons head rest ih =>
    obtain ⟨other, previous⟩ := head
    by_cases same : other = key
    · rw [insert, if_pos same] at member
      rcases List.mem_cons.mp member with new | old
      · exact .inl new
      · exact .inr (List.mem_cons_of_mem _ old)
    · rw [insert, if_neg same] at member
      rcases List.mem_cons.mp member with rfl | later
      · exact .inr List.mem_cons_self
      · exact (ih later).imp_right (List.mem_cons_of_mem _)

theorem insert_fresh (key : κ) (value : α) (entries : List (κ × α))
    (fresh : key ∉ entries.map Prod.fst) : insert key value entries = entries ++ [(key, value)] := by
  induction entries with
  | nil => rfl
  | cons entry rest ih =>
    obtain ⟨other, previous⟩ := entry
    rw [List.map_cons, List.mem_cons, not_or] at fresh
    rw [insert, if_neg (Ne.symm fresh.1), ih fresh.2, List.cons_append]

theorem lookup_eq_some_iff {entries : List (κ × α)} (distinct : (entries.map Prod.fst).Nodup) :
    lookup key entries = some value ↔ (key, value) ∈ entries := by
  induction entries with
  | nil => simp [lookup]
  | cons entry rest ih =>
    obtain ⟨other, previous⟩ := entry
    obtain ⟨fresh, tail⟩ := List.nodup_cons.mp distinct
    by_cases same : other = key
    · subst same
      have absent : (other, value) ∉ rest := fun member =>
        fresh (List.mem_map.mpr ⟨_, member, rfl⟩)
      simp [lookup, absent, eq_comm]
    · simp [lookup, same, ih tail, Ne.symm same]

/-- The order of distinct keys does not matter to a lookup. -/
theorem lookup_perm {left right : List (κ × α)} (distinct : (left.map Prod.fst).Nodup)
    (shuffled : left.Perm right) : lookup key left = lookup key right := by
  apply Option.ext
  intro value
  rw [lookup_eq_some_iff distinct, shuffled.mem_iff,
    lookup_eq_some_iff ((shuffled.map Prod.fst).nodup_iff.mp distinct)]

theorem lookup_map (change : α → β) (key : κ) (entries : List (κ × α)) :
    lookup key (entries.map (Prod.map id change)) = (lookup key entries).map change := by
  induction entries with
  | nil => rfl
  | cons entry rest ih =>
    obtain ⟨other, value⟩ := entry
    by_cases same : other = key <;> simp [lookup, same, ih]

theorem insert_map (change : α → β) (key : κ) (value : α) (entries : List (κ × α)) :
    (insert key value entries).map (Prod.map id change) =
      insert key (change value) (entries.map (Prod.map id change)) := by
  induction entries with
  | nil => rfl
  | cons entry rest ih =>
    obtain ⟨other, previous⟩ := entry
    by_cases same : other = key <;> simp [insert, same, ih]

theorem lookup_isSome_iff (key : κ) (entries : List (κ × α)) :
    (lookup key entries).isSome ↔ key ∈ entries.map Prod.fst := by
  induction entries with
  | nil => simp [lookup]
  | cons entry rest ih =>
    obtain ⟨other, previous⟩ := entry
    by_cases same : other = key
    · simp [lookup, same]
    · simp [lookup, same, Ne.symm same, ih]

theorem lookup_append (key : κ) (left right : List (κ × α)) :
    lookup key (left ++ right) = (lookup key left).orElse fun _ => lookup key right := by
  induction left with
  | nil => rfl
  | cons entry rest ih =>
    obtain ⟨other, previous⟩ := entry
    by_cases same : other = key
    · simp [lookup, same]
    · simpa [lookup, same] using ih

/-- Of pairs inserted one after the other, the last of a key is found. -/
theorem lookup_foldl_insert (key : κ) (pairs entries : List (κ × α)) :
    lookup key (pairs.foldl (fun entries pair => insert pair.1 pair.2 entries) entries) =
      (lookup key pairs.reverse).orElse fun _ => lookup key entries := by
  induction pairs generalizing entries with
  | nil => rfl
  | cons pair rest ih =>
    obtain ⟨other, value⟩ := pair
    rw [List.foldl_cons, ih, lookup_insert, List.reverse_cons, lookup_append]
    cases lookup key rest.reverse <;> by_cases same : other = key <;> simp [lookup, same]

/-- Entries of other keys do not matter to a lookup. -/
theorem lookup_filter (keep : κ × α → Bool) (key : κ) (entries : List (κ × α))
    (kept : ∀ value, keep (key, value) = true) :
    lookup key (entries.filter keep) = lookup key entries := by
  induction entries with
  | nil => rfl
  | cons entry rest ih =>
    obtain ⟨other, previous⟩ := entry
    by_cases same : other = key
    · subst same
      simp [kept, lookup]
    · by_cases held : keep (other, previous) = true <;> simp [held, lookup, same, ih]

end DictEntries

structure Dict (κ α : Type*) [DecidableEq κ] where
  entries : List (κ × α)
  distinct : (entries.map Prod.fst).Nodup

namespace Dict
variable [DecidableEq κ]

def empty : Dict κ α := ⟨[], List.nodup_nil⟩

def get? (dict : Dict κ α) (key : κ) : Option α := DictEntries.lookup key dict.entries

def set (dict : Dict κ α) (key : κ) (value : α) : Dict κ α :=
  ⟨DictEntries.insert key value dict.entries, DictEntries.nodup_insert _ _ _ dict.distinct⟩

/-- `del dict[key]`. -/
def erase (dict : Dict κ α) (key : κ) : Dict κ α :=
  ⟨dict.entries.filter (·.1 ≠ key), dict.distinct.sublist (List.filter_sublist.map _)⟩

def keys (dict : Dict κ α) : List κ := dict.entries.map Prod.fst

def values (dict : Dict κ α) : List α := dict.entries.map Prod.snd

/-- A dictionary display or comprehension: later pairs win. -/
def ofList (pairs : List (κ × α)) : Dict κ α :=
  pairs.foldl (fun dict pair => dict.set pair.1 pair.2) empty

theorem ext_entries {left right : Dict κ α} (same : left.entries = right.entries) : left = right := by
  cases left
  cases right
  cases same
  rfl

instance [DecidableEq α] : DecidableEq (Dict κ α) := fun left right =>
  decidable_of_iff (left.entries = right.entries) ⟨ext_entries, congrArg _⟩

theorem keys_nodup (dict : Dict κ α) : dict.keys.Nodup := dict.distinct

@[simp] theorem get?_empty (key : κ) : (empty : Dict κ α).get? key = none := rfl

theorem get?_set (dict : Dict κ α) (key probe : κ) (value : α) :
    (dict.set key value).get? probe = if key = probe then some value else dict.get? probe :=
  DictEntries.lookup_insert key probe value dict.entries

@[simp] theorem get?_set_self (dict : Dict κ α) (key : κ) (value : α) :
    (dict.set key value).get? key = some value := by
  simp [get?_set]

theorem get?_set_ne (dict : Dict κ α) (value : α) (different : key ≠ probe) :
    (dict.set key value).get? probe = dict.get? probe := by
  simp [get?_set, different]

theorem get?_eq_some_iff {dict : Dict κ α} :
    dict.get? key = some value ↔ (key, value) ∈ dict.entries :=
  DictEntries.lookup_eq_some_iff dict.distinct

/-- The same keys in the same places, with changed values. -/
def mapValues (change : α → β) (dict : Dict κ α) : Dict κ β where
  entries := dict.entries.map (Prod.map id change)
  distinct := by
    rw [List.map_map]
    exact dict.distinct

theorem get?_mapValues (change : α → β) (dict : Dict κ α) (key : κ) :
    (dict.mapValues change).get? key = (dict.get? key).map change :=
  DictEntries.lookup_map change key dict.entries

theorem mapValues_set (change : α → β) (dict : Dict κ α) (key : κ) (value : α) :
    (dict.set key value).mapValues change = (dict.mapValues change).set key (change value) :=
  ext_entries (DictEntries.insert_map change key value dict.entries)

theorem get?_erase (dict : Dict κ α) (key probe : κ) :
    (dict.erase key).get? probe = if key = probe then none else dict.get? probe := by
  apply Option.ext
  intro value
  rw [get?_eq_some_iff, erase, List.mem_filter]
  by_cases same : key = probe
  · subst same
    simp
  · simp [same, Ne.symm same, get?_eq_some_iff]

theorem mem_keys_iff {dict : Dict κ α} : key ∈ dict.keys ↔ (dict.get? key).isSome :=
  (DictEntries.lookup_isSome_iff key dict.entries).symm

theorem mem_keys_set {dict : Dict κ α} :
    probe ∈ (dict.set key value).keys ↔ probe = key ∨ probe ∈ dict.keys :=
  DictEntries.mem_keys_insert key probe value dict.entries

theorem keys_set_fresh {dict : Dict κ α} (value : α) (absent : dict.get? key = none) :
    (dict.set key value).keys = dict.keys ++ [key] := by
  have fresh : key ∉ dict.entries.map Prod.fst := by
    have unknown : key ∉ dict.keys := by simp [mem_keys_iff, absent]
    exact unknown
  simp only [keys, set, DictEntries.insert_fresh _ _ _ fresh, List.map_append, List.map_cons,
    List.map_nil]

private theorem foldl_set_keys (pairs : List (κ × α)) (dict : Dict κ α) :
    probe ∈ (pairs.foldl (fun dict pair => dict.set pair.1 pair.2) dict).keys ↔
      probe ∈ dict.keys ∨ probe ∈ pairs.map Prod.fst := by
  induction pairs generalizing dict with
  | nil => simp
  | cons pair rest ih =>
    rw [List.foldl_cons, ih, mem_keys_set, List.map_cons, List.mem_cons]
    exact ⟨fun h => by tauto, fun h => by tauto⟩

theorem mem_keys_ofList {pairs : List (κ × α)} :
    probe ∈ (ofList pairs).keys ↔ probe ∈ pairs.map Prod.fst := by
  rw [ofList, foldl_set_keys]
  simp [keys, empty]

/-- Every entry of a dictionary was one of the pairs it was built from. -/
theorem mem_entries_ofList {pairs : List (κ × α)} (member : entry ∈ (ofList pairs).entries) :
    entry ∈ pairs := by
  have grown : ∀ (dict : Dict κ α),
      entry ∈ (pairs.foldl (fun dict pair => dict.set pair.1 pair.2) dict).entries →
        entry ∈ dict.entries ∨ entry ∈ pairs := by
    clear member
    induction pairs with
    | nil => exact fun _ held => .inl held
    | cons pair rest ih =>
      intro dict held
      rcases ih _ held with inside | later
      · rcases DictEntries.mem_insert _ _ _ inside with rfl | older
        · exact .inr List.mem_cons_self
        · exact .inl older
      · exact .inr (List.mem_cons_of_mem _ later)
  exact (grown _ member).resolve_left (by simp [empty])

private theorem foldl_set_entries (pairs : List (κ × α)) (dict : Dict κ α) :
    (pairs.foldl (fun dict pair => dict.set pair.1 pair.2) dict).entries =
      pairs.foldl (fun entries pair => DictEntries.insert pair.1 pair.2 entries) dict.entries := by
  induction pairs generalizing dict with
  | nil => rfl
  | cons pair rest ih => exact ih _

/-- The last pair of a key is the one a lookup finds. -/
theorem get?_ofList (pairs : List (κ × α)) (key : κ) :
    (ofList pairs).get? key = DictEntries.lookup key pairs.reverse := by
  rw [get?, ofList, foldl_set_entries, DictEntries.lookup_foldl_insert]
  cases DictEntries.lookup key pairs.reverse <;> rfl

private theorem entries_foldl_set (pairs : List (κ × α)) (dict : Dict κ α)
    (distinct : (dict.entries ++ pairs |>.map Prod.fst).Nodup) :
    (pairs.foldl (fun dict pair => dict.set pair.1 pair.2) dict).entries = dict.entries ++ pairs := by
  induction pairs generalizing dict with
  | nil => simp
  | cons pair rest ih =>
    have fresh : pair.1 ∉ dict.entries.map Prod.fst := by
      rw [List.map_append, List.nodup_append'] at distinct
      exact fun old => distinct.2.2 old List.mem_cons_self
    have appended : (dict.set pair.1 pair.2).entries = dict.entries ++ [pair] :=
      DictEntries.insert_fresh _ _ _ fresh
    rw [List.foldl_cons, ih, appended, List.append_assoc, List.singleton_append]
    rwa [appended, List.append_assoc, List.singleton_append]

/-- Pairs with distinct keys are the entries, in their order. -/
theorem entries_ofList {pairs : List (κ × α)} (distinct : (pairs.map Prod.fst).Nodup) :
    (ofList pairs).entries = pairs :=
  entries_foldl_set pairs empty distinct

end Dict
end ModelPilot
