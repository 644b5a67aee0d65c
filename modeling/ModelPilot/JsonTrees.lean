import Mathlib.Data.List.Perm.Subperm
import ModelPilot.Dict

/-! JSON trees over any texts and any spelling of numbers, and the values they denote:
objects are maps from their names, and numbers are what they measure. -/
namespace ModelPilot

/-- A tree keeps the order of its members and how its numbers are spelled. -/
inductive JsonTree (τ ν : Type) where
  | null
  | bool (value : Bool)
  | number (value : ν)
  | str (text : τ)
  | arr (items : List (JsonTree τ ν))
  | obj (members : List (τ × JsonTree τ ν))

/-- A value does not. -/
inductive JsonValue (τ μ : Type) where
  | null
  | bool (value : Bool)
  | number (value : μ)
  | str (text : τ)
  | arr (items : List (JsonValue τ μ))
  | obj (members : τ → Option (JsonValue τ μ))

namespace JsonTree

/-- Induction over a tree, its items and its members. -/
theorem induction {motive : JsonTree τ ν → Prop} (null : motive .null)
    (bool : ∀ value, motive (.bool value)) (number : ∀ value, motive (.number value))
    (str : ∀ text, motive (.str text))
    (arr : ∀ items, (∀ item ∈ items, motive item) → motive (.arr items))
    (obj : ∀ members, (∀ member ∈ members, motive member.2) → motive (.obj members))
    (tree : JsonTree τ ν) : motive tree :=
  tree.rec (motive_1 := motive) (motive_2 := fun items => ∀ item ∈ items, motive item)
    (motive_3 := fun members => ∀ member ∈ members, motive member.2)
    (motive_4 := fun member => motive member.2)
    null bool number str arr obj (by simp)
    (fun _ _ first rest => List.forall_mem_cons.mpr ⟨first, rest⟩) (by simp)
    (fun _ _ first rest => List.forall_mem_cons.mpr ⟨first, rest⟩) (fun _ _ inside => inside)

/-- No object repeats a name, and every number is allowed. -/
inductive WellFormed {τ ν : Type} (allowed : ν → Prop) : JsonTree τ ν → Prop where
  | null : WellFormed allowed .null
  | bool (value : Bool) : WellFormed allowed (.bool value)
  | number (holds : allowed value) : WellFormed allowed (.number value)
  | str (text : τ) : WellFormed allowed (.str text)
  | arr (inside : ∀ item ∈ items, WellFormed allowed item) : WellFormed allowed (.arr items)
  | obj {members : List (τ × JsonTree τ ν)} (distinct : (members.map Prod.fst).Nodup)
      (inside : ∀ member ∈ members, WellFormed allowed member.2) : WellFormed allowed (.obj members)

section Formed
variable {allowed : ν → Prop}

theorem wellFormed_number_iff :
    (JsonTree.number value : JsonTree τ ν).WellFormed allowed ↔ allowed value := by
  refine ⟨fun formed => ?_, .number⟩
  cases formed with
  | number holds => exact holds

theorem wellFormed_arr_iff {items : List (JsonTree τ ν)} :
    (JsonTree.arr items).WellFormed allowed ↔ ∀ item ∈ items, item.WellFormed allowed := by
  refine ⟨fun formed => ?_, .arr⟩
  cases formed with
  | arr inside => exact inside

theorem wellFormed_obj_iff {members : List (τ × JsonTree τ ν)} :
    (JsonTree.obj members).WellFormed allowed ↔
      (members.map Prod.fst).Nodup ∧ ∀ member ∈ members, member.2.WellFormed allowed := by
  refine ⟨fun formed => ?_, fun formed => .obj formed.1 formed.2⟩
  cases formed with
  | obj distinct inside => exact ⟨distinct, inside⟩

theorem WellFormed.mono {permitted : ν → Prop} {tree : JsonTree τ ν}
    (weaker : ∀ value, allowed value → permitted value) (formed : tree.WellFormed allowed) :
    tree.WellFormed permitted := by
  induction formed with
  | null => exact .null
  | bool value => exact .bool value
  | number holds => exact .number (weaker _ holds)
  | str text => exact .str text
  | arr _ ih => exact .arr ih
  | obj distinct _ ih => exact .obj distinct ih

end Formed

section Meaning
variable [DecidableEq τ]

mutual

/-- The value of a tree. -/
def denote (measure : ν → μ) : JsonTree τ ν → JsonValue τ μ
  | .null => .null
  | .bool value => .bool value
  | .number value => .number (measure value)
  | .str text => .str text
  | .arr items => .arr (denoteItems measure items)
  | .obj members => .obj fun name => DictEntries.lookup name (denoteMembers measure members)

def denoteItems (measure : ν → μ) : List (JsonTree τ ν) → List (JsonValue τ μ)
  | [] => []
  | item :: items => item.denote measure :: denoteItems measure items

def denoteMembers (measure : ν → μ) : List (τ × JsonTree τ ν) → List (τ × JsonValue τ μ)
  | [] => []
  | (name, tree) :: members => (name, tree.denote measure) :: denoteMembers measure members

end

variable {measure : ν → μ}

@[simp] theorem denoteItems_eq (items : List (JsonTree τ ν)) :
    denoteItems measure items = items.map (denote measure) := by
  induction items with
  | nil => rfl
  | cons item rest ih => rw [denoteItems, ih, List.map_cons]

@[simp] theorem denoteMembers_eq (members : List (τ × JsonTree τ ν)) :
    denoteMembers measure members = members.map (Prod.map id (denote measure)) := by
  induction members with
  | nil => rfl
  | cons member rest ih =>
    obtain ⟨name, tree⟩ := member
    rw [denoteMembers, ih]
    rfl

/-- The names of an object stay as they are. -/
@[simp] theorem names_denoted (members : List (τ × JsonTree τ ν)) :
    (members.map (Prod.map id (denote measure))).map Prod.fst = members.map Prod.fst := by
  simp

/-- Objects denote one map when their names are the same, and so is the value of each. -/
theorem obj_denote_iff {left : List (τ × JsonTree τ ν)} {right : List (τ × JsonTree τ ν)}
    (once : (left.map Prod.fst).Nodup) (also : (right.map Prod.fst).Nodup) :
    (JsonTree.obj left).denote measure = (JsonTree.obj right).denote measure ↔
      left.length = right.length ∧ ∀ member ∈ left, ∃ tree,
        DictEntries.lookup member.1 right = some tree ∧
          member.2.denote measure = tree.denote measure := by
  simp only [denote, denoteMembers_eq, JsonValue.obj.injEq, funext_iff, DictEntries.lookup_map]
  constructor
  · intro same
    have names : ∀ name, name ∈ left.map Prod.fst ↔ name ∈ right.map Prod.fst := by
      intro name
      rw [← DictEntries.lookup_isSome_iff, ← DictEntries.lookup_isSome_iff]
      simpa using congrArg Option.isSome (same name)
    refine ⟨?_, fun member held => ?_⟩
    · have length := ((List.perm_ext_iff_of_nodup once also).mpr names).length_eq
      rwa [List.length_map, List.length_map] at length
    · have found := same member.1
      rw [(DictEntries.lookup_eq_some_iff once).mpr held, Option.map_some, eq_comm,
        Option.map_eq_some_iff] at found
      obtain ⟨tree, found, denoted⟩ := found
      exact ⟨tree, found, denoted.symm⟩
  · rintro ⟨length, each⟩ name
    have listed : left.map Prod.fst ⊆ right.map Prod.fst := by
      intro known inside
      obtain ⟨member, held, rfl⟩ := List.mem_map.mp inside
      obtain ⟨tree, found, _⟩ := each member held
      exact (DictEntries.lookup_isSome_iff _ _).mp (found ▸ rfl)
    -- as many names on both sides: the right one has no other
    have names := (List.Nodup.subperm once listed).perm_of_length_le (by simp [length])
    cases held : DictEntries.lookup name left with
    | some value =>
      obtain ⟨tree, found, denoted⟩ := each _ ((DictEntries.lookup_eq_some_iff once).mp held)
      rw [found, Option.map_some, Option.map_some, denoted]
    | none =>
      have absent : name ∉ right.map Prod.fst := by
        rw [← names.mem_iff, ← DictEntries.lookup_isSome_iff, held]
        exact Bool.false_ne_true
      rw [← DictEntries.lookup_isSome_iff, Bool.not_eq_true, Option.isSome_eq_false_iff,
        Option.isNone_iff_eq_none] at absent
      rw [absent]

end Meaning

/-- Members in another order, and numbers spelled in the same way or another. -/
inductive Respelled {τ ν : Type} (same : ν → ν → Prop) : JsonTree τ ν → JsonTree τ ν → Prop where
  | refl (tree : JsonTree τ ν) : Respelled same tree tree
  | number (spelled : same value other) : Respelled same (.number value) (.number other)
  | item (inside : Respelled same tree other) :
      Respelled same (.arr (before ++ tree :: after)) (.arr (before ++ other :: after))
  | member (inside : Respelled same tree other) :
      Respelled same (.obj (before ++ (name, tree) :: after))
        (.obj (before ++ (name, other) :: after))
  | reorder (shuffled : members.Perm others) : Respelled same (.obj members) (.obj others)
  | trans (first : Respelled same tree middle) (second : Respelled same middle other) :
      Respelled same tree other

namespace Respelled
variable {tree other : JsonTree τ ν}

/-- Other spellings of allowed numbers that are allowed keep a tree well formed. -/
theorem wellFormed {same : ν → ν → Prop} {allowed : ν → Prop}
    (kept : ∀ value another, same value another → allowed value → allowed another)
    (respelled : Respelled same tree other) (formed : tree.WellFormed allowed) :
    other.WellFormed allowed := by
  induction respelled with
  | refl => exact formed
  | number spelled =>
    rw [wellFormed_number_iff] at formed ⊢
    exact kept _ _ spelled formed
  | item _ ih =>
    rw [wellFormed_arr_iff, List.forall_mem_append, List.forall_mem_cons] at formed ⊢
    obtain ⟨before, held, after⟩ := formed
    exact ⟨before, ih held, after⟩
  | member _ ih =>
    rw [wellFormed_obj_iff, List.forall_mem_append, List.forall_mem_cons] at formed ⊢
    obtain ⟨distinct, before, held, after⟩ := formed
    exact ⟨by simpa using distinct, before, ih held, after⟩
  | reorder shuffled =>
    rw [wellFormed_obj_iff] at formed ⊢
    exact ⟨(shuffled.map Prod.fst).nodup_iff.mp formed.1,
      fun member held => formed.2 member (shuffled.mem_iff.mpr held)⟩
  | trans _ _ first second => exact second (first formed)

/-- A respelled tree denotes the same value. -/
theorem denote_eq [DecidableEq τ] {measure : ν → μ}
    (respelled : Respelled (fun value another => measure value = measure another) tree other)
    (formed : tree.WellFormed fun _ => True) : tree.denote measure = other.denote measure := by
  induction respelled with
  | refl => rfl
  | number spelled => simp only [denote, spelled]
  | item _ ih =>
    have held := ih (wellFormed_arr_iff.mp formed _ (List.mem_append_right _ List.mem_cons_self))
    simp only [denote, denoteItems_eq, List.map_append, List.map_cons, held]
  | member _ ih =>
    have held := ih ((wellFormed_obj_iff.mp formed).2 _
      (List.mem_append_right _ List.mem_cons_self))
    simp only [denote, denoteMembers_eq, List.map_append, List.map_cons, Prod.map_apply, held]
  | reorder shuffled =>
    simp only [denote, denoteMembers_eq, JsonValue.obj.injEq]
    funext name
    refine DictEntries.lookup_perm ?_ (shuffled.map _)
    rw [names_denoted]
    exact (wellFormed_obj_iff.mp formed).1
  | trans first _ one two =>
    exact (one formed).trans (two (first.wellFormed (fun _ _ _ holds => holds) formed))

end Respelled
end JsonTree
end ModelPilot
