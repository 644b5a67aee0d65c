import Mathlib.Computability.RegularExpressions

/-! Regular expressions with classes, options and repetitions, over any alphabet. -/
namespace ModelPilot.Patterns
open RegularExpression

variable {α : Type} [DecidableEq α] {letters text : List α} {pattern : RegularExpression α}

/-- A class of letters. -/
def oneOf : List α → RegularExpression α
  | [] => 0
  | letter :: rest => char letter + oneOf rest

def optional (pattern : RegularExpression α) : RegularExpression α := pattern + 1

/-- One or more letters of a class. -/
def several (letters : List α) : RegularExpression α := oneOf letters * (oneOf letters).star

theorem oneOf_iff : (oneOf letters).rmatch text = true ↔ ∃ letter ∈ letters, text = [letter] := by
  induction letters with
  | nil => simp [oneOf]
  | cons letter rest ih =>
    rw [oneOf, add_rmatch_iff, char_rmatch_iff, ih]
    simp

theorem optional_iff :
    (optional pattern).rmatch text = true ↔ pattern.rmatch text = true ∨ text = [] := by
  rw [optional, add_rmatch_iff, one_rmatch_iff]

/-- Any number of letters of a class. -/
theorem star_iff :
    (oneOf letters).star.rmatch text = true ↔ ∀ letter ∈ text, letter ∈ letters := by
  rw [star_rmatch_iff]
  constructor
  · rintro ⟨words, rfl, each⟩ letter member
    obtain ⟨word, inside, here⟩ := List.mem_flatten.mp member
    obtain ⟨other, listed, rfl⟩ := oneOf_iff.mp (each word inside).2
    rwa [List.mem_singleton.mp here]
  · intro listed
    refine ⟨text.map fun letter => [letter], ?_, ?_⟩
    · induction text with
      | nil => rfl
      | cons letter rest ih =>
        rw [List.map_cons, List.flatten_cons, ← ih fun other member =>
          listed other (List.mem_cons_of_mem _ member)]
        rfl
    · intro word member
      obtain ⟨letter, inside, rfl⟩ := List.mem_map.mp member
      exact ⟨List.cons_ne_nil _ _, oneOf_iff.mpr ⟨letter, listed letter inside, rfl⟩⟩

theorem several_iff :
    (several letters).rmatch text = true ↔ text ≠ [] ∧ ∀ letter ∈ text, letter ∈ letters := by
  rw [several, mul_rmatch_iff]
  constructor
  · rintro ⟨first, rest, rfl, begins, continues⟩
    obtain ⟨letter, listed, rfl⟩ := oneOf_iff.mp begins
    rw [List.singleton_append]
    exact ⟨List.cons_ne_nil _ _, List.forall_mem_cons.mpr ⟨listed, star_iff.mp continues⟩⟩
  · rintro ⟨nonempty, listed⟩
    obtain ⟨letter, rest, rfl⟩ := List.exists_cons_of_ne_nil nonempty
    obtain ⟨first, others⟩ := List.forall_mem_cons.mp listed
    exact ⟨[letter], rest, rfl, oneOf_iff.mpr ⟨letter, first, rfl⟩, star_iff.mpr others⟩

end ModelPilot.Patterns
