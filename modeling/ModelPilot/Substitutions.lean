import Mathlib.Data.List.Infix

/-! Replacing pieces of a text by a marker, from left to right. A piece that replacement
removes does not come back where the replaced pieces met their surroundings, as long as
it shares no end letter with the marker: neither by the same replacement nor by any
later one. -/
namespace ModelPilot.Substitutions

/-! ### Patterns -/

/-- A regular expression that is matched by backtracking: `many` tries the longest match
first, and `choice` its first alternative. -/
inductive Pattern (α : Type) where
  | empty
  | boundary (word : α → Bool)
  | letter (accepts : α → Bool)
  | many (accepts : α → Bool)
  | sequence (first second : Pattern α)
  | choice (first second : Pattern α)

/-- A place in a text: the letter before it, and what comes behind it. -/
structure Place (α : Type) where
  before : Option α
  rest : List α

namespace Pattern
variable {α : Type}

/-- The ends of a repetition, the longest first. -/
def manyEnds (accepts : α → Bool) : Option α → List α → List (Place α)
  | before, [] => [⟨before, []⟩]
  | before, next :: rest =>
    if accepts next then manyEnds accepts (some next) rest ++ [⟨before, next :: rest⟩]
    else [⟨before, next :: rest⟩]

/-- The places where a match may end, in the order in which they are tried. -/
def ends : Pattern α → Place α → List (Place α)
  | empty, place => [place]
  | boundary word, place =>
    if place.before.any word = place.rest.head?.any word then [] else [place]
  | letter _, ⟨_, []⟩ => []
  | letter accepts, ⟨_, next :: rest⟩ => if accepts next then [⟨some next, rest⟩] else []
  | many accepts, place => manyEnds accepts place.before place.rest
  | sequence first second, place => (first.ends place).flatMap second.ends
  | choice first second, place => first.ends place ++ second.ends place

/-- A letter, or none. -/
def optional (accepts : α → Bool) : Pattern α := choice (letter accepts) empty

/-- One or more letters. -/
def several (accepts : α → Bool) : Pattern α := sequence (letter accepts) (many accepts)

/-- One letter after the other. -/
def letters (accepts : List (α → Bool)) : Pattern α :=
  accepts.foldr (fun first rest => sequence (letter first) rest) empty

/-- The length of the match at a place. -/
def matchLength (pattern : Pattern α) (before : Option α) (text : List α) : Option Nat :=
  (pattern.ends ⟨before, text⟩).head?.map fun place => text.length - place.rest.length

/-- Every match has a letter at least. -/
def consumes : Pattern α → Bool
  | letter _ => true
  | sequence first second => first.consumes || second.consumes
  | choice first second => first.consumes && second.consumes
  | _ => false

section Ends
variable {accepts : α → Bool} {before : Option α} {text : List α} {pattern : Pattern α}
  {place after : Place α}

theorem manyEnds_suffix (ending : after ∈ manyEnds accepts before text) :
    after.rest <:+ text := by
  induction text generalizing before with
  | nil =>
    obtain rfl := List.mem_singleton.mp ending
    exact List.suffix_rfl
  | cons next rest ih =>
    unfold manyEnds at ending
    split at ending
    · rcases List.mem_append.mp ending with longer | none_
      · exact List.suffix_cons_iff.mpr (.inr (ih longer))
      · obtain rfl := List.mem_singleton.mp none_
        exact List.suffix_rfl
    · obtain rfl := List.mem_singleton.mp ending
      exact List.suffix_rfl

theorem mem_ends_letter (ending : after ∈ (letter accepts).ends place) :
    ∃ next, place.rest = next :: after.rest := by
  rcases place with ⟨before, _ | ⟨next, rest⟩⟩
  · cases ending
  · unfold ends at ending
    split at ending
    · obtain rfl := List.mem_singleton.mp ending
      exact ⟨next, rfl⟩
    · cases ending

/-- A match is the beginning of the text. -/
theorem ends_suffix (ending : after ∈ pattern.ends place) : after.rest <:+ place.rest := by
  induction pattern generalizing place after with
  | empty =>
    obtain rfl := List.mem_singleton.mp ending
    exact List.suffix_rfl
  | boundary word =>
    unfold ends at ending
    split at ending
    · cases ending
    · obtain rfl := List.mem_singleton.mp ending
      exact List.suffix_rfl
  | letter accepts =>
    obtain ⟨next, text⟩ := mem_ends_letter ending
    rw [text]
    exact List.suffix_cons _ _
  | many accepts => exact manyEnds_suffix ending
  | sequence first second firstIh secondIh =>
    obtain ⟨middle, reached, ending⟩ := List.mem_flatMap.mp ending
    exact (secondIh ending).trans (firstIh reached)
  | choice first second firstIh secondIh =>
    rcases List.mem_append.mp ending with ending | ending
    · exact firstIh ending
    · exact secondIh ending

theorem ends_shorter (consumes : pattern.consumes = true) (ending : after ∈ pattern.ends place) :
    after.rest.length < place.rest.length := by
  induction pattern generalizing place after with
  | letter accepts =>
    obtain ⟨next, text⟩ := mem_ends_letter ending
    rw [text]
    exact Nat.lt_succ_self _
  | sequence first second firstIh secondIh =>
    obtain ⟨middle, reached, ending⟩ := List.mem_flatMap.mp ending
    have early := (ends_suffix reached).length_le
    have late := (ends_suffix ending).length_le
    rcases Bool.or_eq_true_iff.mp consumes with consumes | consumes
    · exact Nat.lt_of_le_of_lt late (firstIh consumes reached)
    · exact Nat.lt_of_lt_of_le (secondIh consumes ending) early
  | choice first second firstIh secondIh =>
    obtain ⟨one, other⟩ := Bool.and_eq_true_iff.mp consumes
    rcases List.mem_append.mp ending with ending | ending
    · exact firstIh one ending
    · exact secondIh other ending
  | _ => cases consumes

/-- The matches of a consuming pattern are not empty. -/
theorem matchLength_pos (consumes : pattern.consumes = true)
    (matched : pattern.matchLength before text = some length) : 0 < length := by
  obtain ⟨after, first, rfl⟩ := Option.map_eq_some_iff.mp matched
  have shorter := ends_shorter consumes (List.mem_of_head? first)
  exact Nat.sub_pos_of_lt shorter

end Ends
end Pattern

/-! ### Substitution -/

section Substitution
variable {α : Type}

/-- The text with every found piece replaced, searching on behind each of them. `skip`
letters belong to the piece before; a piece has at least one letter. -/
def substitute (found : Option α → List α → Option Nat) (marker : List α) :
    Option α → Nat → List α → List α
  | _, _, [] => []
  | _, skip + 1, letter :: rest => substitute found marker (some letter) skip rest
  | before, 0, letter :: rest =>
    match found before (letter :: rest) with
    | some (more + 1) => marker ++ substitute found marker (some letter) more rest
    | _ => letter :: substitute found marker (some letter) 0 rest

/-- `pattern.sub(marker, text)`, for a pattern whose matches are not empty. -/
def Pattern.sub (pattern : Pattern α) (marker text : List α) : List α :=
  substitute pattern.matchLength marker none 0 text

/-- The length of a piece where the text has it. -/
def pieceAt [DecidableEq α] (piece : List α) (_before : Option α) (text : List α) : Option Nat :=
  if piece <+: text then some piece.length else none

/-- `text.replace(piece, marker)`, for a piece that is not empty. -/
def replace [DecidableEq α] (piece marker text : List α) : List α :=
  substitute (pieceAt piece) marker none 0 text

/-- The second text is the first with some pieces, none overlapping another, replaced by
the marker. -/
inductive Redacts (marker : List α) : List α → List α → Prop where
  | done : Redacts marker [] []
  | keep (letter : α) (rest : Redacts marker text result) :
      Redacts marker (letter :: text) (letter :: result)
  | cut (piece : List α) (rest : Redacts marker text result) :
      Redacts marker (piece ++ text) (marker ++ result)

variable {left : α} {marker secret text result word : List α}

theorem substitute_redacts (found : Option α → List α → Option Nat) (marker : List α)
    (before : Option α) (skip : Nat) (text : List α) :
    Redacts marker (text.drop skip) (substitute found marker before skip text) := by
  induction text generalizing before skip with
  | nil =>
    rw [List.drop_nil]
    exact .done
  | cons letter rest ih =>
    cases skip with
    | succ skip => exact ih (some letter) skip
    | zero =>
      unfold substitute
      split
      · rename_i more _
        have cut := Redacts.cut ((letter :: rest).take (more + 1)) (ih (some letter) more)
        rwa [List.take_succ_cons, List.cons_append, List.take_append_drop] at cut
      · exact .keep letter (ih (some letter) 0)

theorem sub_redacts (pattern : Pattern α) (marker text : List α) :
    Redacts marker text (pattern.sub marker text) := substitute_redacts _ marker none 0 text

theorem replace_redacts [DecidableEq α] (piece marker text : List α) :
    Redacts marker text (replace piece marker text) := substitute_redacts _ marker none 0 text

/-! ### Secrets -/

/-- A secret apart from the marker: it has neither end letter of the marker, and does not
occur in it. -/
structure Apart (marker secret : List α) : Prop where
  opens : ∃ left inner, marker = left :: inner ∧ left ∉ secret
  closes : ∃ inner right, marker = inner ++ [right] ∧ right ∉ secret
  outside : ¬ secret <:+: marker

namespace Apart

theorem nonempty (apart : Apart marker secret) : secret ≠ [] := by
  rintro rfl
  exact apart.outside List.nil_infix

/-- An occurrence does not reach from the marker into what follows it. -/
theorem infix_of_append (apart : Apart marker secret) (occurs : secret <:+: marker ++ result) :
    secret <:+: result := by
  rcases List.infix_append_iff_ne_nil.mp occurs with inside | behind | across
  · exact absurd inside apart.outside
  · exact behind
  · obtain ⟨head, tail, nonempty, _, rfl, ending, _⟩ := across
    obtain ⟨inner, right, rfl, absent⟩ := apart.closes
    rcases List.suffix_concat_iff.mp ending with rfl | ⟨start, rfl, _⟩
    · exact absurd rfl nonempty
    · exact absurd (by simp) absent

end Apart

/-- What begins a redacted text without the marker's first letter began the text. -/
theorem Redacts.began (redacts : Redacts (left :: marker) text result)
    (absent : left ∉ word) (begins : word <+: result) : word <+: text := by
  induction redacts generalizing word with
  | done => exact begins
  | keep letter _ ih =>
    cases word with
    | nil => exact List.nil_prefix
    | cons first word =>
      obtain ⟨same, begins⟩ := List.cons_prefix_cons.mp begins
      rw [List.mem_cons, not_or] at absent
      exact List.cons_prefix_cons.mpr ⟨same, ih absent.2 begins⟩
  | cut piece _ _ =>
    cases word with
    | nil => exact List.nil_prefix
    | cons first word =>
      obtain ⟨same, _⟩ := List.cons_prefix_cons.mp begins
      rw [List.mem_cons, not_or] at absent
      exact absurd same.symm absent.1

/-- Redaction makes no new occurrence of a secret. -/
theorem Redacts.occurred (apart : Apart marker secret) (redacts : Redacts marker text result)
    (occurs : secret <:+: result) : secret <:+: text := by
  induction redacts with
  | done => exact occurs
  | keep letter rest ih =>
    rcases List.infix_cons_iff.mp occurs with begins | behind
    · obtain ⟨left, inner, rfl, absent⟩ := apart.opens
      exact ((Redacts.keep letter rest).began absent begins).isInfix
    · exact List.infix_cons (ih behind)
  | cut piece _ ih => exact List.infix_append_of_infix_right (ih (apart.infix_of_append occurs))

theorem Redacts.refl (marker text : List α) : Redacts marker text text := by
  induction text with
  | nil => exact .done
  | cons letter rest ih => exact .keep letter ih

/-- No number of redactions brings a secret in. -/
theorem not_infix_foldl {step : List α → β → List α} (apart : Apart marker secret)
    (redacts : ∀ text item, Redacts marker text (step text item)) (absent : ¬ secret <:+: text)
    (items : List β) : ¬ secret <:+: items.foldl step text := by
  induction items generalizing text with
  | nil => exact absent
  | cons item rest ih => exact ih (mt ((redacts text item).occurred apart) absent)

theorem not_infix_substitute [DecidableEq α] (apart : Apart marker secret) (before : Option α)
    (skip : Nat) (text : List α) :
    ¬ secret <:+: substitute (pieceAt secret) marker before skip text := by
  induction text generalizing before skip with
  | nil => exact fun occurs => apart.nonempty (List.infix_nil.mp occurs)
  | cons letter rest ih =>
    cases skip with
    | succ skip => exact ih (some letter) skip
    | zero =>
      unfold substitute
      by_cases here : secret <+: letter :: rest
      · obtain ⟨more, length⟩ := Nat.exists_eq_succ_of_ne_zero
          (mt List.length_eq_zero_iff.mp apart.nonempty)
        simp only [pieceAt, if_pos here, length]
        exact fun occurs => ih (some letter) more (apart.infix_of_append occurs)
      · simp only [pieceAt, if_neg here]
        intro occurs
        rcases List.infix_cons_iff.mp occurs with begins | behind
        · obtain ⟨left, inner, rfl, absent⟩ := apart.opens
          have redacts := substitute_redacts (pieceAt secret) (left :: inner) (some letter) 0 rest
          exact here ((redacts.keep letter).began absent begins)
        · exact ih (some letter) 0 behind

/-- A replaced secret is gone. -/
theorem not_infix_replace [DecidableEq α] (apart : Apart marker secret) (text : List α) :
    ¬ secret <:+: replace secret marker text :=
  not_infix_substitute apart none 0 text

end Substitution
end ModelPilot.Substitutions
