import Mathlib.Data.List.Lex
import Mathlib.Data.String.Basic

/-! Fixed-width decimal fields. Text made of such fields sorts as the fields
do, most significant first, and reads back digit by digit. -/
namespace ModelPilot.FixedWidth

/-- `n` in exactly `width` decimal digits. -/
def padded : Nat → Nat → List Char
  | 0, _ => []
  | width + 1, n => Nat.digitChar (n / 10 ^ width % 10) :: padded width (n % 10 ^ width)

/-- Read `width` digits, and the text behind them. -/
def readDigits : Nat → List Char → Option (Nat × List Char)
  | 0, text => some (0, text)
  | _ + 1, [] => none
  | width + 1, char :: text =>
    if char.isDigit then
      (readDigits width text).map fun read =>
        ((char.toNat - 48) * 10 ^ width + read.1, read.2)
    else none

/-- Read one expected character. -/
def readChar (expected : Char) : List Char → Option (List Char)
  | char :: text => if char = expected then some text else none
  | [] => none

variable {width a b n : Nat} {left right rest : List Char}

theorem digitChar_lt (small : a < b) (bound : b < 10) : Nat.digitChar a < Nat.digitChar b := by
  rw [Char.lt_def, UInt32.lt_iff_toNat_lt]
  have first := Nat.toNat_digitChar_of_lt_ten (show a < 10 by omega)
  have second := Nat.toNat_digitChar_of_lt_ten bound
  simp only [Char.toNat] at first second
  omega

theorem digitChar_isDigit (bound : n < 10) : (Nat.digitChar n).isDigit = true := by
  have all : ∀ digit < 10, (Nat.digitChar digit).isDigit = true := by decide
  exact all n bound

/-- A smaller field decides the order, whatever follows. -/
theorem padded_lt (small : a < b) (bound : b < 10 ^ width) :
    padded width a ++ left < padded width b ++ right := by
  induction width generalizing a b with
  | zero => simp at bound; omega
  | succ width ih =>
    have positive : 0 < 10 ^ width := Nat.pow_pos (by decide)
    have quotient : b / 10 ^ width < 10 := by
      rw [Nat.div_lt_iff_lt_mul positive, Nat.mul_comm, ← Nat.pow_succ]
      exact bound
    have ordered : a / 10 ^ width ≤ b / 10 ^ width := Nat.div_le_div_right (by omega)
    simp only [padded, List.cons_append]
    rw [Nat.mod_eq_of_lt quotient, Nat.mod_eq_of_lt (by omega)]
    rcases Nat.lt_or_eq_of_le ordered with lower | same
    · exact List.Lex.rel (digitChar_lt lower quotient)
    · rw [same]
      refine List.Lex.cons (ih ?_ (Nat.mod_lt _ positive))
      have first := Nat.div_add_mod a (10 ^ width)
      have second := Nat.div_add_mod b (10 ^ width)
      rw [same] at first
      omega

/-- An equal field leaves the order to what follows. -/
theorem padded_append_lt (later : left < right) :
    padded width n ++ left < padded width n ++ right :=
  List.append_left_lt later

theorem cons_lt (char : Char) (later : left < right) : char :: left < char :: right :=
  List.Lex.cons later

@[simp] theorem readDigits_padded (bound : n < 10 ^ width) :
    readDigits width (padded width n ++ rest) = some (n, rest) := by
  induction width generalizing n with
  | zero =>
    have zero : n = 0 := by simpa using bound
    simp [padded, readDigits, zero]
  | succ width ih =>
    have positive : 0 < 10 ^ width := Nat.pow_pos (by decide)
    have quotient : n / 10 ^ width < 10 := by
      rw [Nat.div_lt_iff_lt_mul positive, Nat.mul_comm, ← Nat.pow_succ]
      exact bound
    rw [padded, List.cons_append, readDigits, Nat.mod_eq_of_lt quotient,
      if_pos (digitChar_isDigit quotient), ih (Nat.mod_lt _ positive),
      Option.map_some, Nat.toNat_digitChar_sub_48_of_lt_ten quotient, Nat.mul_comm,
      Nat.div_add_mod]

@[simp] theorem readChar_cons (char : Char) : readChar char (char :: rest) = some rest := by
  simp [readChar]

end ModelPilot.FixedWidth
