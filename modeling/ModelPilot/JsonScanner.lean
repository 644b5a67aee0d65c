import ModelPilot.JsonTrees
import ModelPilot.NumericAnswers

/-! The scanner of `json.loads`, before the hooks of a document: values as they are
spelled. How deep the interpreter recurses is not limited here. -/
namespace ModelPilot

/-- A Python text: its code points, which may be surrogates. -/
abbrev PyText := List Nat

/-- A number as it is spelled, or a constant that JSON does not have. -/
inductive NumberSpelling where
  | integer (text : List Char)
  | fraction (text : List Char)
  | constant (name : String)

namespace NumberSpelling

def text : NumberSpelling → List Char
  | .integer text => text
  | .fraction text => text
  | .constant name => name.toList

/-- The number it spells. -/
def value : NumberSpelling → Option ℚ
  | .integer text => some (powerOf text)
  | .fraction text => some (Decimal.ofText text).toRat
  | .constant _ => none

end NumberSpelling

/-- What the scanner reads, before the hooks. -/
abbrev JsonSpelling := JsonTree PyText NumberSpelling

namespace JsonScanner

def isSpace (char : Char) : Bool := char ∈ [' ', '\t', '\n', '\r']

def skipSpace (text : List Char) : List Char := text.dropWhile isSpace

def hexValue (char : Char) : Option Nat :=
  if char.isDigit then some (char.toNat - 48)
  else if 'a' ≤ char ∧ char ≤ 'f' then some (char.toNat - 87)
  else if 'A' ≤ char ∧ char ≤ 'F' then some (char.toNat - 55)
  else none

/-- The code unit of a `\u` escape. -/
def codeUnit (a b c d : Char) : Option Nat := do
  let a ← hexValue a
  let b ← hexValue b
  let c ← hexValue c
  let d ← hexValue d
  some (((a * 16 + b) * 16 + c) * 16 + d)

/-- The other escapes. -/
def escaped (letter : Char) : Option Nat :=
  [('"', 34), ('\\', 92), ('/', 47), ('b', 8), ('f', 12), ('n', 10), ('r', 13), ('t', 9)].lookup
    letter

/-- The rest of a string literal, up to its closing quote. Control characters are
refused. -/
def scanString : List Char → Option (PyText × List Char)
  | [] => none
  | '"' :: rest => some ([], rest)
  | '\\' :: 'u' :: a :: b :: c :: d :: rest => do
    let unit ← codeUnit a b c d
    let (text, rest) ← scanString rest
    some (unit :: text, rest)
  | '\\' :: letter :: rest => do
    let point ← escaped letter
    let (text, rest) ← scanString rest
    some (point :: text, rest)
  | '\\' :: [] => none
  | char :: rest =>
    if char.toNat < 32 then none
    else do
      let (text, rest) ← scanString rest
      some (char.toNat :: text, rest)

/-- Escaped surrogate pairs are one code point; other surrogates stay. -/
def joinSurrogates : PyText → PyText
  | high :: low :: rest =>
    if 0xd800 ≤ high ∧ high ≤ 0xdbff ∧ 0xdc00 ≤ low ∧ low ≤ 0xdfff then
      (0x10000 + (high - 0xd800) * 0x400 + (low - 0xdc00)) :: joinSurrogates rest
    else high :: joinSurrogates (low :: rest)
  | text => text

/-- The name of a member, up to its value. -/
def scanName : List Char → Option (PyText × List Char)
  | '"' :: rest =>
    match scanString rest with
    | none => none
    | some (name, rest) =>
      match skipSpace rest with
      | ':' :: rest => some (joinSurrogates name, skipSpace rest)
      | _ => none
  | _ => none

def scanWhole : List Char → Option (List Char × List Char)
  | '0' :: rest => some (['0'], rest)
  | text =>
    match text.takeWhile (· ∈ digits) with
    | [] => none
    | whole => some (whole, text.dropWhile (· ∈ digits))

/-- A fraction is read when a digit follows its point. -/
def scanFraction : List Char → List Char × List Char
  | '.' :: rest =>
    match rest.takeWhile (· ∈ digits) with
    | [] => ([], '.' :: rest)
    | fraction => ('.' :: fraction, rest.dropWhile (· ∈ digits))
  | text => ([], text)

def scanSign : List Char → List Char × List Char
  | '+' :: rest => (['+'], rest)
  | '-' :: rest => (['-'], rest)
  | text => ([], text)

/-- An exponent is read when it has a digit. -/
def scanExponent : List Char → List Char × List Char
  | [] => ([], [])
  | mark :: rest =>
    if mark ∈ ['e', 'E'] then
      let (sign, tail) := scanSign rest
      match tail.takeWhile (· ∈ digits) with
      | [] => ([], mark :: rest)
      | power => (mark :: sign ++ power, tail.dropWhile (· ∈ digits))
    else ([], mark :: rest)

def scanMinus : List Char → Bool × List Char
  | '-' :: rest => (true, rest)
  | text => (false, text)

/-- The longest number at the front; with a fraction or an exponent it goes to
`parse_float`. -/
def scanNumber (text : List Char) : Option (NumberSpelling × List Char) :=
  let (negative, unsigned) := scanMinus text
  match scanWhole unsigned with
  | none => none
  | some (whole, rest) =>
    let (fraction, rest) := scanFraction rest
    let (exponent, rest) := scanExponent rest
    let spelled := (if negative then ['-'] else []) ++ whole ++ fraction ++ exponent
    some (if fraction = [] ∧ exponent = [] then .integer spelled else .fraction spelled, rest)

def literals : List (List Char × JsonSpelling) :=
  [("null".toList, .null), ("true".toList, .bool true), ("false".toList, .bool false),
    ("NaN".toList, .number (.constant "NaN")),
    ("Infinity".toList, .number (.constant "Infinity")),
    ("-Infinity".toList, .number (.constant "-Infinity"))]

def scanLiteral (text : List Char) : Option (JsonSpelling × List Char) :=
  literals.findSome? fun literal =>
    if literal.1.isPrefixOf text then some (literal.2, text.drop literal.1.length) else none

/-- Items between commas, up to the closing character. -/
def scanRun (scan : List Char → Option (α × List Char)) (close : Char) :
    Nat → List Char → Option (List α × List Char)
  | 0, _ => none
  | fuel + 1, text => do
    let (item, rest) ← scan text
    match skipSpace rest with
    | [] => none
    | next :: rest =>
      if next = close then some ([item], rest)
      else if next = ',' then
        (scanRun scan close fuel (skipSpace rest)).map fun (items, rest) => (item :: items, rest)
      else none

/-- The content of an array or an object, which may be empty. -/
def scanContent (scan : List Char → Option (α × List Char)) (close : Char) (fuel : Nat)
    (text : List Char) : Option (List α × List Char) :=
  match skipSpace text with
  | [] => none
  | next :: rest =>
    if next = close then some ([], rest) else scanRun scan close fuel (next :: rest)

def scanMember (scan : List Char → Option (α × List Char)) (text : List Char) :
    Option ((PyText × α) × List Char) := do
  let (name, rest) ← scanName text
  let (value, rest) ← scan rest
  some ((name, value), rest)

/-- `scan_once`. -/
def scanOnce : Nat → List Char → Option (JsonSpelling × List Char)
  | 0, _ => none
  | fuel + 1, text =>
    match text with
    | '"' :: rest =>
      (scanString rest).map fun (content, rest) => (.str (joinSurrogates content), rest)
    | '{' :: rest =>
      (scanContent (scanMember (scanOnce fuel)) '}' fuel rest).map fun (pairs, rest) =>
        (.obj pairs, rest)
    | '[' :: rest =>
      (scanContent (scanOnce fuel) ']' fuel rest).map fun (items, rest) => (.arr items, rest)
    | text => (scanLiteral text).orElse fun _ =>
      (scanNumber text).map fun (number, rest) => (.number number, rest)

/-- `json.loads` without its hooks: one value between spaces. -/
def scanDocument (text : String) : Option JsonSpelling := do
  let start := skipSpace text.toList
  let (spelling, rest) ← scanOnce (start.length + 1) start
  if (skipSpace rest).isEmpty then some spelling else none

section Numbers
variable {text rest : List Char}

theorem taken_digits (text : List Char) :
    (∀ digit ∈ text.takeWhile (· ∈ digits), digit ∈ digits) ∧
      text = text.takeWhile (· ∈ digits) ++ text.dropWhile (· ∈ digits) :=
  ⟨fun _ taken => by simpa using List.all_eq_true.mp List.all_takeWhile _ taken,
    List.takeWhile_append_dropWhile.symm⟩

theorem scanWhole_spec (scanned : scanWhole text = some (whole, rest)) :
    WholePart whole ∧ text = whole ++ rest := by
  unfold scanWhole at scanned
  split at scanned
  · cases scanned
    exact ⟨.zero, rfl⟩
  · rename_i nonzero
    obtain ⟨listed, joined⟩ := taken_digits text
    split at scanned
    · cases scanned
    · rename_i nonempty
      cases scanned
      refine ⟨?_, joined⟩
      cases taken : text.takeWhile (· ∈ digits) with
      | nil => exact absurd taken nonempty
      | cons lead later =>
        rw [taken, List.forall_mem_cons] at listed
        refine .run ?_ listed.2
        have leads : lead ≠ '0' := by
          rintro rfl
          rw [taken] at joined
          exact nonzero _ joined
        have choice : ∀ digit ∈ digits, digit ≠ '0' → digit ∈ leadingDigits := by
          simp [digits, leadingDigits]
        exact choice lead listed.1 leads

theorem scanFraction_spec (text : List Char) :
    (∃ fractionDigits, FractionPart (scanFraction text).1 fractionDigits) ∧
      text = (scanFraction text).1 ++ (scanFraction text).2 := by
  unfold scanFraction
  split
  · rename_i rest
    obtain ⟨listed, joined⟩ := taken_digits rest
    split
    · exact ⟨⟨_, .none⟩, rfl⟩
    · rename_i nonempty
      exact ⟨⟨_, .run nonempty listed⟩, congrArg _ joined⟩
  · exact ⟨⟨_, .none⟩, rfl⟩

theorem scanSign_spec (text : List Char) :
    text = (scanSign text).1 ++ (scanSign text).2 ∧
      ((scanSign text).1 = [] ∨ (scanSign text).1 = ['+'] ∨ (scanSign text).1 = ['-']) := by
  unfold scanSign
  split <;> simp

theorem scanExponent_spec (text : List Char) :
    (∃ power, ExponentPart (scanExponent text).1 power) ∧
      text = (scanExponent text).1 ++ (scanExponent text).2 := by
  unfold scanExponent
  split
  · exact ⟨⟨_, .none⟩, rfl⟩
  · rename_i mark rest
    split
    · rename_i marks
      obtain ⟨listed, joined⟩ := taken_digits (scanSign rest).2
      dsimp only
      split
      · exact ⟨⟨_, .none⟩, rfl⟩
      · rename_i nonempty
        obtain ⟨signed, signs⟩ := scanSign_spec rest
        refine ⟨?_, ?_⟩
        · rcases signs with none | plus | minus
          · rw [none]
            exact ⟨_, .unsigned marks nonempty listed⟩
          · rw [plus]
            exact ⟨_, .plus marks nonempty listed⟩
          · rw [minus]
            exact ⟨_, .minus marks nonempty listed⟩
        · rw [List.cons_append, List.cons_append, List.append_assoc, ← joined, ← signed]
    · exact ⟨⟨_, .none⟩, rfl⟩

theorem scanMinus_spec (text : List Char) :
    text = (if (scanMinus text).1 then ['-'] else []) ++ (scanMinus text).2 := by
  unfold scanMinus
  split <;> rfl

theorem whole_listed (whole : WholePart text) : ∀ digit ∈ text, digit ∈ digits := by
  obtain ⟨first, rest, rfl, leads, follow⟩ := whole_digits whole
  exact List.forall_mem_cons.mpr ⟨leads, follow⟩

/-- What the scanner reads as a number is one of the grammar, and has its value. -/
theorem scanNumber_spec (scanned : scanNumber text = some (spelling, rest)) :
    ∃ number, NumberText spelling.text number ∧ spelling.value = some number.toRat ∧
      text = spelling.text ++ rest := by
  simp only [scanNumber] at scanned
  split at scanned
  · cases scanned
  · rename_i whole unread found
    obtain ⟨wholes, joined⟩ := scanWhole_spec found
    obtain ⟨⟨fractionDigits, fractions⟩, fractionJoined⟩ := scanFraction_spec unread
    obtain ⟨⟨power, exponents⟩, exponentJoined⟩ := scanExponent_spec (scanFraction unread).2
    have spelled := NumberText.spelled (scanMinus text).1 wholes fractions exponents
    have front : text = ((if (scanMinus text).1 then ['-'] else []) ++ whole ++
        (scanFraction unread).1 ++ (scanExponent (scanFraction unread).2).1) ++
        (scanExponent (scanFraction unread).2).2 := by
      rw [List.append_assoc, ← exponentJoined, List.append_assoc, ← fractionJoined,
        List.append_assoc, ← joined, ← scanMinus_spec]
    cases scanned
    split
    · rename_i nothing
      obtain ⟨noFraction, noExponent⟩ := nothing
      refine ⟨_, spelled, ?_, front⟩
      rw [noFraction] at fractions
      rw [noExponent] at exponents
      cases fractions
      cases exponents
      rw [noFraction, noExponent, List.append_nil, List.append_nil, NumberSpelling.value,
        Decimal.toRat]
      have value := powerOf_digits (whole_listed wholes)
      cases (scanMinus text).1 with
      | true => simp [powerOf]
      | false => simp [value]
    · exact ⟨_, spelled, by rw [NumberSpelling.value, ofText_spelled spelled], front⟩

theorem spelled_nonempty (spelled : NumberText text number) : 0 < text.length := by
  cases spelled with
  | spelled negative whole =>
    obtain ⟨first, later, rfl, _⟩ := whole_digits whole
    simp

theorem scanNumber_shorter (scanned : scanNumber text = some (spelling, rest)) :
    rest.length < text.length := by
  obtain ⟨number, spelled, _, joined⟩ := scanNumber_spec scanned
  have nonempty := spelled_nonempty spelled
  rw [joined, List.length_append]
  omega

end Numbers

section Progress
variable {text rest : List Char}

theorem skipSpace_length (text : List Char) : (skipSpace text).length ≤ text.length :=
  (List.dropWhile_suffix _).length_le

theorem scanString_shorter (scanned : scanString text = some (content, rest)) :
    rest.length < text.length := by
  induction text using scanString.induct generalizing content rest with
  | case1 => cases scanned
  | case2 later =>
    cases scanned
    simp
  | case3 a b c d later ih =>
    simp only [scanString, Option.bind_eq_bind, Option.bind_eq_some_iff] at scanned
    obtain ⟨unit, _, ⟨inner, unread⟩, inside, ended⟩ := scanned
    cases ended
    have shorter := ih inside
    simp only [List.length_cons]
    omega
  | case4 letter later nonunit ih =>
    rw [scanString] at scanned
    · simp only [Option.bind_eq_bind, Option.bind_eq_some_iff] at scanned
      obtain ⟨point, _, ⟨inner, unread⟩, inside, ended⟩ := scanned
      cases ended
      have shorter := ih inside
      simp only [List.length_cons]
      omega
    · exact nonunit
  | case5 => cases scanned
  | case6 char later quote unit escape ends low =>
    rw [scanString, if_pos low] at scanned
    · cases scanned
    all_goals assumption
  | case7 char later quote unit escape ends high ih =>
    rw [scanString, if_neg high] at scanned
    · simp only [Option.bind_eq_bind, Option.bind_eq_some_iff] at scanned
      obtain ⟨⟨inner, unread⟩, inside, ended⟩ := scanned
      cases ended
      have shorter := ih inside
      simp only [List.length_cons]
      omega
    all_goals assumption

theorem scanLiteral_shorter (scanned : scanLiteral text = some (spelling, rest)) :
    rest.length < text.length := by
  obtain ⟨literal, listed, read⟩ := List.exists_of_findSome?_eq_some scanned
  have nonempty : ∀ literal ∈ literals, 0 < literal.1.length := by simp [literals]
  split at read
  · rename_i begins
    cases read
    have long := (List.isPrefixOf_iff_prefix.mp begins).length_le
    rw [List.length_drop]
    have positive := nonempty literal listed
    omega
  · cases read

theorem scanName_shorter (scanned : scanName text = some (name, rest)) :
    rest.length < text.length := by
  unfold scanName at scanned
  split at scanned
  · rename_i later
    split at scanned
    · cases scanned
    · rename_i unread inside
      have shorter := scanString_shorter inside
      have blank := skipSpace_length unread
      split at scanned
      · rename_i valued colon
        cases scanned
        rw [colon, List.length_cons] at blank
        have gap := skipSpace_length valued
        rw [List.length_cons]
        omega
      · cases scanned
  · cases scanned

/-- A scan that reads at least one character. -/
def Shortens (scan : List Char → Option (α × List Char)) : Prop :=
  ∀ text result rest, scan text = some (result, rest) → rest.length < text.length

variable {scan other : List Char → Option (α × List Char)} {close : Char} {fuel : Nat}

theorem scanRun_shortens (shortens : Shortens scan) : Shortens (scanRun scan close fuel) := by
  intro text result rest scanned
  induction fuel generalizing text result rest with
  | zero => cases scanned
  | succ fuel ih =>
    rw [scanRun, Option.bind_eq_bind, Option.bind_eq_some_iff] at scanned
    obtain ⟨⟨item, later⟩, read, scanned⟩ := scanned
    have shorter := shortens _ _ _ read
    have blank := skipSpace_length later
    dsimp only at scanned
    split at scanned
    · cases scanned
    · rename_i next unread found
      rw [found, List.length_cons] at blank
      split at scanned
      · cases scanned
        omega
      · split at scanned
        · obtain ⟨⟨items, remaining⟩, inside, ended⟩ := Option.map_eq_some_iff.mp scanned
          cases ended
          have fewer := ih _ _ _ inside
          have gap := skipSpace_length unread
          dsimp only at fewer ⊢
          omega
        · cases scanned

theorem scanContent_shortens (shortens : Shortens scan) :
    Shortens (scanContent scan close fuel) := by
  intro text result rest scanned
  unfold scanContent at scanned
  have blank := skipSpace_length text
  split at scanned
  · cases scanned
  · rename_i next unread found
    rw [found] at blank
    split at scanned
    · cases scanned
      rw [List.length_cons] at blank
      omega
    · exact lt_of_lt_of_le (scanRun_shortens shortens _ _ _ scanned) blank

theorem scanMember_shortens (shortens : Shortens scan) : Shortens (scanMember scan) := by
  intro text result rest scanned
  simp only [scanMember, Option.bind_eq_bind, Option.bind_eq_some_iff] at scanned
  obtain ⟨⟨name, unnamed⟩, named, ⟨value, later⟩, read, ended⟩ := scanned
  cases ended
  exact (shortens _ _ _ read).trans (scanName_shorter named)

/-- A scan of one value reads something. -/
theorem scanOnce_shortens (fuel : Nat) : Shortens (scanOnce fuel) := by
  induction fuel with
  | zero =>
    intro _ _ _ scanned
    cases scanned
  | succ fuel ih =>
    intro text spelling rest scanned
    unfold scanOnce at scanned
    split at scanned
    · obtain ⟨⟨content, unread⟩, inside, ended⟩ := Option.map_eq_some_iff.mp scanned
      cases ended
      exact (scanString_shorter inside).trans (Nat.lt_succ_self _)
    · obtain ⟨⟨pairs, unread⟩, inside, ended⟩ := Option.map_eq_some_iff.mp scanned
      cases ended
      have shorter := scanContent_shortens (scanMember_shortens ih) _ _ _ inside
      exact shorter.trans (Nat.lt_succ_self _)
    · obtain ⟨⟨items, unread⟩, inside, ended⟩ := Option.map_eq_some_iff.mp scanned
      cases ended
      exact (scanContent_shortens ih _ _ _ inside).trans (Nat.lt_succ_self _)
    · cases literal : scanLiteral text with
      | some found =>
        rw [literal] at scanned
        cases scanned
        exact scanLiteral_shorter literal
      | none =>
        rw [literal] at scanned
        obtain ⟨⟨number, unread⟩, inside, ended⟩ := Option.map_eq_some_iff.mp scanned
        cases ended
        exact scanNumber_shorter inside

/-- More fuel, and a scan that agrees on what is left to read, change nothing. -/
theorem scanRun_congr (shortens : Shortens scan)
    (agree : ∀ part : List Char, part.length ≤ text.length → other part = scan part)
    (enough : text.length < fuel) :
    scanRun other close (fuel + 1) text = scanRun scan close fuel text := by
  induction fuel generalizing text with
  | zero => omega
  | succ fuel ih =>
    rw [scanRun, scanRun, agree text le_rfl]
    cases read : scan text with
    | none => rfl
    | some found =>
      obtain ⟨item, later⟩ := found
      have shorter := shortens _ _ _ read
      have blank := skipSpace_length later
      simp only [Option.bind_eq_bind, Option.bind_some]
      split
      · rfl
      · rename_i next unread front
        rw [front, List.length_cons] at blank
        have gap := skipSpace_length unread
        rw [ih (fun part short => agree part (by omega)) (by omega)]

theorem scanContent_congr (shortens : Shortens scan)
    (agree : ∀ part : List Char, part.length ≤ text.length → other part = scan part)
    (enough : text.length < fuel) :
    scanContent other close (fuel + 1) text = scanContent scan close fuel text := by
  unfold scanContent
  have blank := skipSpace_length text
  split
  · rfl
  · rename_i next unread front
    rw [front] at blank
    rw [scanRun_congr shortens (fun part short => agree part (short.trans blank))
      (lt_of_le_of_lt blank enough)]

theorem scanMember_congr
    (agree : ∀ part : List Char, part.length ≤ text.length → other part = scan part) :
    scanMember other text = scanMember scan text := by
  unfold scanMember
  cases named : scanName text with
  | none => rfl
  | some found =>
    obtain ⟨name, unnamed⟩ := found
    simp only [Option.bind_eq_bind, Option.bind_some]
    rw [agree unnamed (scanName_shorter named).le]

/-- The length of a text is enough fuel: one more changes nothing. -/
theorem scanOnce_stable (enough : text.length < fuel) :
    scanOnce (fuel + 1) text = scanOnce fuel text := by
  induction fuel generalizing text with
  | zero => omega
  | succ fuel ih =>
    have agree (later part : List Char) (long : later.length + 1 < fuel + 1)
        (short : part.length ≤ later.length) : scanOnce (fuel + 1) part = scanOnce fuel part :=
      ih (by omega)
    unfold scanOnce
    split
    · rfl
    · rename_i later
      rw [List.length_cons] at enough
      rw [scanContent_congr (scanMember_shortens (scanOnce_shortens fuel)) ?_ (by omega)]
      exact fun part short => scanMember_congr fun inner within =>
        agree later inner enough (within.trans short)
    · rename_i later
      rw [List.length_cons] at enough
      rw [scanContent_congr (scanOnce_shortens fuel) (fun part => agree later part enough)
        (by omega)]
    · rfl

/-- The result of a scan with enough fuel does not depend on it. -/
theorem scanOnce_enough (enough : text.length < fuel) :
    scanOnce fuel text = scanOnce (text.length + 1) text := by
  induction fuel, enough using Nat.le_induction with
  | base => rfl
  | succ fuel enough ih => rw [scanOnce_stable enough, ih]

end Progress
end JsonScanner
end ModelPilot
