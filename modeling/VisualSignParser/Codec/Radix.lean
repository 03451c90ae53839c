import Mathlib.Data.Nat.Digits.Defs
import Mathlib.Tactic.IntervalCases

/-!
# Integers in a radix

The integer parsers of Rust's standard library.  A sign `+` is allowed, a sign
alone is not; a digit is read before the overflow it would cause is reported.
-/

namespace VisualSignParser.Radix

inductive IntErrorKind where
  | empty
  | invalidDigit
  | posOverflow
  deriving DecidableEq

def IntErrorKind.display : IntErrorKind → String
  | empty => "cannot parse integer from empty string"
  | invalidDigit => "invalid digit found in string"
  | posOverflow => "number too large to fit in target type"

/-- `char::to_digit`. -/
def toDigit (radix : ℕ) (char : Char) : Option ℕ :=
  let value :=
    if '0' ≤ char ∧ char ≤ '9' then some (char.toNat - '0'.toNat)
    else if 'a' ≤ char ∧ char ≤ 'z' then some (char.toNat - 'a'.toNat + 10)
    else if 'A' ≤ char ∧ char ≤ 'Z' then some (char.toNat - 'A'.toNat + 10)
    else none
  value.filter fun digit => decide (digit < radix)

/-- The value of a list of digits, continued from the digits already read. -/
def digitsValue (radix : ℕ) : ℕ → List Char → Option ℕ
  | value, [] => some value
  | value, char :: rest => match toDigit radix char with
      | none => none
      | some digit => digitsValue radix (value * radix + digit) rest

/-- The same in an unsigned type of the given width. -/
def readDigits (bits radix : ℕ) : ℕ → List Char → Except IntErrorKind ℕ
  | value, [] => .ok value
  | value, char :: rest => match toDigit radix char with
      | none => .error .invalidDigit
      | some digit =>
          if 2 ^ bits ≤ value * radix + digit then .error .posOverflow
          else readDigits bits radix (value * radix + digit) rest

/-- `from_str_radix` of an unsigned type of the given width. -/
def fromStrRadix (bits radix : ℕ) : List Char → Except IntErrorKind ℕ
  | [] => .error .empty
  | ['+'] => .error .invalidDigit
  | ['-'] => .error .invalidDigit
  | '+' :: rest => readDigits bits radix 0 rest
  | text => readDigits bits radix 0 text

variable {bits radix : ℕ}

theorem le_digitsValue (hradix : 0 < radix) {value result : ℕ} {text : List Char}
    (hvalue : digitsValue radix value text = some result) : value ≤ result := by
  induction text generalizing value with
  | nil => exact le_of_eq (Option.some.inj hvalue)
  | cons char rest ih =>
      rw [digitsValue] at hvalue
      cases hdigit : toDigit radix char with
      | none =>
          rw [hdigit] at hvalue
          cases hvalue
      | some digit =>
          rw [hdigit] at hvalue
          calc
            value ≤ value * radix := Nat.le_mul_of_pos_right value hradix
            _ ≤ value * radix + digit := Nat.le_add_right ..
            _ ≤ result := ih hvalue

/-- A value that fits is read without an overflow on the way. -/
theorem readDigits_of_value (hradix : 0 < radix) {value result : ℕ} {text : List Char}
    (hvalue : digitsValue radix value text = some result) (hfits : result < 2 ^ bits) :
    readDigits bits radix value text = .ok result := by
  induction text generalizing value with
  | nil => exact congrArg Except.ok (Option.some.inj hvalue)
  | cons char rest ih =>
      rw [digitsValue] at hvalue
      cases hdigit : toDigit radix char with
      | none =>
          rw [hdigit] at hvalue
          cases hvalue
      | some digit =>
          rw [hdigit] at hvalue
          have hle : value * radix + digit ≤ result := le_digitsValue hradix hvalue
          rw [readDigits, hdigit]
          dsimp only
          rw [if_neg (by omega)]
          exact ih hvalue

theorem fromStrRadix_of_value (hradix : 0 < radix) {result : ℕ} {text : List Char}
    (hnonempty : text ≠ []) (hvalue : digitsValue radix 0 text = some result)
    (hfits : result < 2 ^ bits) : fromStrRadix bits radix text = .ok result := by
  have hsign (char : Char) (hdigit : toDigit radix char = none) (rest : List Char) :
      text ≠ char :: rest := by
    intro htext
    rw [htext, digitsValue, hdigit] at hvalue
    cases hvalue
  have hplus := hsign '+' rfl
  have hminus := hsign '-' rfl
  unfold fromStrRadix
  split
  · exact absurd rfl hnonempty
  · exact absurd rfl (hplus [])
  · exact absurd rfl (hminus [])
  · exact absurd rfl (hplus _)
  · exact readDigits_of_value hradix hvalue hfits

/-- Only a value that fits is returned. -/
theorem value_of_readDigits {value result : ℕ} {text : List Char} (hvalue : value < 2 ^ bits)
    (hread : readDigits bits radix value text = .ok result) :
    digitsValue radix value text = some result ∧ result < 2 ^ bits := by
  induction text generalizing value with
  | nil =>
      cases hread
      exact ⟨rfl, hvalue⟩
  | cons char rest ih =>
      rw [readDigits] at hread
      rw [digitsValue]
      cases hdigit : toDigit radix char with
      | none =>
          rw [hdigit] at hread
          cases hread
      | some digit =>
          rw [hdigit] at hread
          dsimp only at hread
          split_ifs at hread with hoverflow
          exact ih (not_le.1 hoverflow) hread

theorem readDigits_eq_ok_iff (hradix : 0 < radix) {result : ℕ} {text : List Char} :
    readDigits bits radix 0 text = .ok result ↔
      digitsValue radix 0 text = some result ∧ result < 2 ^ bits :=
  ⟨value_of_readDigits (Nat.two_pow_pos bits),
    fun hboth => readDigits_of_value hradix hboth.1 hboth.2⟩

/-- Digits that stand for a number in a type of that width. -/
def Fits (bits radix result : ℕ) (digits : List Char) : Prop :=
  digits ≠ [] ∧ digitsValue radix 0 digits = some result ∧ result < 2 ^ bits

/-- A sign in front of the digits is accepted. -/
theorem fromStrRadix_eq_ok_iff (hradix : 0 < radix) {result : ℕ} {text : List Char} :
    fromStrRadix bits radix text = .ok result ↔
      Fits bits radix result text ∨ ∃ digits, text = '+' :: digits ∧ Fits bits radix result digits := by
  constructor
  · intro hread
    unfold fromStrRadix at hread
    split at hread
    · cases hread
    · cases hread
    · cases hread
    · next digits hsign =>
        refine .inr ⟨digits, rfl, ?_, (readDigits_eq_ok_iff hradix).1 hread⟩
        rintro rfl
        exact hsign rfl
    · next hempty _ _ _ =>
        exact .inl ⟨hempty, (readDigits_eq_ok_iff hradix).1 hread⟩
  · rintro (⟨hnonempty, hvalue, hfits⟩ | ⟨digits, rfl, hnonempty, hboth⟩)
    · exact fromStrRadix_of_value hradix hnonempty hvalue hfits
    · obtain ⟨char, rest, rfl⟩ := List.exists_cons_of_ne_nil hnonempty
      exact (readDigits_eq_ok_iff hradix).2 hboth

theorem digitsValue_append (value : ℕ) (front back : List Char) :
    digitsValue radix value (front ++ back) =
      (digitsValue radix value front).bind fun middle => digitsValue radix middle back := by
  induction front generalizing value with
  | nil => rfl
  | cons char rest ih =>
      rw [List.cons_append, digitsValue, digitsValue]
      cases toDigit radix char with
      | none => rfl
      | some digit => exact ih _

theorem toDigit_digitChar {digit : ℕ} (hdigit : digit < 16) :
    toDigit 16 (Nat.digitChar digit) = some digit := by
  interval_cases digit <;> rfl

/-- The hexadecimal digits of a number stand for it. -/
theorem digitsValue_toDigits (value : ℕ) :
    digitsValue 16 0 (Nat.toDigits 16 value) = some value := by
  induction value using Nat.strong_induction_on with
  | _ value ih =>
      by_cases hsmall : value < 16
      · rw [Nat.toDigits_of_lt_base hsmall, digitsValue, toDigit_digitChar hsmall]
        exact congrArg some (by omega)
      · have hlast : value % 16 < 16 := Nat.mod_lt _ (by omega)
        rw [Nat.toDigits_of_base_le (by omega) (by omega), digitsValue_append,
          ih (value / 16) (by omega), Option.bind_some, digitsValue, toDigit_digitChar hlast]
        exact congrArg some (by omega)

theorem exists_digit_of_mem_toDigits {value : ℕ} {char : Char}
    (hchar : char ∈ Nat.toDigits 16 value) : ∃ digit < 16, char = Nat.digitChar digit := by
  induction value using Nat.strong_induction_on with
  | _ value ih =>
      by_cases hsmall : value < 16
      · rw [Nat.toDigits_of_lt_base hsmall, List.mem_singleton] at hchar
        exact ⟨value, hsmall, hchar⟩
      · rw [Nat.toDigits_of_base_le (by omega) (by omega), List.mem_append,
          List.mem_singleton] at hchar
        rcases hchar with hfront | hlast
        · exact ih (value / 16) (by omega) hfront
        · exact ⟨value % 16, Nat.mod_lt _ (by omega), hlast⟩

end VisualSignParser.Radix
