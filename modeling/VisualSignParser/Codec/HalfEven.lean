import Mathlib.Algebra.Order.Floor.Ring
import Mathlib.Data.Rat.Floor
import Mathlib.Tactic.Linarith

/-!
# Rounding half to even

The nearest integer, and of two nearest integers the even one.  The rounding of
a number is the only integer that is near it in this sense.
-/

namespace VisualSignParser.HalfEven

/-- No integer is nearer, and no even integer is as near. -/
def IsNearest (number : ℚ) (integer : ℤ) : Prop :=
  |number - integer| ≤ 1 / 2 ∧ (|number - integer| = 1 / 2 → Even integer)

def halfEven (number : ℚ) : ℤ :=
  if number - ⌊number⌋ < 1 / 2 then ⌊number⌋
  else if 1 / 2 < number - ⌊number⌋ then ⌊number⌋ + 1
  else if ⌊number⌋ % 2 = 0 then ⌊number⌋
  else ⌊number⌋ + 1

variable {number : ℚ} {integer other : ℤ}

theorem isNearest_halfEven (number : ℚ) : IsNearest number (halfEven number) := by
  have hfloor : 0 ≤ number - ⌊number⌋ := sub_nonneg.2 (Int.floor_le number)
  have hceil : number - ⌊number⌋ < 1 := by
    have hlt := Int.lt_floor_add_one number
    linarith
  unfold halfEven
  split_ifs with hbelow habove heven
  · rw [IsNearest, abs_of_nonneg hfloor]
    exact ⟨le_of_lt hbelow, fun htie => absurd htie (ne_of_lt hbelow)⟩
  · have hnegative : number - ↑(⌊number⌋ + 1) = -(1 - (number - ⌊number⌋)) := by
      push_cast
      ring
    rw [IsNearest, hnegative, abs_neg, abs_of_nonneg (by linarith)]
    exact ⟨by linarith, fun htie => absurd htie (by linarith)⟩
  · have htie : number - ⌊number⌋ = 1 / 2 := le_antisymm (not_lt.1 habove) (not_lt.1 hbelow)
    rw [IsNearest, htie]
    exact ⟨by norm_num, fun _ => Int.even_iff.2 heven⟩
  · have htie : number - ⌊number⌋ = 1 / 2 := le_antisymm (not_lt.1 habove) (not_lt.1 hbelow)
    have hnegative : number - ↑(⌊number⌋ + 1) = -(1 / 2) := by
      push_cast
      linarith
    rw [IsNearest, hnegative]
    exact ⟨by norm_num, fun _ => Int.even_iff.2 (by omega)⟩

/-- Two neighbours are both nearest only where they tie, and one of them is odd. -/
theorem IsNearest.not_below (hinteger : IsNearest number integer) (hother : IsNearest number other) :
    ¬integer < other := by
  obtain ⟨hnear, htie⟩ := hinteger
  obtain ⟨hnear', htie'⟩ := hother
  rw [abs_le] at hnear hnear'
  intro hlt
  have hstep : (integer : ℚ) + 1 ≤ other := by exact_mod_cast hlt
  have hhalf : number - integer = 1 / 2 := by linarith [hnear.2, hnear'.1]
  have hhalf' : number - other = -(1 / 2) := by linarith [hnear.2, hnear'.1]
  have heven : Even integer := htie (by rw [hhalf]; norm_num)
  have heven' : Even other := htie' (by rw [hhalf']; norm_num)
  have hnext : other = integer + 1 := by
    have hcast : (other : ℚ) = integer + 1 := by linarith
    exact_mod_cast hcast
  rw [Int.even_iff] at heven heven'
  omega

theorem IsNearest.eq (hinteger : IsNearest number integer) (hother : IsNearest number other) :
    integer = other :=
  le_antisymm (not_lt.1 (hother.not_below hinteger)) (not_lt.1 (hinteger.not_below hother))

theorem isNearest_iff : IsNearest number integer ↔ integer = halfEven number := by
  constructor
  · exact fun hnear => hnear.eq (isNearest_halfEven number)
  · rintro rfl
    exact isNearest_halfEven number

/-- A number that is an integer is not changed. -/
theorem halfEven_intCast (integer : ℤ) : halfEven (integer : ℚ) = integer := by
  have hnear : IsNearest (integer : ℚ) integer := by
    rw [IsNearest, sub_self, abs_zero]
    exact ⟨by norm_num, fun htie => absurd htie (by norm_num)⟩
  exact (isNearest_iff.1 hnear).symm

end VisualSignParser.HalfEven
