/-
Binary floating-point numbers by their exact values.

A format says which rationals its finite numbers are.  Integers are rounded to the
nearest of them, ties to even; a rational that is a number of the format is its own
nearest one.
-/

import Mathlib.Algebra.Order.Field.Power
import Mathlib.Data.Nat.Size
import Mathlib.Data.Rat.Lemmas
import Mathlib.Tactic.Linarith
import Mathlib.Tactic.LinearCombination
import Mathlib.Tactic.NormNum
import Mathlib.Tactic.Positivity
import Mathlib.Tactic.Ring

namespace Binary

structure Format where
  precision : Nat
  minExp : Int
  maxExp : Int

def Format.Represents (format : Format) (value : ℚ) : Prop :=
  ∃ significand exponent : Int, |significand| < 2 ^ format.precision ∧
    format.minExp ≤ exponent ∧ exponent ≤ format.maxExp ∧
    value = significand * 2 ^ exponent

inductive Number (format : Format) where
  | finite (value : ℚ) (represented : format.Represents value)
  | infinity (negative : Bool)
  | nan

/-- The comparison `==` of numbers. -/
def Number.equal {format : Format} : Number format → Number format → Bool
  | .finite left _, .finite right _ => decide (left = right)
  | .infinity left, .infinity right => left == right
  | _, _ => false

def Number.value {format : Format} : Number format → Option ℚ
  | .finite value _ => some value
  | .infinity _ => none
  | .nan => none

def Number.truncation {format : Format} : Number format → Option Int
  | .finite value _ => some (value.num.tdiv value.den)
  | .infinity _ => none
  | .nan => none

theorem Number.truncation_of_value {format : Format} {number : Number format} {value : Int}
    (isValue : number.value = some (value : ℚ)) : number.truncation = some value := by
  cases number with
  | finite _ _ =>
      cases isValue
      change some ((value : ℚ).num.tdiv (value : ℚ).den) = some value
      rw [Rat.num_intCast, Rat.den_intCast, Nat.cast_one, Int.tdiv_one]
  | infinity _ => cases isValue
  | nan => cases isValue

structure Format.Nearest (format : Format) (value rounded : ℚ) : Prop where
  represented : format.Represents rounded
  closest : ∀ other, format.Represents other → |rounded - value| ≤ |other - value|

theorem Format.Nearest.eq_of_represents {format : Format} {value rounded : ℚ}
    (nearest : format.Nearest value rounded) (represented : format.Represents value) :
    rounded = value := by
  have distance := nearest.closest value represented
  rw [sub_self, abs_zero] at distance
  exact sub_eq_zero.1 (abs_eq_zero.1 (le_antisymm distance (abs_nonneg _)))

structure Format.Fits (format : Format) (value : Int) : Prop where
  precise : 0 < format.precision
  integral : format.minExp ≤ 0
  bounded : (Nat.size value.natAbs : Int) ≤ format.maxExp

theorem abs_lt_two_pow_size (value : Int) : |value| < 2 ^ Nat.size value.natAbs := by
  have below : value.natAbs < 2 ^ Nat.size value.natAbs := Nat.lt_size_self _
  rw [Int.abs_eq_natAbs]
  exact_mod_cast below

theorem represents_shifted {format : Format} (integral : format.minExp ≤ 0) {significand : Int}
    {shift : Nat} (small : |significand| < 2 ^ format.precision)
    (within : (shift : Int) ≤ format.maxExp) :
    format.Represents ((significand * 2 ^ shift : Int) : ℚ) := by
  refine ⟨significand, shift, small, le_trans integral (Int.natCast_nonneg _), within, ?_⟩
  push_cast
  rw [zpow_natCast]

/-- An integer is a number of the format when its low bits are zero, beyond the precision. -/
theorem represents_int_iff {format : Format} {value : Int} (fits : format.Fits value) :
    format.Represents value ↔
      ∃ (significand : Int) (shift : Nat), |significand| < 2 ^ format.precision ∧
        value = significand * 2 ^ shift := by
  constructor
  · intro ⟨significand, exponent, small, _, _, same⟩
    by_cases whole : 0 ≤ exponent
    · refine ⟨significand, exponent.toNat, small, ?_⟩
      have power : (2 : ℚ) ^ exponent = 2 ^ exponent.toNat := by
        conv_lhs => rw [← Int.toNat_of_nonneg whole]
        exact zpow_natCast _ _
      rw [power] at same
      exact_mod_cast same
    · refine ⟨value, 0, lt_of_le_of_lt ?_ small, by ring⟩
      have scaled : (value : ℚ) * 2 ^ (-exponent).toNat = significand := by
        have power : (2 : ℚ) ^ (-exponent).toNat = 2 ^ (-exponent) := by
          rw [← zpow_natCast, Int.toNat_of_nonneg (by omega)]
        rw [same, power, mul_assoc, ← zpow_add₀ two_ne_zero, add_neg_cancel, zpow_zero, mul_one]
      have scaled : value * 2 ^ (-exponent).toNat = significand := by exact_mod_cast scaled
      rw [← scaled, abs_mul]
      exact le_mul_of_one_le_right (abs_nonneg _)
        (by rw [abs_of_nonneg (by positivity)]; exact one_le_pow₀ (by norm_num))
  · intro ⟨significand, shift, small, same⟩
    subst same
    by_cases zero : significand = 0
    · have := represents_shifted fits.integral small
        (show ((0 : Nat) : Int) ≤ format.maxExp from
          le_trans (Int.natCast_nonneg _) fits.bounded)
      rw [zero, zero_mul] at this ⊢
      exact this
    · apply represents_shifted fits.integral small
      have size : shift < Nat.size (significand * 2 ^ shift).natAbs := by
        apply Nat.lt_size.2
        rw [Int.natAbs_mul, Int.natAbs_pow]
        exact Nat.le_mul_of_pos_left _ (Int.natAbs_pos.2 zero)
      have bounded := fits.bounded
      omega

/-! ### Rounding -/

def halfEven (value divisor : Int) : Int :=
  if 2 * (value % divisor) < divisor then value / divisor
  else if divisor < 2 * (value % divisor) then value / divisor + 1
  else value / divisor + value / divisor % 2

theorem halfEven_cases (value divisor : Int) :
    (halfEven value divisor = value / divisor ∧ 2 * (value % divisor) ≤ divisor) ∨
    (halfEven value divisor = value / divisor + 1 ∧ divisor ≤ 2 * (value % divisor)) := by
  unfold halfEven
  split
  · exact Or.inl ⟨rfl, by omega⟩
  · split
    · exact Or.inr ⟨rfl, by omega⟩
    · rcases Int.emod_two_eq_zero_or_one (value / divisor) with even | odd
      · exact Or.inl ⟨by omega, by omega⟩
      · exact Or.inr ⟨by omega, by omega⟩

/-- No multiple of the divisor is closer. -/
theorem halfEven_closest (value : Int) {divisor : Int} (positive : 0 < divisor) (other : Int) :
    |halfEven value divisor * divisor - value| ≤ |other * divisor - value| := by
  have nonneg := Int.emod_nonneg value (by omega : divisor ≠ 0)
  have below := Int.emod_lt_of_pos value positive
  have distance (multiple : Int) : multiple * divisor - value =
      (multiple - value / divisor) * divisor - value % divisor := by
    have split := Int.emod_add_mul_ediv value divisor
    linear_combination split
  rw [distance, distance]
  have far : divisor ≤ (other - value / divisor) * divisor ∨
      (other - value / divisor) * divisor ≤ 0 := by
    generalize other - value / divisor = ahead
    by_cases beyond : 1 ≤ ahead
    · exact Or.inl (le_mul_of_one_le_left (by omega) beyond)
    · exact Or.inr (mul_nonpos_of_nonpos_of_nonneg (by omega) (by omega))
  generalize (other - value / divisor) * divisor = reach at *
  rw [Int.abs_eq_natAbs, Int.abs_eq_natAbs]
  rcases halfEven_cases value divisor with ⟨down, near⟩ | ⟨up, near⟩
  · rw [down, sub_self, zero_mul]
    omega
  · rw [up, add_sub_cancel_left, one_mul]
    omega

def Format.roundInt (format : Format) (value : Int) : Int :=
  halfEven value (2 ^ (Nat.size value.natAbs - format.precision)) *
    2 ^ (Nat.size value.natAbs - format.precision)

/-- What is not rounded to the end of its binade is a multiple of the last bit that is kept. -/
theorem abs_halfEven_le {value : Int} {precision shift : Nat}
    (small : |value| < 2 ^ (precision + shift)) :
    |halfEven value (2 ^ shift)| ≤ 2 ^ precision := by
  have positive : (0 : Int) < 2 ^ shift := by positivity
  have power : (2 : Int) ^ (precision + shift) = 2 ^ precision * 2 ^ shift := pow_add _ _ _
  obtain ⟨above, below⟩ := abs_lt.1 small
  have split := Int.emod_add_mul_ediv value (2 ^ shift)
  have nonneg := Int.emod_nonneg value positive.ne'
  have least : -(2 : Int) ^ precision ≤ value / 2 ^ shift := by
    apply (Int.le_ediv_iff_mul_le positive).2
    linarith
  have most : value / 2 ^ shift < 2 ^ precision := by
    apply (Int.ediv_lt_iff_lt_mul positive).2
    linarith
  apply abs_le.2
  rcases halfEven_cases value (2 ^ shift) with ⟨down, _⟩ | ⟨up, _⟩
  · omega
  · omega

theorem roundInt_short {format : Format} {value : Int}
    (short : Nat.size value.natAbs ≤ format.precision) : format.roundInt value = value := by
  unfold Format.roundInt
  rw [Nat.sub_eq_zero_of_le short, pow_zero, mul_one]
  rcases halfEven_cases value 1 with ⟨down, _⟩ | ⟨_, near⟩
  · rw [down, Int.ediv_one]
  · omega

theorem represents_roundInt {format : Format} {value : Int} (fits : format.Fits value) :
    format.Represents (format.roundInt value) := by
  have size := abs_lt_two_pow_size value
  by_cases short : Nat.size value.natAbs ≤ format.precision
  · rw [roundInt_short short]
    apply (represents_int_iff fits).2
    refine ⟨value, 0, lt_of_lt_of_le size ?_, by ring⟩
    exact pow_le_pow_right₀ (by norm_num) short
  · have sum : format.precision + (Nat.size value.natAbs - format.precision) =
        Nat.size value.natAbs := by
      omega
    have bounded := fits.bounded
    rw [← sum] at size
    unfold Format.roundInt
    rcases lt_or_eq_of_le (abs_halfEven_le size) with small | full
    · exact represents_shifted fits.integral small (by omega)
    · -- The significand has overflowed to the next power of two.
      have unit : (1 : Int) < 2 ^ format.precision := one_lt_pow₀ (by norm_num) fits.precise.ne'
      have power : (2 : Int) ^ format.precision * 2 ^ (Nat.size value.natAbs - format.precision) =
          2 ^ Nat.size value.natAbs := by
        rw [← pow_add, sum]
      rcases (abs_eq (by positivity)).1 full with up | down
      · rw [up, power, ← one_mul ((2 : Int) ^ _)]
        exact represents_shifted fits.integral (by rw [abs_one]; exact unit) bounded
      · rw [down, neg_mul, power, ← neg_one_mul]
        exact represents_shifted fits.integral (by rw [abs_neg, abs_one]; exact unit) bounded

/-- A number of the format that is no multiple of the last bit that is kept is smaller than the
binade. -/
theorem represents_cases {format : Format} {other : ℚ} (represented : format.Represents other)
    (shift : Nat) (positive : 0 < shift) :
    (∃ multiple : Int, other = multiple * 2 ^ shift) ∨
      |other| ≤ 2 ^ format.precision * 2 ^ (shift - 1) := by
  obtain ⟨significand, exponent, small, _, _, rfl⟩ := represented
  by_cases coarse : (shift : Int) ≤ exponent
  · left
    refine ⟨significand * 2 ^ (exponent - shift).toNat, ?_⟩
    push_cast
    rw [← zpow_natCast, ← zpow_natCast, mul_assoc, ← zpow_add₀ two_ne_zero]
    congr 2
    omega
  · right
    have finer : (2 : ℚ) ^ exponent ≤ 2 ^ (shift - 1) := by
      rw [← zpow_natCast]
      exact zpow_le_zpow_right₀ (by norm_num) (by omega)
    have small : |(significand : ℚ)| ≤ 2 ^ format.precision := by exact_mod_cast small.le
    rw [abs_mul, abs_of_pos (show (0 : ℚ) < 2 ^ exponent by positivity)]
    exact mul_le_mul small finer (by positivity) (by positivity)

/-- The rounded integer is a nearest number of the format. -/
theorem roundInt_nearest {format : Format} {value : Int} (fits : format.Fits value) :
    format.Nearest value (format.roundInt value) := by
  refine ⟨represents_roundInt fits, fun other represented => ?_⟩
  by_cases short : Nat.size value.natAbs ≤ format.precision
  · rw [roundInt_short short, sub_self, abs_zero]
    exact abs_nonneg _
  · have closest (multiple : Int) :
        |(format.roundInt value : ℚ) - value| ≤
          |(multiple : ℚ) * 2 ^ (Nat.size value.natAbs - format.precision) - value| := by
      have integers := halfEven_closest value
        (show (0 : Int) < 2 ^ (Nat.size value.natAbs - format.precision) by positivity) multiple
      unfold Format.roundInt
      exact_mod_cast integers
    have precise := fits.precise
    rcases represents_cases represented (Nat.size value.natAbs - format.precision) (by omega)
      with ⟨multiple, rfl⟩ | smaller
    · exact closest multiple
    · -- The start of the binade lies between the smaller number and the integer.
      have start : (2 : ℚ) ^ format.precision *
            2 ^ (Nat.size value.natAbs - format.precision - 1) =
          ((2 ^ (format.precision - 1) : Int) : ℚ) *
            2 ^ (Nat.size value.natAbs - format.precision) := by
        push_cast
        rw [← pow_add, ← pow_add]
        congr 1
        omega
      have within : (2 : ℚ) ^ format.precision *
          2 ^ (Nat.size value.natAbs - format.precision - 1) ≤ |(value : ℚ)| := by
        have reached : 2 ^ (Nat.size value.natAbs - 1) ≤ value.natAbs :=
          Nat.lt_size.1 (by omega)
        have exponents : format.precision + (Nat.size value.natAbs - format.precision - 1) =
            Nat.size value.natAbs - 1 := by
          omega
        rw [← pow_add, exponents, ← Int.cast_abs, Int.abs_eq_natAbs]
        exact_mod_cast reached
      have above := closest (2 ^ (format.precision - 1))
      have below := closest (-2 ^ (format.precision - 1))
      rw [← start] at above
      rw [Int.cast_neg, neg_mul, ← start] at below
      obtain ⟨least, most⟩ := abs_le.1 smaller
      rcases le_total 0 (value : ℚ) with nonneg | nonpos
      · rw [abs_of_nonneg nonneg] at within
        rw [abs_of_nonpos (sub_nonpos.2 within)] at above
        rw [abs_of_nonpos (sub_nonpos.2 (le_trans most within))]
        linarith
      · rw [abs_of_nonpos nonpos] at within
        have reach := le_neg_of_le_neg within
        rw [abs_of_nonneg (sub_nonneg.2 reach)] at below
        rw [abs_of_nonneg (sub_nonneg.2 (le_trans reach least))]
        linarith

def Number.ofInt (format : Format) (value : Int) (fits : format.Fits value) : Number format :=
  .finite (format.roundInt value) (represents_roundInt fits)

end Binary
