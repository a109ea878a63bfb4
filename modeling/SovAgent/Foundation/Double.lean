import Mathlib.Data.Int.Log
import Mathlib.Data.Rat.Floor
import Mathlib.Tactic.Linarith
import Mathlib.Tactic.NormNum
import Mathlib.Tactic.Positivity

/-! # Numbers of double precision

A rational number rounded to 53 significant bits, to the nearest and in the
middle to the even one. The exponent is not limited.
-/

namespace SovAgent

/-- The nearest integer, in the middle the even one. -/
def nearestEven (value : ℚ) : Int :=
  if value - ⌊value⌋ < 1 / 2 then ⌊value⌋
  else if 1 / 2 < value - ⌊value⌋ then ⌊value⌋ + 1
  else if ⌊value⌋ % 2 = 0 then ⌊value⌋
  else ⌊value⌋ + 1

def lastPlace (value : ℚ) : ℚ := 2 ^ (Int.log 2 |value| - 52)

def double (value : ℚ) : ℚ := nearestEven (value / lastPlace value) * lastPlace value

/-! ## The nearest integer -/

theorem nearestEven_error (value : ℚ) : |(nearestEven value : ℚ) - value| ≤ 1 / 2 := by
  have below := Int.floor_le value
  have above := Int.lt_floor_add_one value
  rw [nearestEven, abs_le]
  split
  · constructor <;> linarith
  · split
    · push_cast
      constructor <;> linarith
    · split
      · constructor <;> linarith
      · push_cast
        constructor <;> linarith

theorem eq_of_abs_sub_lt_one {left right : Int} (close : |(left : ℚ) - right| < 1) :
    left = right := by
  have distance : |left - right| < 1 := by exact_mod_cast close
  exact sub_eq_zero.mp (Int.abs_lt_one_iff.mp distance)

theorem nearestEven_eq {value : ℚ} {integer : Int} (close : |value - integer| < 1 / 2) :
    nearestEven value = integer := by
  apply eq_of_abs_sub_lt_one
  calc |(nearestEven value : ℚ) - integer|
      ≤ |(nearestEven value : ℚ) - value| + |value - integer| := abs_sub_le _ _ _
    _ < 1 / 2 + 1 / 2 := add_lt_add_of_le_of_lt (nearestEven_error value) close
    _ = 1 := by norm_num

/-! ## Rounding to 53 bits -/

theorem lastPlace_pos (value : ℚ) : 0 < lastPlace value := by
  exact zpow_pos two_pos _

theorem lastPlace_le {value : ℚ} (nonzero : value ≠ 0) : lastPlace value ≤ |value| / 2 ^ 52 := by
  have leading : ((2 : Nat) : ℚ) ^ Int.log 2 |value| ≤ |value| :=
    Int.zpow_log_le_self one_lt_two (abs_pos.mpr nonzero)
  rw [lastPlace, zpow_sub₀ two_ne_zero]
  apply div_le_div_of_nonneg_right
  · exact_mod_cast leading
  · positivity

theorem double_error {value : ℚ} (nonzero : value ≠ 0) :
    |double value - value| ≤ |value| / 2 ^ 53 := by
  have positive := lastPlace_pos value
  have scaled : double value - value =
      ((nearestEven (value / lastPlace value) : ℚ) - value / lastPlace value) *
        lastPlace value := by
    rw [double, sub_mul, div_mul_cancel₀ _ positive.ne']
  calc |double value - value|
      = |(nearestEven (value / lastPlace value) : ℚ) - value / lastPlace value| *
          lastPlace value := by rw [scaled, abs_mul, abs_of_pos positive]
    _ ≤ 1 / 2 * (|value| / 2 ^ 52) :=
        mul_le_mul (nearestEven_error _) (lastPlace_le nonzero) positive.le (by norm_num)
    _ = |value| / 2 ^ 53 := by ring

end SovAgent
