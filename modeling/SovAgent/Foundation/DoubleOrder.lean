import SovAgent.Foundation.Double
import SovAgent.Foundation.Number

/-! # The order of doubles

Rounding keeps the order of numbers, and leaves a double as it is. So sums and
products of doubles grow with their parts.
-/

namespace SovAgent

/-! ## The nearest integer -/

theorem nearestEven_intCast (integer : Int) : nearestEven integer = integer :=
  nearestEven_eq (by norm_num)

theorem floor_le_nearestEven (value : ℚ) : ⌊value⌋ ≤ nearestEven value := by
  rw [nearestEven]
  split_ifs <;> omega

theorem nearestEven_le_floor (value : ℚ) : nearestEven value ≤ ⌊value⌋ + 1 := by
  rw [nearestEven]
  split_ifs <;> omega

theorem nearestEven_mono {left right : ℚ} (le : left ≤ right) :
    nearestEven left ≤ nearestEven right := by
  rcases (Int.floor_le_floor le).lt_or_eq with apart | same
  · calc nearestEven left
        ≤ ⌊left⌋ + 1 := nearestEven_le_floor left
      _ ≤ ⌊right⌋ := apart
      _ ≤ nearestEven right := floor_le_nearestEven right
  · have fractions : left - ⌊left⌋ ≤ right - ⌊left⌋ := sub_le_sub_right le _
    rw [nearestEven, nearestEven, ← same]
    split_ifs <;> first | omega | linarith

/-! ## Doubles -/

def IsDouble (value : ℚ) : Prop :=
  ∃ mantissa exponent : Int, |mantissa| < 2 ^ 53 ∧ value = mantissa * 2 ^ exponent

theorem pow_mul_lastPlace (places : Nat) (value : ℚ) :
    2 ^ places * lastPlace value = 2 ^ (Int.log 2 |value| + places - 52) := by
  rw [lastPlace, ← zpow_natCast, ← zpow_add₀ two_ne_zero]
  congr 1
  ring

theorem scaled_lt (value : ℚ) : |value / lastPlace value| < 2 ^ 53 := by
  have positive := lastPlace_pos value
  have below : |value| < 2 ^ (Int.log 2 |value| + 1) := by
    exact_mod_cast Int.lt_zpow_succ_log_self (one_lt_two (α := Nat)) |value|
  rw [abs_div, abs_of_pos positive, div_lt_iff₀ positive]
  calc |value|
      < 2 ^ (Int.log 2 |value| + 1) := below
    _ = 2 ^ 53 * lastPlace value := by
        rw [pow_mul_lastPlace]
        congr 1
        push_cast
        ring

theorem nearestEven_scaled_le (value : ℚ) :
    |nearestEven (value / lastPlace value)| ≤ 2 ^ 53 := by
  have bounds := abs_le.mp (scaled_lt value).le
  have low := nearestEven_mono (show ((-2 ^ 53 : Int) : ℚ) ≤ _ by exact_mod_cast bounds.1)
  have high := nearestEven_mono (show _ ≤ ((2 ^ 53 : Int) : ℚ) by exact_mod_cast bounds.2)
  rw [nearestEven_intCast] at low high
  exact abs_le.mpr ⟨low, high⟩

theorem isDouble_double (value : ℚ) : IsDouble (double value) := by
  rcases (nearestEven_scaled_le value).lt_or_eq with small | full
  · exact ⟨_, _, small, rfl⟩
  · have halved : (2 : ℚ) ^ 53 * lastPlace value = 2 ^ 52 * 2 ^ (Int.log 2 |value| - 51) := by
      rw [pow_mul_lastPlace, ← zpow_natCast, ← zpow_add₀ two_ne_zero]
      congr 1
      push_cast
      ring
    rcases abs_choice (nearestEven (value / lastPlace value)) with sign | sign
    · refine ⟨2 ^ 52, Int.log 2 |value| - 51, by norm_num, ?_⟩
      rw [double, ← sign, full]
      push_cast
      exact halved
    · refine ⟨-2 ^ 52, Int.log 2 |value| - 51, by norm_num, ?_⟩
      have negative : nearestEven (value / lastPlace value) = -2 ^ 53 := by omega
      rw [double, negative]
      push_cast
      linarith

theorem double_of_multiple {value : ℚ} (integer : Int)
    (multiple : value = integer * lastPlace value) : double value = value := by
  have scaled : value / lastPlace value = integer :=
    (div_eq_iff (lastPlace_pos value).ne').mpr multiple
  rw [double, scaled, nearestEven_intCast]
  exact multiple.symm

theorem double_of_isDouble {value : ℚ} (exact : IsDouble value) : double value = value := by
  rcases exact with ⟨mantissa, exponent, small, equal⟩
  rcases eq_or_ne value 0 with rfl | nonzero
  · exact double_of_multiple 0 (by simp)
  · have leading : (2 : ℚ) ^ Int.log 2 |value| ≤ |value| := by
      exact_mod_cast Int.zpow_log_le_self (one_lt_two (α := Nat)) (abs_pos.mpr nonzero)
    have limit : |value| < 2 ^ (53 + exponent) := by
      have smallToo : |(mantissa : ℚ)| < 2 ^ 53 := by exact_mod_cast small
      have positive : (0 : ℚ) < 2 ^ exponent := zpow_pos two_pos _
      rw [equal, abs_mul, abs_of_pos positive, zpow_add₀ two_ne_zero]
      exact mul_lt_mul_of_pos_right (by exact_mod_cast smallToo) positive
    have fits : Int.log 2 |value| - 52 ≤ exponent := by
      have powers := (zpow_lt_zpow_iff_right₀ one_lt_two).mp (leading.trans_lt limit)
      omega
    rcases Int.le.dest fits with ⟨places, sum⟩
    apply double_of_multiple (mantissa * 2 ^ places)
    rw [lastPlace]
    push_cast
    rw [mul_assoc, ← zpow_natCast, ← zpow_add₀ two_ne_zero, add_comm, sum]
    exact equal

theorem double_double (value : ℚ) : double (double value) = double value :=
  double_of_isDouble (isDouble_double value)

@[simp] theorem double_zero : double 0 = 0 :=
  double_of_isDouble ⟨0, 0, by norm_num, by norm_num⟩

/-! ## The order -/

theorem double_nonneg {value : ℚ} (nonneg : 0 ≤ value) : 0 ≤ double value := by
  have positive := lastPlace_pos value
  have rounded := nearestEven_mono (div_nonneg nonneg positive.le)
  have zero : nearestEven 0 = 0 := by simpa using nearestEven_intCast 0
  rw [zero] at rounded
  exact mul_nonneg (by exact_mod_cast rounded) positive.le

/-- Rounding does not leave the interval between two powers of two. -/
theorem double_le_pow (value : ℚ) : double value ≤ 2 ^ (Int.log 2 |value| + 1) := by
  have most : (nearestEven (value / lastPlace value) : ℚ) ≤ 2 ^ 53 := by
    exact_mod_cast (abs_le.mp (nearestEven_scaled_le value)).2
  calc double value
      ≤ 2 ^ 53 * lastPlace value := mul_le_mul_of_nonneg_right most (lastPlace_pos value).le
    _ = 2 ^ (Int.log 2 |value| + 1) := by
        rw [pow_mul_lastPlace]
        congr 1
        push_cast
        ring

theorem pow_le_double {value : ℚ} (positive : 0 < value) :
    2 ^ Int.log 2 |value| ≤ double value := by
  have leading : (2 : ℚ) ^ Int.log 2 |value| ≤ value := by
    rw [abs_of_pos positive]
    exact_mod_cast Int.zpow_log_le_self (one_lt_two (α := Nat)) positive
  have least : (2 : ℚ) ^ 52 * lastPlace value = 2 ^ Int.log 2 |value| := by
    rw [pow_mul_lastPlace]
    congr 1
    push_cast
    ring
  have scaled : (2 : ℚ) ^ 52 ≤ value / lastPlace value := by
    rw [le_div_iff₀ (lastPlace_pos value), least]
    exact leading
  have rounded := nearestEven_mono (show ((2 ^ 52 : Int) : ℚ) ≤ _ by exact_mod_cast scaled)
  rw [nearestEven_intCast] at rounded
  rw [← least]
  exact mul_le_mul_of_nonneg_right (by exact_mod_cast rounded) (lastPlace_pos value).le

theorem double_mono {left right : ℚ} (nonneg : 0 ≤ left) (le : left ≤ right) :
    double left ≤ double right := by
  rcases nonneg.eq_or_lt with rfl | positive
  · rw [double_zero]
    exact double_nonneg le
  · have rightPos : 0 < right := positive.trans_le le
    have logs : Int.log 2 |left| ≤ Int.log 2 |right| := by
      rw [abs_of_pos positive, abs_of_pos rightPos]
      exact Int.log_mono_right positive le
    rcases logs.eq_or_lt with same | apart
    · have places : lastPlace left = lastPlace right := by rw [lastPlace, lastPlace, same]
      have rounded := nearestEven_mono
        (div_le_div_of_nonneg_right le (lastPlace_pos right).le)
      rw [double, double, places]
      exact mul_le_mul_of_nonneg_right (by exact_mod_cast rounded) (lastPlace_pos right).le
    · calc double left
          ≤ 2 ^ (Int.log 2 |left| + 1) := double_le_pow left
        _ ≤ 2 ^ Int.log 2 |right| := zpow_le_zpow_right₀ one_le_two apart
        _ ≤ double right := pow_le_double rightPos

/-! ## Limits -/

/-- `count > limit` for a count that is finite. -/
def exceeds (count : ℚ) : Number → Bool
  | .finite limit => limit.toRat < count
  | .infinity negative => negative
  | .nan => false

theorem exceeds_mono {limit : Number} {fewer more : ℚ} (le : fewer ≤ more)
    (above : exceeds fewer limit = true) : exceeds more limit = true := by
  cases limit with
  | finite limit => exact decide_eq_true ((of_decide_eq_true above).trans_le le)
  | infinity negative => exact above
  | nan => cases above

end SovAgent
