import SovAgent.Foundation.DoubleOrder

/-! # Arithmetic of binary64

Numbers with their largest and smallest exponents: results that are too large are infinite,
and results that are too small lose places. Zero has no sign. Operations on numbers that are
not negative grow with their operands.
-/

namespace SovAgent

/-! ## Rounding to a place -/

def roundAt (place value : ℚ) : ℚ := nearestEven (value / place) * place

theorem roundAt_mono {place left right : ℚ} (positive : 0 < place) (le : left ≤ right) :
    roundAt place left ≤ roundAt place right := by
  have rounded := nearestEven_mono (div_le_div_of_nonneg_right le positive.le)
  exact mul_le_mul_of_nonneg_right (by exact_mod_cast rounded) positive.le

theorem roundAt_multiple {place value : ℚ} (positive : 0 < place) (integer : Int)
    (multiple : value = integer * place) : roundAt place value = value := by
  have scaled : value / place = integer := (div_eq_iff positive.ne').mpr multiple
  rw [roundAt, scaled, nearestEven_intCast]
  exact multiple.symm

theorem roundAt_pow {place exponent : Int} (le : place ≤ exponent) :
    roundAt (2 ^ place) (2 ^ exponent) = 2 ^ exponent := by
  rcases Int.le.dest le with ⟨places, sum⟩
  apply roundAt_multiple (zpow_pos two_pos _) (2 ^ places)
  push_cast
  rw [← zpow_natCast, ← zpow_add₀ two_ne_zero, add_comm, sum]

/-! ## Numbers -/

inductive Binary64 where
  | finite (value : ℚ)
  | infinity (negative : Bool)
  | nan
deriving DecidableEq

namespace Binary64

def lastExponent (value : ℚ) : Int := max (-1074) (Int.log 2 |value| - 52)

/-- A number rounded to its last place. -/
def rounded (value : ℚ) : ℚ := roundAt (2 ^ lastExponent value) value

def ofRat (value : ℚ) : Binary64 :=
  if |rounded value| < 2 ^ 1024 then .finite (rounded value) else .infinity (value < 0)

protected def le : Binary64 → Binary64 → Bool
  | .finite left, .finite right => left ≤ right
  | .finite _, .infinity negative => !negative
  | .infinity negative, .finite _ => negative
  | .infinity left, .infinity right => left || !right
  | _, _ => false

instance : LE Binary64 := ⟨fun left right => left.le right = true⟩

instance (left right : Binary64) : Decidable (left ≤ right) :=
  inferInstanceAs (Decidable (left.le right = true))

instance : LT Binary64 := ⟨fun left right => left ≤ right ∧ ¬right ≤ left⟩

instance (left right : Binary64) : Decidable (left < right) :=
  inferInstanceAs (Decidable (left ≤ right ∧ ¬right ≤ left))

instance : Add Binary64 where
  add
    | .finite left, .finite right => ofRat (left + right)
    | .finite _, .infinity negative => .infinity negative
    | .infinity negative, .finite _ => .infinity negative
    | .infinity left, .infinity right => if left = right then .infinity left else .nan
    | _, _ => .nan

instance : Neg Binary64 where
  neg
    | .finite value => .finite (-value)
    | .infinity negative => .infinity !negative
    | .nan => .nan

instance : Sub Binary64 := ⟨fun left right => left + -right⟩

instance : Mul Binary64 where
  mul
    | .finite left, .finite right => ofRat (left * right)
    | .finite value, .infinity negative | .infinity negative, .finite value =>
        if value = 0 then .nan else .infinity (negative ^^ value < 0)
    | .infinity left, .infinity right => .infinity (left ^^ right)
    | _, _ => .nan

instance : Div Binary64 where
  div
    | .finite left, .finite right =>
        if right = 0 then if left = 0 then .nan else .infinity (left < 0)
        else ofRat (left / right)
    | .finite _, .infinity _ => .finite 0
    | .infinity negative, .finite value => .infinity (negative ^^ value < 0)
    | _, _ => .nan

def mathRound : Binary64 → Binary64
  | .finite value => .finite ⌊value + 1 / 2⌋
  | number => number

def isFinite : Binary64 → Bool
  | .finite _ => true
  | .infinity _ | .nan => false

example : ofRat (1 / 10) + ofRat (2 / 10) ≠ ofRat (3 / 10) := by decide +kernel
example : ofRat (2 ^ 1023) + ofRat (2 ^ 1023) = .infinity false := by decide +kernel

/-! ## Rounding -/

theorem rounded_zero : rounded 0 = 0 :=
  roundAt_multiple (zpow_pos two_pos _) 0 (by simp)

theorem rounded_nonneg {value : ℚ} (nonneg : 0 ≤ value) : 0 ≤ rounded value := by
  have place : (0 : ℚ) < 2 ^ lastExponent value := zpow_pos two_pos _
  have least := roundAt_mono place nonneg
  rw [roundAt_multiple place 0 (by simp)] at least
  exact least

theorem rounded_mono {left right : ℚ} (nonneg : 0 ≤ left) (le : left ≤ right) :
    rounded left ≤ rounded right := by
  rcases nonneg.eq_or_lt with rfl | positive
  · rw [rounded_zero]
    exact rounded_nonneg le
  · have rightPos : 0 < right := positive.trans_le le
    have logs : Int.log 2 |left| ≤ Int.log 2 |right| := by
      rw [abs_of_pos positive, abs_of_pos rightPos]
      exact Int.log_mono_right positive le
    have places : lastExponent left ≤ lastExponent right := by
      rw [lastExponent, lastExponent]
      omega
    rcases places.eq_or_lt with same | apart
    · rw [rounded, rounded, same]
      exact roundAt_mono (zpow_pos two_pos _) le
    · -- a power of two between both numbers is a number at either place
      have leftFits : lastExponent left ≤ Int.log 2 |right| := by
        rw [lastExponent, lastExponent] at apart
        rw [lastExponent]
        omega
      have rightFits : lastExponent right ≤ Int.log 2 |right| := by
        rw [lastExponent, lastExponent] at apart
        rw [lastExponent]
        omega
      have jump : Int.log 2 |left| + 1 ≤ Int.log 2 |right| := by
        rw [lastExponent, lastExponent] at apart
        omega
      have below : left ≤ 2 ^ Int.log 2 |right| := by
        calc left
            = |left| := (abs_of_pos positive).symm
          _ ≤ 2 ^ (Int.log 2 |left| + 1) := by
              exact_mod_cast (Int.lt_zpow_succ_log_self (one_lt_two (α := Nat)) |left|).le
          _ ≤ 2 ^ Int.log 2 |right| := zpow_le_zpow_right₀ one_le_two jump
      have above : (2 : ℚ) ^ Int.log 2 |right| ≤ right := by
        rw [abs_of_pos rightPos]
        exact_mod_cast Int.zpow_log_le_self (one_lt_two (α := Nat)) rightPos
      calc rounded left
          ≤ roundAt (2 ^ lastExponent left) (2 ^ Int.log 2 |right|) :=
            roundAt_mono (zpow_pos two_pos _) below
        _ = 2 ^ Int.log 2 |right| := roundAt_pow leftFits
        _ = roundAt (2 ^ lastExponent right) (2 ^ Int.log 2 |right|) :=
            (roundAt_pow rightFits).symm
        _ ≤ rounded right := roundAt_mono (zpow_pos two_pos _) above

theorem mantissa_le (value : ℚ) :
    |nearestEven (value / 2 ^ lastExponent value)| ≤ 2 ^ 53 := by
  have place : (0 : ℚ) < 2 ^ lastExponent value := zpow_pos two_pos _
  have exponents : Int.log 2 |value| + 1 ≤ 53 + lastExponent value := by
    rw [lastExponent]
    omega
  have scaled : |value / 2 ^ lastExponent value| ≤ 2 ^ 53 := by
    rw [abs_div, abs_of_pos place, div_le_iff₀ place]
    calc |value|
        ≤ 2 ^ (Int.log 2 |value| + 1) := by
          exact_mod_cast (Int.lt_zpow_succ_log_self (one_lt_two (α := Nat)) |value|).le
      _ ≤ 2 ^ (53 + lastExponent value) := zpow_le_zpow_right₀ one_le_two exponents
      _ = 2 ^ 53 * 2 ^ lastExponent value := by
          rw [zpow_add₀ two_ne_zero]
          norm_num
  have bounds := abs_le.mp scaled
  have low := nearestEven_mono (show ((-2 ^ 53 : Int) : ℚ) ≤ _ by exact_mod_cast bounds.1)
  have high := nearestEven_mono (show _ ≤ ((2 ^ 53 : Int) : ℚ) by exact_mod_cast bounds.2)
  rw [nearestEven_intCast] at low high
  exact abs_le.mpr ⟨low, high⟩

theorem rounded_eq {mantissa exponent : Int} (small : |mantissa| ≤ 2 ^ 53)
    (least : -1074 ≤ exponent) :
    rounded (mantissa * 2 ^ exponent) = mantissa * 2 ^ exponent := by
  rcases eq_or_ne mantissa 0 with rfl | nonzero
  · rw [Int.cast_zero, zero_mul, rounded_zero]
  · have positive : (0 : ℚ) < 2 ^ exponent := zpow_pos two_pos _
    have magnitude : |(mantissa : ℚ) * 2 ^ exponent| = |(mantissa : ℚ)| * 2 ^ exponent := by
      rw [abs_mul, abs_of_pos positive]
    have large : (0 : ℚ) < |(mantissa : ℚ) * 2 ^ exponent| := by
      have nonzero' : (mantissa : ℚ) ≠ 0 := by exact_mod_cast nonzero
      positivity
    have leading : (2 : ℚ) ^ Int.log 2 |(mantissa : ℚ) * 2 ^ exponent| ≤
        |(mantissa : ℚ)| * 2 ^ exponent := by
      rw [← magnitude]
      exact_mod_cast Int.zpow_log_le_self (one_lt_two (α := Nat)) large
    have limit : |(mantissa : ℚ)| * 2 ^ exponent ≤ 2 ^ (53 + exponent) := by
      rw [zpow_add₀ two_ne_zero]
      exact mul_le_mul_of_nonneg_right (by exact_mod_cast small) positive.le
    have fits := (zpow_le_zpow_iff_right₀ one_lt_two).mp (leading.trans limit)
    have places : lastExponent (mantissa * 2 ^ exponent) ≤ exponent + 1 := by
      rw [lastExponent]
      omega
    rcases places.eq_or_lt with full | inside
    · -- only the power of two itself reaches the next place
      have top : Int.log 2 |(mantissa : ℚ) * 2 ^ exponent| = 53 + exponent := by
        rw [lastExponent] at full
        omega
      rw [top, zpow_add₀ two_ne_zero] at leading
      have whole : (2 : ℚ) ^ 53 ≤ |(mantissa : ℚ)| := by
        exact_mod_cast le_of_mul_le_mul_right leading positive
      have equal : |mantissa| = 2 ^ 53 := le_antisymm small (by exact_mod_cast whole)
      have halved : ∃ half : Int, mantissa = half * 2 := by
        rcases abs_choice mantissa with sign | sign
        · exact ⟨2 ^ 52, by omega⟩
        · exact ⟨-2 ^ 52, by omega⟩
      rcases halved with ⟨half, twice⟩
      rw [rounded, full]
      apply roundAt_multiple (zpow_pos two_pos _) half
      rw [twice, zpow_add₀ two_ne_zero]
      push_cast
      ring
    · rcases Int.le.dest (Int.lt_add_one_iff.mp inside) with ⟨more, sum⟩
      apply roundAt_multiple (zpow_pos two_pos _) (mantissa * 2 ^ more)
      push_cast
      rw [mul_assoc, ← zpow_natCast, ← zpow_add₀ two_ne_zero, add_comm, sum]

theorem rounded_rounded (value : ℚ) : rounded (rounded value) = rounded value := by
  apply rounded_eq (mantissa_le value)
  rw [lastExponent]
  omega

/-- Away from the smallest numbers only the 53 bits count. -/
theorem rounded_eq_double {value : ℚ} (normal : 2 ^ (-1022 : Int) ≤ |value|) :
    rounded value = double value := by
  have positive : 0 < |value| := lt_of_lt_of_le (zpow_pos two_pos _) normal
  have leading : -1022 ≤ Int.log 2 |value| := by
    apply (Int.zpow_le_iff_le_log one_lt_two positive).mp
    exact_mod_cast normal
  have place : lastExponent value = Int.log 2 |value| - 52 := by
    rw [lastExponent]
    omega
  rw [rounded, place]
  rfl

theorem ofRat_eq_double {value : ℚ} (normal : 2 ^ (-1022 : Int) ≤ |value|)
    (bounded : |double value| < 2 ^ 1024) : ofRat value = .finite (double value) := by
  rw [← rounded_eq_double normal] at bounded ⊢
  rw [ofRat, if_pos bounded]

theorem ofRat_intCast {integer : Int} (small : |integer| ≤ 2 ^ 53) :
    ofRat integer = .finite integer := by
  have whole := rounded_eq small (show (-1074 : Int) ≤ 0 by decide)
  rw [zpow_zero, mul_one] at whole
  have bounded : |(integer : ℚ)| < 2 ^ 1024 := by
    calc |(integer : ℚ)| ≤ 2 ^ 53 := by exact_mod_cast small
      _ < 2 ^ 1024 := pow_lt_pow_right₀ one_lt_two (by decide)
  rw [ofRat, whole, if_pos bounded]

/-! ## The order -/

@[simp] theorem finite_le_finite {left right : ℚ} :
    Binary64.finite left ≤ .finite right ↔ left ≤ right := decide_eq_true_iff

@[simp] theorem finite_lt_finite {left right : ℚ} :
    Binary64.finite left < .finite right ↔ left < right := by
  change _ ∧ _ ↔ _
  rw [finite_le_finite, finite_le_finite, lt_iff_le_not_ge]

@[simp] theorem finite_le_infinity {value : ℚ} {negative : Bool} :
    Binary64.finite value ≤ .infinity negative ↔ negative = false := by
  change (!negative) = true ↔ negative = false
  cases negative <;> decide

@[simp] theorem infinity_le_finite {value : ℚ} {negative : Bool} :
    Binary64.infinity negative ≤ .finite value ↔ negative = true := Iff.rfl

@[simp] theorem infinity_le_infinity {left right : Bool} :
    Binary64.infinity left ≤ .infinity right ↔ left = true ∨ right = false := by
  cases left <;> cases right <;> decide

@[simp] theorem not_nan_le (number : Binary64) : ¬Binary64.nan ≤ number := by
  intro le
  cases number <;> cases le

@[simp] theorem not_le_nan (number : Binary64) : ¬number ≤ .nan := by
  intro le
  cases number <;> cases le

theorem le_of_le_of_le {first second third : Binary64} (left : first ≤ second)
    (right : second ≤ third) : first ≤ third := by
  cases first <;> cases second <;> cases third <;> simp at left right ⊢
  · exact left.trans right
  all_goals grind

def Nonneg (number : Binary64) : Prop := finite 0 ≤ number

theorem nonneg_finite {value : ℚ} : Nonneg (finite value) ↔ 0 ≤ value := finite_le_finite

theorem Nonneg.trans {left right : Binary64} (nonneg : Nonneg left) (le : left ≤ right) :
    Nonneg right := le_of_le_of_le nonneg le

theorem ofRat_mono {left right : ℚ} (nonneg : 0 ≤ left) (le : left ≤ right) :
    ofRat left ≤ ofRat right := by
  have mono := rounded_mono nonneg le
  have leftNonneg := rounded_nonneg nonneg
  have rightNonneg := rounded_nonneg (nonneg.trans le)
  rw [ofRat, ofRat, abs_of_nonneg leftNonneg, abs_of_nonneg rightNonneg]
  split
  · split
    · exact finite_le_finite.mpr mono
    · simp [nonneg.trans le]
  · rename_i large
    rw [if_neg fun small => large (mono.trans_lt small)]
    simp [nonneg.trans le]

theorem ofRat_zero : ofRat 0 = .finite 0 := by
  rw [ofRat, rounded_zero, if_pos (by norm_num)]

theorem ofRat_nonneg {value : ℚ} (nonneg : 0 ≤ value) : Nonneg (ofRat value) := by
  have least := ofRat_mono le_rfl nonneg
  rw [ofRat_zero] at least
  exact least

/-- A number of the format: it is not rounded. -/
def Represented : Binary64 → Prop
  | .finite value => ofRat value = .finite value
  | .infinity _ | .nan => True

theorem represented_ofRat (value : ℚ) : Represented (ofRat value) := by
  cases result : ofRat value with
  | finite other =>
      rw [ofRat] at result
      split at result
      · rename_i small
        cases result
        rw [Represented, ofRat, rounded_rounded, if_pos small]
      · cases result
  | infinity negative => trivial
  | nan => trivial

theorem finite_of_between {low high : ℚ} {number : Binary64} (above : finite low ≤ number)
    (below : number ≤ finite high) : ∃ value, low ≤ value ∧ value ≤ high ∧
      number = finite value := by
  cases number with
  | finite value => exact ⟨value, finite_le_finite.mp above, finite_le_finite.mp below, rfl⟩
  | infinity negative =>
      rw [infinity_le_finite.mp below] at above
      cases above
  | nan => exact absurd above (not_le_nan _)

/-! ## Operations -/

theorem represented_add (left right : Binary64) : Represented (left + right) := by
  cases left with
  | finite value =>
      cases right with
      | finite other => exact represented_ofRat _
      | infinity negative => trivial
      | nan => trivial
  | infinity negative =>
      cases right with
      | finite other => trivial
      | infinity negative' => cases negative <;> cases negative' <;> trivial
      | nan => trivial
  | nan => cases right <;> trivial

theorem represented_mul (left : Binary64) (factor : ℚ) : Represented (left * finite factor) := by
  cases left with
  | finite value => exact represented_ofRat _
  | infinity negative =>
      have result : infinity negative * finite factor =
        if factor = 0 then nan else infinity (negative ^^ factor < 0) := rfl
      rw [result]
      split <;> trivial
  | nan => trivial

theorem Nonneg.le_infinity {number : Binary64} (nonneg : Nonneg number) :
    number ≤ .infinity false := by
  cases number with
  | finite value => exact finite_le_infinity.mpr rfl
  | infinity negative => exact infinity_le_infinity.mpr (.inr rfl)
  | nan => exact absurd nonneg (not_le_nan _)

theorem Nonneg.finite_or_infinite {number : Binary64} (nonneg : Nonneg number) :
    (∃ value, 0 ≤ value ∧ number = .finite value) ∨ number = .infinity false := by
  cases number with
  | finite value => exact .inl ⟨value, nonneg_finite.mp nonneg, rfl⟩
  | infinity negative => exact .inr (congrArg infinity (finite_le_infinity.mp nonneg))
  | nan => exact absurd nonneg (not_le_nan _)

theorem Nonneg.le_self {number : Binary64} (nonneg : Nonneg number) : number ≤ number := by
  rcases nonneg.finite_or_infinite with ⟨value, _, rfl⟩ | rfl
  · exact finite_le_finite.mpr le_rfl
  · exact infinity_le_infinity.mpr (.inr rfl)

theorem Nonneg.not_lt_iff {left right : Binary64} (leftNonneg : Nonneg left)
    (rightNonneg : Nonneg right) : ¬left < right ↔ right ≤ left := by
  have total : left ≤ right ∨ right ≤ left := by
    rcases leftNonneg.finite_or_infinite with ⟨value, _, rfl⟩ | rfl
    · rcases rightNonneg.finite_or_infinite with ⟨other, _, rfl⟩ | rfl
      · exact (le_total value other).imp finite_le_finite.mpr finite_le_finite.mpr
      · exact .inl leftNonneg.le_infinity
    · exact .inr rightNonneg.le_infinity
  constructor
  · intro notLess
    by_contra notLe
    exact notLess ⟨total.resolve_right notLe, notLe⟩
  · intro le less
    exact less.2 le

@[simp] theorem add_finite (left right : ℚ) : finite left + finite right = ofRat (left + right) :=
  rfl

@[simp] theorem mul_finite (left right : ℚ) : finite left * finite right = ofRat (left * right) :=
  rfl

theorem div_finite (left : ℚ) {right : ℚ} (nonzero : right ≠ 0) :
    finite left / finite right = ofRat (left / right) := if_neg nonzero

theorem nonneg_add {left right : Binary64} (leftNonneg : Nonneg left)
    (rightNonneg : Nonneg right) : Nonneg (left + right) := by
  rcases leftNonneg.finite_or_infinite with ⟨value, nonneg, rfl⟩ | rfl
  · rcases rightNonneg.finite_or_infinite with ⟨other, otherNonneg, rfl⟩ | rfl
    · exact ofRat_nonneg (by linarith)
    · exact finite_le_infinity.mpr rfl
  · rcases rightNonneg.finite_or_infinite with ⟨other, otherNonneg, rfl⟩ | rfl
    · exact finite_le_infinity.mpr rfl
    · exact finite_le_infinity.mpr rfl

theorem add_mono {left left' right right' : Binary64} (leftNonneg : Nonneg left)
    (rightNonneg : Nonneg right) (leftLe : left ≤ left') (rightLe : right ≤ right') :
    left + right ≤ left' + right' := by
  have total := (nonneg_add leftNonneg rightNonneg).le_infinity
  rcases (leftNonneg.trans leftLe).finite_or_infinite with ⟨value', _, rfl⟩ | rfl
  · rcases (rightNonneg.trans rightLe).finite_or_infinite with ⟨other', _, rfl⟩ | rfl
    · rcases leftNonneg.finite_or_infinite with ⟨value, nonneg, rfl⟩ | rfl
      · rcases rightNonneg.finite_or_infinite with ⟨other, otherNonneg, rfl⟩ | rfl
        · rw [finite_le_finite] at leftLe rightLe
          exact ofRat_mono (by linarith) (by linarith)
        · cases rightLe
      · cases leftLe
    · exact total
  · rcases (rightNonneg.trans rightLe).finite_or_infinite with ⟨other', _, rfl⟩ | rfl
    · exact total
    · exact total

theorem le_add {left right : Binary64} (leftNonneg : Nonneg left)
    (represented : Represented left) (rightNonneg : Nonneg right) : left ≤ left + right := by
  rcases leftNonneg.finite_or_infinite with ⟨value, nonneg, rfl⟩ | rfl
  · rcases rightNonneg.finite_or_infinite with ⟨other, otherNonneg, rfl⟩ | rfl
    · calc finite value
          = ofRat value := represented.symm
        _ ≤ ofRat (value + other) := ofRat_mono nonneg (by linarith)
    · exact finite_le_infinity.mpr rfl
  · rcases rightNonneg.finite_or_infinite with ⟨other, otherNonneg, rfl⟩ | rfl
    · exact infinity_le_infinity.mpr (.inr rfl)
    · exact infinity_le_infinity.mpr (.inr rfl)

theorem infinity_mul {factor : ℚ} (positive : 0 < factor) :
    infinity false * finite factor = infinity false := by
  have result : infinity false * finite factor =
      if factor = 0 then nan else infinity (false ^^ factor < 0) := rfl
  rw [result, if_neg positive.ne', decide_eq_false positive.not_gt]
  rfl

theorem mul_mono {number number' : Binary64} {factor factor' : ℚ} (nonneg : Nonneg number)
    (le : number ≤ number') (positive : 0 < factor) (factorLe : factor ≤ factor') :
    number * finite factor ≤ number' * finite factor' := by
  have positive' := positive.trans_le factorLe
  rcases (nonneg.trans le).finite_or_infinite with ⟨value', _, rfl⟩ | rfl
  · rcases nonneg.finite_or_infinite with ⟨value, valueNonneg, rfl⟩ | rfl
    · rw [finite_le_finite] at le
      exact ofRat_mono (by positivity) (by gcongr)
    · cases le
  · rw [infinity_mul positive']
    rcases nonneg.finite_or_infinite with ⟨value, valueNonneg, rfl⟩ | rfl
    · exact (ofRat_nonneg (by positivity)).le_infinity
    · rw [infinity_mul positive]
      exact infinity_le_infinity.mpr (.inr rfl)

theorem nonneg_mul {number : Binary64} {factor : ℚ} (nonneg : Nonneg number)
    (positive : 0 < factor) : Nonneg (number * finite factor) := by
  have least := mul_mono (nonneg_finite.mpr le_rfl) nonneg positive le_rfl
  rw [mul_finite, zero_mul, ofRat_zero] at least
  exact least

theorem infinity_div {divisor : ℚ} (positive : 0 < divisor) :
    infinity false / finite divisor = infinity false := by
  have result : infinity false / finite divisor = infinity (false ^^ divisor < 0) := rfl
  rw [result, decide_eq_false positive.not_gt]
  rfl

theorem div_mono {number number' : Binary64} {divisor divisor' : ℚ} (nonneg : Nonneg number)
    (le : number ≤ number') (positive' : 0 < divisor') (divisorLe : divisor' ≤ divisor) :
    number / finite divisor ≤ number' / finite divisor' := by
  have positive := positive'.trans_le divisorLe
  rcases (nonneg.trans le).finite_or_infinite with ⟨value', _, rfl⟩ | rfl
  · rcases nonneg.finite_or_infinite with ⟨value, valueNonneg, rfl⟩ | rfl
    · rw [finite_le_finite] at le
      rw [div_finite _ positive.ne', div_finite _ positive'.ne']
      exact ofRat_mono (by positivity) (by gcongr)
    · cases le
  · rw [infinity_div positive']
    rcases nonneg.finite_or_infinite with ⟨value, valueNonneg, rfl⟩ | rfl
    · rw [div_finite _ positive.ne']
      exact (ofRat_nonneg (by positivity)).le_infinity
    · rw [infinity_div positive]
      exact infinity_le_infinity.mpr (.inr rfl)

theorem nonneg_div {number : Binary64} {divisor : ℚ} (nonneg : Nonneg number)
    (positive : 0 < divisor) : Nonneg (number / finite divisor) := by
  have least := div_mono (nonneg_finite.mpr le_rfl) nonneg positive le_rfl
  rw [div_finite _ positive.ne', zero_div, ofRat_zero] at least
  exact least

/-- The same amount is taken from two numbers that are at least as large. -/
theorem sub_mono {number number' : Binary64} {amount : ℚ} (nonneg : 0 ≤ amount)
    (enough : finite amount ≤ number) (le : number ≤ number') :
    Nonneg (number - finite amount) ∧ number - finite amount ≤ number' - finite amount := by
  have finiteSub (value : ℚ) : finite value - finite amount = ofRat (value - amount) :=
    congrArg ofRat (sub_eq_add_neg value amount).symm
  have infiniteSub : infinity false - finite amount = infinity false := rfl
  have whole : Nonneg number := (nonneg_finite.mpr nonneg).trans enough
  rcases (whole.trans le).finite_or_infinite with ⟨value', _, rfl⟩ | rfl
  · rcases whole.finite_or_infinite with ⟨value, _, rfl⟩ | rfl
    · rw [finite_le_finite] at enough le
      rw [finiteSub, finiteSub]
      exact ⟨ofRat_nonneg (by linarith), ofRat_mono (by linarith) (by linarith)⟩
    · cases le
  · rw [infiniteSub]
    rcases whole.finite_or_infinite with ⟨value, _, rfl⟩ | rfl
    · rw [finite_le_finite] at enough
      rw [finiteSub]
      have difference : Nonneg (ofRat (value - amount)) := ofRat_nonneg (by linarith)
      exact ⟨difference, difference.le_infinity⟩
    · exact ⟨finite_le_infinity.mpr rfl, infinity_le_infinity.mpr (.inr rfl)⟩

theorem mathRound_mono {number number' : Binary64} (le : number ≤ number') :
    mathRound number ≤ mathRound number' := by
  cases number with
  | finite value =>
      cases number' with
      | finite value' =>
          rw [finite_le_finite] at le
          have floors : ⌊value + 1 / 2⌋ ≤ ⌊value' + 1 / 2⌋ := Int.floor_le_floor (by linarith)
          exact finite_le_finite.mpr (by exact_mod_cast floors)
      | infinity negative => exact finite_le_infinity.mpr (finite_le_infinity.mp le)
      | nan => exact absurd le (not_le_nan _)
  | infinity negative =>
      cases number' with
      | finite value' => exact infinity_le_finite.mpr (infinity_le_finite.mp le)
      | infinity negative' => exact le
      | nan => exact absurd le (not_le_nan _)
  | nan => exact absurd le (not_nan_le _)

theorem nonneg_mathRound {number : Binary64} (nonneg : Nonneg number) :
    Nonneg (mathRound number) := by
  have least := mathRound_mono nonneg
  have zero : mathRound (finite 0) = finite 0 := by decide +kernel
  rw [zero] at least
  exact least

/-! ## Scaling a number of the format -/

theorem le_mul {number : Binary64} {factor : ℚ} (nonneg : Nonneg number)
    (represented : Represented number) (atLeast : 1 ≤ factor) :
    number ≤ number * finite factor := by
  have positive : 0 < factor := lt_of_lt_of_le one_pos atLeast
  rcases nonneg.finite_or_infinite with ⟨value, valueNonneg, rfl⟩ | rfl
  · calc finite value
        = ofRat value := represented.symm
      _ ≤ ofRat (value * factor) :=
          ofRat_mono valueNonneg (le_mul_of_one_le_right valueNonneg atLeast)
  · rw [infinity_mul positive]
    exact infinity_le_infinity.mpr (.inr rfl)

theorem le_div {number : Binary64} {divisor : ℚ} (nonneg : Nonneg number)
    (represented : Represented number) (positive : 0 < divisor) (atMost : divisor ≤ 1) :
    number ≤ number / finite divisor := by
  rcases nonneg.finite_or_infinite with ⟨value, valueNonneg, rfl⟩ | rfl
  · calc finite value
        = ofRat value := represented.symm
      _ ≤ ofRat (value / divisor) :=
          ofRat_mono valueNonneg (le_div_self valueNonneg positive atMost)
      _ = finite value / finite divisor := (div_finite value positive.ne').symm
  · rw [infinity_div positive]
    exact infinity_le_infinity.mpr (.inr rfl)

/-- Dividing by a number is at most multiplying by one that is as large as its inverse. -/
theorem div_le_mul {number : Binary64} {divisor factor : ℚ} (nonneg : Nonneg number)
    (positive : 0 < divisor) (inverse : 1 ≤ divisor * factor) :
    number / finite divisor ≤ number * finite factor := by
  have factorPos : 0 < factor := pos_of_mul_pos_right (one_pos.trans_le inverse) positive.le
  rcases nonneg.finite_or_infinite with ⟨value, valueNonneg, rfl⟩ | rfl
  · rw [div_finite _ positive.ne', mul_finite]
    apply ofRat_mono (by positivity)
    rw [div_le_iff₀ positive, mul_assoc, mul_comm factor]
    exact le_mul_of_one_le_right valueNonneg inverse
  · rw [infinity_div positive, infinity_mul factorPos]
    exact infinity_le_infinity.mpr (.inr rfl)

end Binary64

end SovAgent
