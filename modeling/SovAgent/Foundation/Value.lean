import Mathlib.Tactic.Positivity
import SovAgent.Foundation.Coercion

/-! # Values that a caller passes

Unlike the values of a JSON text these may be undefined, not finite, symbols or
objects with conversions of their own.
-/

namespace SovAgent

inductive Primitive where
  | undefined
  | null
  | bool (value : Bool)
  | number (value : Number)
  | bigint (value : Int)
  | string (text : String)
  | symbol
deriving DecidableEq, Repr

namespace Primitive

def toNumber : Primitive → Except ScriptError Number
  | undefined => .ok .nan
  | null => .ok 0
  | bool value => .ok (if value then 1 else 0)
  | number value => .ok value
  | bigint value => .ok (.finite (Decimal.ofInt value))
  | string text => .ok (Number.ofText text)
  | symbol => .error .typeError

def truthy : Primitive → Bool
  | undefined | null => false
  | bool value => value
  | number (.finite value) => value.mantissa ≠ 0
  | number (.infinity _) => true
  | number .nan => false
  | bigint value => value ≠ 0
  | string text => text ≠ ""
  | symbol => true

theorem toNumber_isOk_iff {value : Primitive} :
    (∃ number, value.toNumber = .ok number) ↔ value ≠ symbol := by
  cases value <;> simp [toNumber]

end Primitive

/-- Arrays, functions and other objects are known by what their conversion to a
primitive, with the hint of a number, returns or throws. -/
inductive Value where
  | primitive (value : Primitive)
  | object (converted : Except ScriptError Primitive)

namespace Value

/-- `Number(value)`. -/
def toNumber : Value → Except ScriptError Number
  | primitive value => value.toNumber
  | object converted => converted.bind Primitive.toNumber

def truthy : Value → Bool
  | primitive value => value.truthy
  | object _ => true

/-- `value == null`. -/
def isNullish : Value → Bool
  | primitive .undefined | primitive .null => true
  | _ => false

def finite? : Value → Option Decimal
  | primitive (.number (.finite value)) => some value
  | _ => none

/-- `Number(value)` does not throw. -/
def Convertible : Value → Prop
  | primitive value => value ≠ .symbol
  | object converted => ∃ value, converted = .ok value ∧ value ≠ .symbol

theorem toNumber_isOk_iff {value : Value} :
    (∃ number, value.toNumber = .ok number) ↔ value.Convertible := by
  cases value with
  | primitive value => exact Primitive.toNumber_isOk_iff
  | object converted =>
      cases converted with
      | error error => simp [toNumber, Convertible, Except.bind]
      | ok value => simp [toNumber, Convertible, Except.bind, Primitive.toNumber_isOk_iff]

end Value

/-! ## Integers -/

namespace Decimal

def isInteger (value : Decimal) : Bool := 0 ≤ value.exponent

theorem isInteger_iff {value : Decimal} :
    value.isInteger = true ↔ ∃ integer : Int, value.toRat = integer := by
  rcases value with ⟨mantissa, exponent, normal⟩
  cases exponent with
  | ofNat power =>
      constructor
      · intro _
        refine ⟨mantissa * 10 ^ power, ?_⟩
        simp [toRat]
      · intro _
        exact decide_eq_true (Int.natCast_nonneg power)
  | negSucc power =>
      constructor
      · intro impossible
        cases impossible
      · intro whole
        rcases whole with ⟨integer, equal⟩
        have scaled : mantissa = integer * 10 ^ (power + 1) := by
          have nonzero : (10 : ℚ) ^ (power + 1) ≠ 0 := by positivity
          have product := (div_eq_iff nonzero).mp equal
          exact_mod_cast product
        have tens : mantissa % 10 = 0 := by
          rw [scaled, Int.pow_succ, ← Int.mul_assoc]
          exact Int.mul_emod_left _ _
        rcases normal with odd | ⟨_, zero⟩
        · exact absurd tens odd
        · cases zero

/-- A number that counts something. -/
def isCount (value : Decimal) : Bool := value.isInteger && !decide (value.mantissa < 0)

theorem isCount_iff {value : Decimal} :
    value.isCount = true ↔ ∃ count : Nat, value.toRat = count := by
  have sign : (!decide (value.mantissa < 0)) = true ↔ 0 ≤ value.toRat := by
    rw [toRat_nonneg_iff, Bool.not_eq_true', decide_eq_false_iff_not, not_lt]
  rw [isCount, Bool.and_eq_true, sign, isInteger_iff]
  constructor
  · intro parts
    rcases parts with ⟨⟨integer, equal⟩, nonneg⟩
    rw [equal, Int.cast_nonneg_iff] at nonneg
    rcases Int.eq_ofNat_of_zero_le nonneg with ⟨count, rfl⟩
    exact ⟨count, equal⟩
  · intro counted
    rcases counted with ⟨count, equal⟩
    refine ⟨⟨count, equal⟩, ?_⟩
    rw [equal]
    exact Nat.cast_nonneg count

end Decimal

end SovAgent
