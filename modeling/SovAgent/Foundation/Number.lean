import Mathlib.Data.Rat.Defs

/-! # JavaScript numbers

A finite number is the decimal that it prints as. Arithmetic on numbers is
exact, through `Decimal.toRat`; `double` rounds where rounding matters.
-/

namespace SovAgent

/-- A finite number `mantissa * 10 ^ exponent` in lowest terms, so that equal
numbers are equal values of this type. -/
structure Decimal where
  mantissa : Int
  exponent : Int
  normal : mantissa % 10 ≠ 0 ∨ mantissa = 0 ∧ exponent = 0
deriving DecidableEq, Repr

namespace Decimal

def toRat (decimal : Decimal) : ℚ :=
  match decimal.exponent with
  | .ofNat power => decimal.mantissa * 10 ^ power
  | .negSucc power => decimal.mantissa / 10 ^ (power + 1)

/-- Move the trailing zeros of a mantissa into its exponent. -/
def stripZeros : (fuel : Nat) → (mantissa exponent : Int) → Int × Int
  | 0, mantissa, exponent => (mantissa, exponent)
  | fuel + 1, mantissa, exponent =>
      if mantissa % 10 = 0 then stripZeros fuel (mantissa / 10) (exponent + 1)
      else (mantissa, exponent)

theorem stripZeros_normal (fuel : Nat) (mantissa exponent : Int)
    (enough : mantissa.natAbs ≤ fuel) (nonzero : mantissa ≠ 0) :
    (stripZeros fuel mantissa exponent).1 % 10 ≠ 0 := by
  induction fuel generalizing mantissa exponent with
  | zero => omega
  | succ fuel induction =>
      rw [stripZeros]
      split
      · exact induction _ _ (by omega) (by omega)
      · assumption

def ofScientific (mantissa exponent : Int) : Decimal :=
  if zero : mantissa = 0 then ⟨0, 0, .inr ⟨rfl, rfl⟩⟩
  else
    ⟨(stripZeros mantissa.natAbs mantissa exponent).1,
      (stripZeros mantissa.natAbs mantissa exponent).2,
      .inl (stripZeros_normal _ _ _ le_rfl zero)⟩

def ofInt (value : Int) : Decimal := ofScientific value 0

instance : OfNat Decimal value := ⟨ofInt value⟩

def digits (value : Nat) : String := String.ofList (Nat.toDigits 10 value)

def zeros (count : Nat) : String := String.ofList (List.replicate count '0')

def exponentText (exponent : Int) : String :=
  if exponent < 0 then "e-" ++ digits exponent.natAbs else "e+" ++ digits exponent.natAbs

/-- Text of a positive number whose significant digits are `significant` and
whose decimal point stands after the first `point` of them. -/
def positionalText (significant : String) (point : Int) : String :=
  let count := significant.length
  if (count : Int) ≤ point ∧ point ≤ 21 then
    significant ++ zeros (point.toNat - count)
  else if 0 < point ∧ point ≤ 21 then
    String.ofList (significant.toList.take point.toNat) ++ "." ++
      String.ofList (significant.toList.drop point.toNat)
  else if -6 < point ∧ point ≤ 0 then
    "0." ++ zeros point.natAbs ++ significant
  else
    let leading := String.ofList (significant.toList.take 1)
    let rest := String.ofList (significant.toList.drop 1)
    if rest.isEmpty then leading ++ exponentText (point - 1)
    else leading ++ "." ++ rest ++ exponentText (point - 1)

/-- The shortest decimal text of a number, as `Number.prototype.toString`
renders it. -/
def toString (decimal : Decimal) : String :=
  if decimal.mantissa = 0 then "0"
  else
    let significant := digits decimal.mantissa.natAbs
    let unsigned := positionalText significant (significant.length + decimal.exponent)
    if decimal.mantissa < 0 then "-" ++ unsigned else unsigned

example : (ofScientific 1250 (-2)).toString = "12.5" := by decide
example : (ofScientific 1 21).toString = "1e+21" := by decide
example : (ofScientific (-25) (-9)).toString = "-2.5e-8" := by decide

end Decimal

/-- A JavaScript number, the non-finite ones included. -/
inductive Number where
  | finite (value : Decimal)
  | infinity (negative : Bool)
  | nan
deriving DecidableEq, Repr

namespace Number

instance : OfNat Number value := ⟨.finite (Decimal.ofInt value)⟩

def isFinite : Number → Bool
  | .finite _ => true
  | _ => false

def toString : Number → String
  | .finite value => value.toString
  | .infinity false => "Infinity"
  | .infinity true => "-Infinity"
  | .nan => "NaN"

instance : ToString Number := ⟨toString⟩

def isWhiteSpace (character : Char) : Bool :=
  character.toNat ∈ [0x09, 0x0A, 0x0B, 0x0C, 0x0D, 0x20, 0xA0, 0x1680, 0x2028, 0x2029,
    0x202F, 0x205F, 0x3000, 0xFEFF] ∨ 0x2000 ≤ character.toNat ∧ character.toNat ≤ 0x200A

def digitsValue (digits : List Char) : Nat :=
  digits.foldl (fun value digit => 10 * value + (digit.toNat - '0'.toNat)) 0

def takeSign : List Char → Bool × List Char
  | '+' :: rest => (false, rest)
  | '-' :: rest => (true, rest)
  | rest => (false, rest)

def exponentPart : List Char → Int
  | [] => 0
  | marker :: rest =>
      if marker = 'e' ∨ marker = 'E' then
        let (negative, digits) := takeSign rest
        let value := digitsValue (digits.takeWhile Char.isDigit)
        if negative then -value else value
      else 0

/-- `Number.parseFloat`: the longest numeric prefix of the trimmed text. -/
def parseFloat (text : String) : Number :=
  let (negative, body) := takeSign (text.toList.dropWhile isWhiteSpace)
  if "Infinity".toList.isPrefixOf body then .infinity negative
  else
    let whole := body.takeWhile Char.isDigit
    let afterWhole := body.dropWhile Char.isDigit
    let (fraction, afterFraction) := match afterWhole with
      | '.' :: tail => (tail.takeWhile Char.isDigit, tail.dropWhile Char.isDigit)
      | _ => ([], afterWhole)
    if whole.isEmpty && fraction.isEmpty then .nan
    else
      let magnitude : Int := digitsValue (whole ++ fraction)
      .finite (Decimal.ofScientific (if negative then -magnitude else magnitude)
        (exponentPart afterFraction - fraction.length))

example : parseFloat " -12.50e1 VRSC" =
    .finite (Decimal.ofInt (-125)) := by decide
example : parseFloat "none" = .nan := by decide

end Number

end SovAgent
