import SovAgent.Foundation.JsonText
import Mathlib.Algebra.Order.Ring.Rat
import Mathlib.Tactic.Positivity
import Mathlib.Tactic.Ring

/-! # Reading a printed number

A number is printed with its significant digits and the point in one of four
places. Read as JSON, each of the four texts gives the number back.
-/

namespace SovAgent

namespace Decimal

/-! ## The normal form -/

theorem stripZeros_shifted {mantissa : Int} (normal : mantissa % 10 ≠ 0) {power fuel : Nat}
    (enough : power ≤ fuel) (exponent : Int) :
    stripZeros fuel (mantissa * 10 ^ power) exponent = (mantissa, exponent + power) := by
  induction power generalizing fuel exponent with
  | zero =>
      rw [pow_zero, mul_one]
      cases fuel with
      | zero => simp [stripZeros]
      | succ fuel =>
          rw [stripZeros, if_neg normal]
          simp
  | succ power induction =>
      cases fuel with
      | zero => exact absurd enough (Nat.not_succ_le_zero power)
      | succ fuel =>
          have tenfold : mantissa * 10 ^ (power + 1) = mantissa * 10 ^ power * 10 := by ring
          rw [stripZeros, tenfold, if_pos (Int.mul_emod_left _ 10),
            Int.mul_ediv_cancel _ (by decide), induction (Nat.le_of_succ_le_succ enough)]
          congr 1
          push_cast
          ring

theorem ofScientific_shifted {decimal : Decimal} (nonzero : decimal.mantissa ≠ 0) (power : Nat) :
    ofScientific (decimal.mantissa * 10 ^ power) (decimal.exponent - power) = decimal := by
  have normal : decimal.mantissa % 10 ≠ 0 := by
    rcases decimal.normal with normal | ⟨zero, _⟩
    · exact normal
    · exact absurd zero nonzero
  have positive : (0 : Int) < 10 ^ power := Int.pow_pos (by decide)
  have shifted : decimal.mantissa * 10 ^ power ≠ 0 := Int.mul_ne_zero nonzero positive.ne'
  have enough : power ≤ (decimal.mantissa * 10 ^ power).natAbs := by
    rw [Int.natAbs_mul, Int.natAbs_pow]
    calc power ≤ 10 ^ power := Nat.le_of_lt (Nat.lt_pow_self (by decide))
      _ ≤ decimal.mantissa.natAbs * 10 ^ power :=
        Nat.le_mul_of_pos_left _ (Int.natAbs_pos.mpr nonzero)
  have stripped := stripZeros_shifted normal enough (decimal.exponent - power)
  rcases decimal with ⟨mantissa, exponent, _⟩
  simp only at stripped shifted
  simp only [ofScientific, dif_neg shifted, stripped]
  simp

theorem ofScientific_self (decimal : Decimal) :
    ofScientific decimal.mantissa decimal.exponent = decimal := by
  by_cases zero : decimal.mantissa = 0
  · rcases decimal with ⟨mantissa, exponent, normal⟩
    simp only at zero
    subst zero
    rcases normal with normal | ⟨_, zeroExponent⟩
    · exact absurd rfl normal
    · subst zeroExponent
      rfl
  · have plain := ofScientific_shifted zero 0
    simpa using plain

theorem stripZeros_value (fuel : Nat) (mantissa exponent : Int) :
    ∃ power : Nat, (stripZeros fuel mantissa exponent).2 = exponent + power ∧
      (stripZeros fuel mantissa exponent).1 * 10 ^ power = mantissa := by
  induction fuel generalizing mantissa exponent with
  | zero => exact ⟨0, by simp [stripZeros], by simp [stripZeros]⟩
  | succ fuel induction =>
      rw [stripZeros]
      split
      · rename_i divisible
        rcases induction (mantissa / 10) (exponent + 1) with ⟨power, shifted, value⟩
        refine ⟨power + 1, by rw [shifted]; push_cast; ring, ?_⟩
        rw [pow_succ, ← mul_assoc, value]
        exact Int.ediv_mul_cancel (Int.dvd_of_emod_eq_zero divisible)
      · exact ⟨0, by simp, by simp⟩

theorem toRat_ofInt (value : Int) : (ofInt value).toRat = value := by
  rw [ofInt, ofScientific]
  split
  · rename_i zero
    rw [zero]
    simp [toRat]
  · rcases stripZeros_value value.natAbs value 0 with ⟨power, shifted, product⟩
    rw [zero_add] at shifted
    simp only [toRat, shifted]
    exact_mod_cast product

theorem toRat_nonneg_iff {value : Decimal} : 0 ≤ value.toRat ↔ 0 ≤ value.mantissa := by
  rcases value with ⟨mantissa, exponent, normal⟩
  cases exponent with
  | ofNat power =>
      have positive : (0 : ℚ) < 10 ^ power := by positivity
      simp only [toRat, mul_nonneg_iff_of_pos_right positive, Int.cast_nonneg_iff]
  | negSucc power =>
      have positive : (0 : ℚ) < 10 ^ (power + 1) := by positivity
      simp only [toRat, le_div_iff₀ positive, zero_mul, Int.cast_nonneg_iff]

end Decimal

/-! ## Digits -/

theorem digits_toDigits (value : Nat) : ∀ digit ∈ Nat.toDigits 10 value, digit.isDigit :=
  fun _ member => Nat.isDigit_of_mem_toDigits (by decide) (by decide) member

theorem head_toDigits {value : Nat} (positive : 0 < value) :
    (Nat.toDigits 10 value).head? ≠ some '0' := by
  induction value using Nat.strongRecOn with
  | ind value induction =>
      by_cases small : value < 10
      · have single : ∀ digit < 10, 0 < digit → [Nat.digitChar digit].head? ≠ some '0' := by
          decide
        rw [Nat.toDigits_of_lt_base small]
        exact single value small positive
      · have large := Nat.le_of_not_lt small
        have first := induction (value / 10) (Nat.div_lt_self positive (by decide))
          (Nat.div_pos large (by decide))
        rw [Nat.toDigits_of_base_le (by decide) large]
        cases digits : Nat.toDigits 10 (value / 10) with
        | nil => exact absurd digits Nat.toDigits_ne_nil
        | cons digit rest =>
            rw [digits] at first
            exact first

def NoDigit (text : List Char) : Prop := ∀ character ∈ text.head?, character.isDigit = false

theorem takeWhile_digits {digits rest : List Char} (all : ∀ digit ∈ digits, digit.isDigit)
    (stops : NoDigit rest) :
    (digits ++ rest).takeWhile Char.isDigit = digits ∧
      (digits ++ rest).dropWhile Char.isDigit = rest := by
  rw [List.takeWhile_append_of_pos all, List.dropWhile_append_of_pos all]
  cases rest with
  | nil => exact ⟨List.append_nil _, rfl⟩
  | cons character tail =>
      have other := stops character rfl
      rw [List.takeWhile_cons_of_neg (Bool.eq_false_iff.mp other),
        List.dropWhile_cons_of_neg (Bool.eq_false_iff.mp other)]
      exact ⟨List.append_nil _, rfl⟩

theorem digitsValue_toDigits (value : Nat) :
    Number.digitsValue (Nat.toDigits 10 value) = value :=
  Nat.ofDigitChars_ten_toDigits

theorem digitsValue_append_zeros (digits : List Char) (count : Nat) :
    Number.digitsValue (digits ++ List.replicate count '0') =
      Number.digitsValue digits * 10 ^ count := by
  change Nat.ofDigitChars 10 _ 0 = Nat.ofDigitChars 10 _ 0 * _
  rw [Nat.ofDigitChars_append, Nat.ofDigitChars_replicate_zero, Nat.mul_comm]

theorem digitsValue_zeros_append (digits : List Char) (count : Nat) :
    Number.digitsValue (List.replicate count '0' ++ digits) = Number.digitsValue digits := by
  change Nat.ofDigitChars 10 _ 0 = Nat.ofDigitChars 10 _ 0
  rw [Nat.ofDigitChars_append, Nat.ofDigitChars_replicate_zero, Nat.mul_zero]

/-! ## The parts of a number -/

def signText (negative : Bool) : List Char := if negative then ['-'] else []

def pointText (fraction : List Char) : List Char :=
  if fraction = [] then [] else '.' :: fraction

def signed (negative : Bool) (magnitude : Nat) : Int :=
  if negative then -(magnitude : Int) else magnitude

theorem signed_mul_pow (negative : Bool) (magnitude power : Nat) :
    signed negative (magnitude * 10 ^ power) = signed negative magnitude * 10 ^ power := by
  cases negative with
  | true =>
      simp only [signed, if_true]
      push_cast
      ring
  | false =>
      simp only [signed, Bool.false_eq_true, if_false]
      push_cast
      ring

namespace Json

theorem readFraction_pointText {fraction tail : List Char}
    (digits : ∀ digit ∈ fraction, digit.isDigit) (stops : NoDigit tail)
    (noPoint : tail.head? ≠ some '.') :
    readFraction (pointText fraction ++ tail) = some (fraction, tail) := by
  by_cases none : fraction = []
  · rw [pointText, if_pos none, none, List.nil_append]
    cases tail with
    | nil => rfl
    | cons character tail =>
        rw [readFraction]
        intro rest equal
        rw [(List.cons.inj equal).1] at noPoint
        exact noPoint rfl
  · rw [pointText, if_neg none, List.cons_append]
    simp only [readFraction, takeWhile_digits digits stops, List.isEmpty_iff, if_neg none]

theorem readNumber_parts (negative : Bool) {whole fraction tail rest : List Char}
    {exponent : Int} (filled : whole ≠ []) (digits : ∀ digit ∈ whole, digit.isDigit)
    (leading : whole.head? = some '0' → whole.length = 1)
    (fractionDigits : ∀ digit ∈ fraction, digit.isDigit) (stops : NoDigit tail)
    (noPoint : tail.head? ≠ some '.') (read : readExponent tail = some (exponent, rest)) :
    readNumber (signText negative ++ (whole ++ (pointText fraction ++ tail))) =
      some (.number (Decimal.ofScientific
        (signed negative (Number.digitsValue (whole ++ fraction)))
        (exponent - fraction.length)), rest) := by
  have body : NoDigit (pointText fraction ++ tail) := by
    by_cases none : fraction = []
    · rwa [pointText, if_pos none]
    · rw [pointText, if_neg none]
      intro character member
      cases member
      rfl
  have parts := takeWhile_digits digits body
  have fractionRead := readFraction_pointText fractionDigits stops noPoint
  have wellLed : ¬(whole.isEmpty ∨ whole.head? = some '0' ∧ whole.length ≠ 1) := by
    intro wrong
    rcases wrong with empty | ⟨zero, long⟩
    · exact filled (List.isEmpty_iff.mp empty)
    · exact long (leading zero)
  cases negative with
  | true =>
      change readNumber ('-' :: (whole ++ (pointText fraction ++ tail))) = _
      simp only [readNumber, parts, if_neg wellLed, fractionRead, read, Option.bind_eq_bind,
        Option.bind_some]
      rfl
  | false =>
      change readNumber (whole ++ (pointText fraction ++ tail)) = _
      cases whole with
      | nil => exact absurd rfl filled
      | cons digit others =>
          have notMinus : digit ≠ '-' := by
            intro minus
            have isDigit := digits digit List.mem_cons_self
            rw [minus] at isDigit
            cases isDigit
          simp only [readNumber]
          split
          · rename_i equal
            exact absurd (List.cons.inj equal).1 notMinus
          · simp only [parts, if_neg wellLed, fractionRead, read, Option.bind_eq_bind,
              Option.bind_some]
            rfl

/-! ## A whole number -/

def Ended (rest : List Char) : Prop := ∀ character ∈ rest.head?, character ∈ [',', ']', '\x7d']

theorem Ended.noDigit {rest : List Char} (ended : Ended rest) : NoDigit rest := by
  intro character member
  have among := ended character member
  simp only [List.mem_cons, List.not_mem_nil, or_false] at among
  rcases among with rfl | rfl | rfl
  · rfl
  · rfl
  · rfl

theorem Ended.noPoint {rest : List Char} (ended : Ended rest) : rest.head? ≠ some '.' := by
  intro point
  exact absurd (ended '.' point) (by decide)

theorem readExponent_ended {rest : List Char} (ended : Ended rest) :
    readExponent rest = some (0, rest) := by
  cases rest with
  | nil => rfl
  | cons character rest =>
      have among := ended character rfl
      have unmarked : ¬(character = 'e' ∨ character = 'E') := by
        intro marker
        rcases marker with rfl | rfl
        · exact absurd among (by decide)
        · exact absurd among (by decide)
      rw [readExponent, if_neg unmarked]

theorem readExponent_exponentText {rest : List Char} (ended : Ended rest) (exponent : Int) :
    readExponent ((Decimal.exponentText exponent).toList ++ rest) = some (exponent, rest) := by
  have parts := takeWhile_digits (digits_toDigits exponent.natAbs) ended.noDigit
  have filled : (Nat.toDigits 10 exponent.natAbs).isEmpty = false :=
    Bool.eq_false_iff.mpr fun empty => Nat.toDigits_ne_nil (List.isEmpty_iff.mp empty)
  rw [Decimal.exponentText]
  split
  · simp only [String.toList_append, Decimal.digits, String.toList_ofList]
    change readExponent ('e' :: '-' :: (Nat.toDigits 10 exponent.natAbs ++ rest)) = _
    simp only [readExponent, Number.takeSign, parts, filled, digitsValue_toDigits, true_or,
      if_true, Bool.false_eq_true, if_false]
    congr 2
    omega
  · simp only [String.toList_append, Decimal.digits, String.toList_ofList]
    change readExponent ('e' :: '+' :: (Nat.toDigits 10 exponent.natAbs ++ rest)) = _
    simp only [readExponent, Number.takeSign, parts, filled, digitsValue_toDigits, true_or,
      if_true, Bool.false_eq_true, if_false]
    congr 2
    omega

structure Whole (text : List Char) : Prop where
  filled : text ≠ []
  digits : ∀ digit ∈ text, digit.isDigit
  leading : text.head? = some '0' → text.length = 1

theorem whole_zero : Whole ['0'] where
  filled := List.cons_ne_nil _ _
  digits := List.all_eq_true.mp (by decide)
  leading _ := rfl

/-- A text that is read as a number, under either sign and before all that may follow it. -/
def Reads (text : List Char) (magnitude : Nat) (exponent : Int) : Prop :=
  ∀ negative rest, Ended rest → readNumber (signText negative ++ (text ++ rest)) =
    some (.number (Decimal.ofScientific (signed negative magnitude) exponent), rest)

theorem reads_plain {whole fraction : List Char} (wholePart : Whole whole)
    (fractionDigits : ∀ digit ∈ fraction, digit.isDigit) :
    Reads (whole ++ pointText fraction) (Number.digitsValue (whole ++ fraction))
      (0 - fraction.length) := by
  intro negative rest ended
  rw [List.append_assoc]
  exact readNumber_parts negative wholePart.filled wholePart.digits wholePart.leading
    fractionDigits ended.noDigit ended.noPoint (readExponent_ended ended)

theorem reads_scientific {whole fraction : List Char} (wholePart : Whole whole)
    (fractionDigits : ∀ digit ∈ fraction, digit.isDigit) (exponent : Int) :
    Reads (whole ++ pointText fraction ++ (Decimal.exponentText exponent).toList)
      (Number.digitsValue (whole ++ fraction)) (exponent - fraction.length) := by
  intro negative rest ended
  have marked : (Decimal.exponentText exponent).toList.head? = some 'e' := by
    simp only [Decimal.exponentText]
    split
    · simp only [String.toList_append]
      rfl
    · simp only [String.toList_append]
      rfl
  have begins : ((Decimal.exponentText exponent).toList ++ rest).head? = some 'e' := by
    cases text : (Decimal.exponentText exponent).toList with
    | nil =>
        rw [text] at marked
        cases marked
    | cons first others =>
        rw [text] at marked
        exact marked
  rw [List.append_assoc, List.append_assoc]
  refine readNumber_parts negative wholePart.filled wholePart.digits wholePart.leading
    fractionDigits ?_ ?_ (readExponent_exponentText ended exponent)
  · intro character member
    rw [begins, Option.mem_def, Option.some.injEq] at member
    rw [← member]
    rfl
  · rw [begins]
    decide

structure Significant (text : List Char) : Prop where
  filled : text ≠ []
  digits : ∀ digit ∈ text, digit.isDigit
  leading : text.head? ≠ some '0'

theorem isDigit_of_mem_zeros {count : Nat} :
    ∀ digit ∈ List.replicate count '0', digit.isDigit := by
  intro digit member
  rw [(List.mem_replicate.mp member).2]
  rfl

namespace Significant

variable {text : List Char}

theorem whole (significant : Significant text) {more : List Char}
    (digits : ∀ digit ∈ more, digit.isDigit) : Whole (text ++ more) := by
  refine ⟨List.append_ne_nil_of_left_ne_nil significant.filled _, ?_, ?_⟩
  · intro digit member
    rcases List.mem_append.mp member with own | added
    · exact significant.digits digit own
    · exact digits digit added
  · intro zero
    cases text with
    | nil => exact absurd rfl significant.filled
    | cons first others => exact absurd zero significant.leading

theorem take (significant : Significant text) {count : Nat} (positive : 0 < count) :
    Whole (text.take count) := by
  cases text with
  | nil => exact absurd rfl significant.filled
  | cons first others =>
      cases count with
      | zero => exact absurd positive (Nat.lt_irrefl 0)
      | succ count =>
          exact ⟨List.cons_ne_nil _ _,
            fun digit member => significant.digits digit (List.mem_of_mem_take member),
            fun zero => absurd zero significant.leading⟩

theorem drop (significant : Significant text) (count : Nat) :
    ∀ digit ∈ text.drop count, digit.isDigit :=
  fun digit member => significant.digits digit (List.mem_of_mem_drop member)

/-! The four layouts. -/

theorem reads_integer (significant : Significant text) (zeros : Nat) :
    Reads (text ++ List.replicate zeros '0') (Number.digitsValue text * 10 ^ zeros) 0 := by
  have none : ∀ digit ∈ ([] : List Char), digit.isDigit := fun _ member => nomatch member
  have reads := reads_plain (significant.whole (@isDigit_of_mem_zeros zeros)) none
  rw [List.append_nil, digitsValue_append_zeros, pointText, if_pos rfl, List.append_nil] at reads
  exact reads

theorem reads_split (significant : Significant text) {count : Nat} (positive : 0 < count)
    (inside : count < text.length) :
    Reads (text.take count ++ '.' :: text.drop count) (Number.digitsValue text)
      (count - text.length) := by
  have fraction : text.drop count ≠ [] := by
    intro empty
    exact absurd (List.drop_eq_nil_iff.mp empty) (Nat.not_le_of_lt inside)
  have reads := reads_plain (significant.take positive) (significant.drop count)
  rw [List.take_append_drop, pointText, if_neg fraction, List.length_drop] at reads
  have exponent : (count : Int) - text.length = 0 - (text.length - count : Nat) := by omega
  rw [exponent]
  exact reads

theorem reads_small (significant : Significant text) (zeros : Nat) :
    Reads ('0' :: '.' :: (List.replicate zeros '0' ++ text)) (Number.digitsValue text)
      (-zeros - text.length) := by
  have fraction : List.replicate zeros '0' ++ text ≠ [] :=
    List.append_ne_nil_of_right_ne_nil _ significant.filled
  have digits : ∀ digit ∈ List.replicate zeros '0' ++ text, digit.isDigit := by
    intro digit member
    rcases List.mem_append.mp member with zero | own
    · exact isDigit_of_mem_zeros digit zero
    · exact significant.digits digit own
  have reads := reads_plain whole_zero digits
  have value : Number.digitsValue (['0'] ++ (List.replicate zeros '0' ++ text)) =
      Number.digitsValue text := by
    rw [← List.append_assoc]
    exact digitsValue_zeros_append text (zeros + 1)
  rw [value, pointText, if_neg fraction, List.length_append, List.length_replicate] at reads
  have exponent : -(zeros : Int) - text.length = 0 - (zeros + text.length : Nat) := by omega
  rw [exponent]
  exact reads

theorem reads_exponent (significant : Significant text) (exponent : Int) :
    Reads (text.take 1 ++ pointText (text.drop 1) ++ (Decimal.exponentText exponent).toList)
      (Number.digitsValue text) (exponent - (text.length - 1 : Nat)) := by
  have reads := reads_scientific (significant.take Nat.one_pos) (significant.drop 1) exponent
  rwa [List.take_append_drop, List.length_drop] at reads

end Significant

/-- Each layout is read as the significant digits, with the zeros after them
that the exponent accounts for. -/
theorem positionalText_reads {text : String} (significant : Significant text.toList)
    (point : Int) :
    ∃ power : Nat, Reads (Decimal.positionalText text point).toList
      (Number.digitsValue text.toList * 10 ^ power) (point - text.length - power) := by
  have count : text.toList.length = text.length := String.length_toList
  have positive : 0 < text.length := by
    rw [← count]
    exact List.length_pos_iff.mpr significant.filled
  simp only [Decimal.positionalText, Decimal.zeros]
  split
  · refine ⟨point.toNat - text.length, ?_⟩
    have exponent : point - text.length - (point.toNat - text.length : Nat) = 0 := by omega
    rw [String.toList_append, String.toList_ofList, exponent]
    exact significant.reads_integer _
  · refine ⟨0, ?_⟩
    rw [pow_zero, mul_one, Nat.cast_zero, sub_zero]
    split
    · have exponent : point - text.length = (point.toNat : Int) - text.toList.length := by omega
      rw [exponent]
      simp only [String.toList_append, String.toList_ofList, List.append_assoc]
      exact significant.reads_split (by omega) (by omega)
    · split
      · have exponent : point - text.length = -(point.natAbs : Int) - text.toList.length := by
          omega
        rw [exponent]
        simp only [String.toList_append, String.toList_ofList, List.append_assoc]
        exact significant.reads_small _
      · have exponent : point - text.length = point - 1 - (text.toList.length - 1 : Nat) := by
          omega
        have reads := significant.reads_exponent (point - 1)
        rw [exponent]
        by_cases single : text.toList.drop 1 = []
        · have empty : (String.ofList (text.toList.drop 1)).isEmpty = true := by
            rw [single]
            rfl
          rw [single, pointText, if_pos rfl, List.append_nil] at reads
          rw [if_pos empty]
          simp only [String.toList_append, String.toList_ofList]
          exact reads
        · have filled : ¬(String.ofList (text.toList.drop 1)).isEmpty = true := by
            rw [String.isEmpty_iff, ← String.toList_inj, String.toList_ofList]
            exact single
          rw [pointText, if_neg single] at reads
          rw [if_neg filled]
          simp only [String.toList_append, String.toList_ofList, List.append_assoc] at reads ⊢
          exact reads

theorem readNumber_toString (decimal : Decimal) {rest : List Char} (ended : Ended rest) :
    readNumber (decimal.toString.toList ++ rest) = some (.number decimal, rest) := by
  rw [Decimal.toString]
  split
  · rename_i zero
    have none : ∀ digit ∈ ([] : List Char), digit.isDigit := fun _ member => nomatch member
    have plain : decimal = Decimal.ofScientific 0 0 := by
      rw [← Decimal.ofScientific_self decimal]
      simp only [Decimal.ofScientific, zero, dite_true]
    rw [plain]
    exact reads_plain whole_zero none false rest ended
  · rename_i nonzero
    have significant : Significant (Decimal.digits decimal.mantissa.natAbs).toList := by
      rw [Decimal.digits, String.toList_ofList]
      exact ⟨Nat.toDigits_ne_nil, digits_toDigits _,
        head_toDigits (Int.natAbs_pos.mpr nonzero)⟩
    have value : Number.digitsValue (Decimal.digits decimal.mantissa.natAbs).toList =
        decimal.mantissa.natAbs := by
      rw [Decimal.digits, String.toList_ofList]
      exact digitsValue_toDigits _
    rcases positionalText_reads significant ((Decimal.digits decimal.mantissa.natAbs).length +
      decimal.exponent) with ⟨power, reads⟩
    rw [value, add_sub_cancel_left] at reads
    have whole := Decimal.ofScientific_shifted nonzero power
    split
    · rename_i negative
      have read := reads true rest ended
      have magnitude : -(decimal.mantissa.natAbs : Int) = decimal.mantissa := by omega
      rw [signed_mul_pow, signed, if_pos rfl, magnitude, whole] at read
      simp only [String.toList_append, List.append_assoc]
      exact read
    · rename_i negative
      have read := reads false rest ended
      have magnitude : (decimal.mantissa.natAbs : Int) = decimal.mantissa := by omega
      rw [signed_mul_pow, signed, if_neg Bool.false_ne_true, magnitude, whole] at read
      exact read

end Json

namespace Decimal

theorem toString_injective {left right : Decimal} (same : left.toString = right.toString) :
    left = right := by
  have ended : Json.Ended [] := by
    intro character member
    cases member
  have read := Json.readNumber_toString left ended
  rw [same, Json.readNumber_toString right ended] at read
  simpa using read.symm

/-! ## The characters of a number -/

def isNumberCharacter (character : Char) : Bool :=
  character.isDigit || character ∈ ['-', '+', '.', 'e']

def Numeric (text : String) : Prop := ∀ character ∈ text.toList, isNumberCharacter character

theorem Numeric.append {first second : String} (left : Numeric first) (right : Numeric second) :
    Numeric (first ++ second) := by
  intro character member
  rw [String.toList_append] at member
  rcases List.mem_append.mp member with before | after
  · exact left character before
  · exact right character after

theorem numeric_of_digits {text : List Char} (digits : ∀ digit ∈ text, digit.isDigit) :
    Numeric (String.ofList text) := by
  intro character member
  rw [String.toList_ofList] at member
  rw [isNumberCharacter, digits character member, Bool.true_or]

theorem numeric_of_all {text : String} (passes : text.toList.all isNumberCharacter = true) :
    Numeric text :=
  List.all_eq_true.mp passes

theorem numeric_digits (value : Nat) : Numeric (digits value) :=
  numeric_of_digits (digits_toDigits value)

theorem numeric_zeros (count : Nat) : Numeric (zeros count) :=
  numeric_of_digits Json.isDigit_of_mem_zeros

theorem numeric_exponentText (exponent : Int) : Numeric (exponentText exponent) := by
  rw [exponentText]
  split
  · exact (numeric_of_all (by decide)).append (numeric_digits _)
  · exact (numeric_of_all (by decide)).append (numeric_digits _)

theorem numeric_positionalText {significant : String} (digits : Numeric significant)
    (point : Int) : Numeric (positionalText significant point) := by
  have take : ∀ count, Numeric (String.ofList (significant.toList.take count)) := by
    intro count character member
    rw [String.toList_ofList] at member
    exact digits character (List.mem_of_mem_take member)
  have drop : ∀ count, Numeric (String.ofList (significant.toList.drop count)) := by
    intro count character member
    rw [String.toList_ofList] at member
    exact digits character (List.mem_of_mem_drop member)
  have dot : Numeric "." := numeric_of_all (by decide)
  have zeroDot : Numeric "0." := numeric_of_all (by decide)
  simp only [positionalText]
  split
  · exact digits.append (numeric_zeros _)
  split
  · exact ((take _).append dot).append (drop _)
  split
  · exact (zeroDot.append (numeric_zeros _)).append digits
  split
  · exact (take 1).append (numeric_exponentText _)
  · exact (((take 1).append dot).append (drop 1)).append (numeric_exponentText _)

theorem numeric_toString (decimal : Decimal) : Numeric decimal.toString := by
  rw [toString]
  split
  · exact numeric_of_all (by decide)
  · have unsigned := numeric_positionalText (numeric_digits decimal.mantissa.natAbs)
      ((digits decimal.mantissa.natAbs).length + decimal.exponent)
    split
    · have minus : Numeric "-" := numeric_of_all (by decide)
      exact minus.append unsigned
    · exact unsigned

/-! ## Integers -/

theorem ofInt_parts (value : Int) :
    ∃ power : Nat, (ofInt value).exponent = power ∧
      (ofInt value).mantissa * 10 ^ power = value := by
  rw [ofInt, ofScientific]
  split
  · rename_i zero
    exact ⟨0, rfl, by simp [zero]⟩
  · rcases stripZeros_value value.natAbs value 0 with ⟨power, shifted, product⟩
    rw [zero_add] at shifted
    exact ⟨power, shifted, product⟩

theorem noPoint_of_digits {text : List Char} (digits : ∀ digit ∈ text, digit.isDigit) :
    '.' ∉ text := by
  intro member
  exact absurd (digits '.' member) (by decide)

theorem noPoint_ofInt {value : Int} (small : value.natAbs < 10 ^ 21) :
    '.' ∉ (ofInt value).toString.toList := by
  rcases ofInt_parts value with ⟨power, exponent, product⟩
  rw [toString]
  split
  · decide
  · rename_i nonzero
    have magnitude : (ofInt value).mantissa.natAbs * 10 ^ power = value.natAbs := by
      conv_rhs => rw [← product, Int.natAbs_mul, Int.natAbs_pow]
      rfl
    have positive : 0 < (ofInt value).mantissa.natAbs := Int.natAbs_pos.mpr nonzero
    have room : power < 21 := by
      have larger : 10 ^ power ≤ value.natAbs := magnitude ▸ Nat.le_mul_of_pos_left _ positive
      exact (Nat.pow_lt_pow_iff_right (by decide)).mp (larger.trans_lt small)
    have few : (ofInt value).mantissa.natAbs < 10 ^ (21 - power) := by
      have split : 10 ^ (21 - power) * 10 ^ power = 10 ^ 21 := by
        rw [← Nat.pow_add, Nat.sub_add_cancel room.le]
      rw [← magnitude, ← split] at small
      exact Nat.lt_of_mul_lt_mul_right small
    have short := (Nat.length_toDigits_le_iff (by decide) (by omega)).mpr few
    have length : (digits (ofInt value).mantissa.natAbs).length =
        (Nat.toDigits 10 (ofInt value).mantissa.natAbs).length := by
      rw [digits, String.length_ofList]
    have plain : '.' ∉ (positionalText (digits (ofInt value).mantissa.natAbs)
        ((digits (ofInt value).mantissa.natAbs).length + (ofInt value).exponent)).toList := by
      rw [positionalText, if_pos (by omega), String.toList_append]
      intro member
      rcases List.mem_append.mp member with inside | zero
      · rw [digits, String.toList_ofList] at inside
        exact noPoint_of_digits (digits_toDigits _) inside
      · rw [zeros, String.toList_ofList] at zero
        exact absurd (List.eq_of_mem_replicate zero) (by decide)
    split
    · intro member
      rw [String.toList_append] at member
      rcases List.mem_append.mp member with sign | inside
      · exact absurd sign (by decide)
      · exact plain inside
    · exact plain

end Decimal

end SovAgent
