import SovAgent.Foundation.Checks
import SovAgent.Foundation.NumberText

/-! # Conversions of JavaScript values

`Number(value)` and the conversion of a value to a property key, for values that
`JSON.parse` returns. Both call the methods of an object, and so fail on one that
hides the inherited `toString` behind a member of its own.
-/

namespace SovAgent

inductive ScriptError where
  | typeError
  | syntaxError
deriving DecidableEq, Repr

/-! ## Text -/

namespace Json

mutual
def toText : Json → Except ScriptError String
  | .null => .ok "null"
  | .bool true => .ok "true"
  | .bool false => .ok "false"
  | .number value => .ok value.toString
  | .string text => .ok text
  | .array items => do
      let texts ← toTexts items
      .ok (",".intercalate texts)
  | .object members =>
      if (members.lookup "toString").isSome then .error .typeError else .ok "[object Object]"

def toTexts : List Json → Except ScriptError (List String)
  | [] => .ok []
  | item :: rest => do
      let text ← if item = .null then .ok "" else toText item
      let texts ← toTexts rest
      .ok (text :: texts)
end

end Json

/-! ## Numbers -/

namespace Number

def trimmed (text : List Char) : List Char :=
  ((text.dropWhile isWhiteSpace).reverse.dropWhile isWhiteSpace).reverse

/-- The base that a letter after a leading zero marks. -/
def markedBase (marker : Char) : Option Nat :=
  if marker = 'x' ∨ marker = 'X' then some 16
  else if marker = 'o' ∨ marker = 'O' then some 8
  else if marker = 'b' ∨ marker = 'B' then some 2
  else none

def digitIn (base : Nat) (character : Char) : Option Nat :=
  (Json.hexValue character).filter (· < base)

def ofDigits (base : Nat) (text : List Char) : Number :=
  if text.isEmpty then .nan
  else match text.mapM (digitIn base) with
    | some digits =>
        .finite (Decimal.ofInt (digits.foldl (fun value digit => base * value + digit) 0 : Nat))
    | none => .nan

def ofUnsigned (negative : Bool) (text : List Char) : Number :=
  let whole := text.takeWhile Char.isDigit
  let afterWhole := text.dropWhile Char.isDigit
  let (fraction, afterFraction) := match afterWhole with
    | '.' :: tail => (tail.takeWhile Char.isDigit, tail.dropWhile Char.isDigit)
    | _ => ([], afterWhole)
  if whole.isEmpty && fraction.isEmpty then .nan
  else match Json.readExponent afterFraction with
    | some (exponent, []) =>
        let magnitude : Int := digitsValue (whole ++ fraction)
        .finite (Decimal.ofScientific (if negative then -magnitude else magnitude)
          (exponent - fraction.length))
    | _ => .nan

def ofDecimalText (text : List Char) : Number :=
  let (negative, body) := takeSign text
  if body = "Infinity".toList then .infinity negative else ofUnsigned negative body

def ofText (text : String) : Number :=
  match trimmed text.toList with
  | [] => 0
  | '0' :: marker :: digits =>
      match markedBase marker with
      | some base => ofDigits base digits
      | none => ofDecimalText ('0' :: marker :: digits)
  | body => ofDecimalText body

example : ofText " 0x1F " = .finite 31 := by decide +kernel
example : ofText "-.5e1" = .finite (Decimal.ofInt (-5)) := by decide +kernel
example : ofText "5 VRSC" = .nan := by decide +kernel

end Number

/-- `value - 1`. -/
def Decimal.predecessor (value : Decimal) : Decimal :=
  match value.exponent with
  | .ofNat power => .ofInt (value.mantissa * 10 ^ power - 1)
  | .negSucc power => .ofScientific (value.mantissa - 10 ^ (power + 1)) (.negSucc power)

def Number.predecessor : Number → Number
  | .finite value => .finite value.predecessor
  | other => other

/-- `Number(value)`; `none` is `undefined`. -/
def toNumber : Option Json → Except ScriptError Number
  | none => .ok .nan
  | some .null => .ok 0
  | some (.bool value) => .ok (if value then 1 else 0)
  | some (.number value) => .ok (.finite value)
  | some (.string text) => .ok (Number.ofText text)
  | some value => (Json.toText value).map Number.ofText

/-! ## Values that convert -/

namespace Json

mutual
/-- No object in the value that a conversion reaches hides `toString`. -/
def Convertible : Json → Prop
  | .array items => ConvertibleItems items
  | .object members => members.lookup "toString" = none
  | .null | .bool _ | .number _ | .string _ => True

def ConvertibleItems : List Json → Prop
  | [] => True
  | item :: rest => item.Convertible ∧ ConvertibleItems rest
end

mutual
theorem toText_isOk_iff : (value : Json) →
    ((∃ text, value.toText = .ok text) ↔ value.Convertible)
  | .null => by simp [toText, Convertible]
  | .bool true => by simp [toText, Convertible]
  | .bool false => by simp [toText, Convertible]
  | .number _ => by simp [toText, Convertible]
  | .string _ => by simp [toText, Convertible]
  | .array items => by
      rw [toText, Convertible, ← toTexts_isOk_iff items]
      simp [bind_eq_ok]
  | .object members => by
      rw [toText, Convertible]
      cases members.lookup "toString" <;> simp

theorem toTexts_isOk_iff : (items : List Json) →
    ((∃ texts, toTexts items = .ok texts) ↔ ConvertibleItems items)
  | [] => by simp [toTexts, ConvertibleItems]
  | item :: rest => by
      rw [ConvertibleItems, ← toText_isOk_iff item, ← toTexts_isOk_iff rest, toTexts]
      by_cases null : item = .null
      · simp [null, toText, bind_eq_ok]
      · simp [null, bind_eq_ok]
end

end Json

theorem toNumber_isOk_iff {value : Option Json} :
    (∃ number, toNumber value = .ok number) ↔ ∀ json, value = some json → json.Convertible := by
  cases value with
  | none => simp [toNumber]
  | some json =>
      simp only [Option.some.injEq, forall_eq']
      cases json with
      | array items =>
          rw [← Json.toText_isOk_iff]
          simp [toNumber, map_eq_ok]
      | object members =>
          rw [← Json.toText_isOk_iff]
          simp [toNumber, map_eq_ok]
      | _ => simp [toNumber, Json.Convertible]

/-! ## A printed number is read back -/

theorem not_isWhiteSpace {character : Char}
    (number : Decimal.isNumberCharacter character = true) :
    Number.isWhiteSpace character = false := by
  rw [Decimal.isNumberCharacter, Bool.or_eq_true] at number
  rcases number with digit | symbol
  · have bounds : 48 ≤ character.toNat ∧ character.toNat ≤ 57 := by
      simpa [Char.isDigit, UInt32.le_iff_toNat_le] using digit
    simp only [Number.isWhiteSpace, List.mem_cons, List.not_mem_nil, or_false,
      decide_eq_false_iff_not]
    omega
  · simp only [decide_eq_true_eq, List.mem_cons, List.not_mem_nil, or_false] at symbol
    rcases symbol with rfl | rfl | rfl | rfl
    all_goals decide

theorem dropWhile_isWhiteSpace {text : List Char}
    (numbers : ∀ character ∈ text, Decimal.isNumberCharacter character = true) :
    text.dropWhile Number.isWhiteSpace = text := by
  cases text with
  | nil => rfl
  | cons character rest =>
      have first := numbers character List.mem_cons_self
      rw [List.dropWhile_cons_of_neg (Bool.eq_false_iff.mp (not_isWhiteSpace first))]

theorem trimmed_of_numberCharacters {text : List Char}
    (numbers : ∀ character ∈ text, Decimal.isNumberCharacter character = true) :
    Number.trimmed text = text := by
  have reversed : ∀ character ∈ text.reverse, Decimal.isNumberCharacter character = true :=
    fun character member => numbers character (List.mem_reverse.mp member)
  rw [Number.trimmed, dropWhile_isWhiteSpace numbers, dropWhile_isWhiteSpace reversed,
    List.reverse_reverse]

/-- What JSON reads as a number without its sign, `Number` reads alike. -/
theorem ofUnsigned_of_read {negative : Bool} {body fraction afterFraction : List Char}
    {exponent : Int} (filled : (body.takeWhile Char.isDigit).isEmpty = false)
    (fractionRead : Json.readFraction (body.dropWhile Char.isDigit) =
      some (fraction, afterFraction))
    (exponentRead : Json.readExponent afterFraction = some (exponent, [])) :
    Number.ofUnsigned negative body =
      .finite (Decimal.ofScientific
        (if negative then -(Number.digitsValue (body.takeWhile Char.isDigit ++ fraction) : Int)
          else Number.digitsValue (body.takeWhile Char.isDigit ++ fraction))
        (exponent - fraction.length)) := by
  simp only [Number.ofUnsigned, filled, Bool.false_and, Bool.false_eq_true, if_false]
  cases tail : body.dropWhile Char.isDigit with
  | nil =>
      rw [tail] at fractionRead
      cases fractionRead
      simp only [exponentRead]
  | cons point rest =>
      rw [tail] at fractionRead
      by_cases isPoint : point = '.'
      · subst isPoint
        simp only [Json.readFraction] at fractionRead
        split at fractionRead
        · cases fractionRead
        · cases fractionRead
          simp only [exponentRead]
      · have plain : Json.readFraction (point :: rest) = some ([], point :: rest) := by
          rw [Json.readFraction]
          intro _ equal
          exact isPoint (List.cons.inj equal).1
        rw [plain] at fractionRead
        cases fractionRead
        have unpointed : (match point :: rest with
            | '.' :: tail => (tail.takeWhile Char.isDigit, tail.dropWhile Char.isDigit)
            | _ => (([] : List Char), point :: rest)) = ([], point :: rest) := by
          split
          · rename_i equal
            exact absurd (List.cons.inj equal).1 isPoint
          · rfl
        rw [unpointed]
        simp only [exponentRead]

/-- `Json.readNumber` after the sign. -/
def readUnsigned (negative : Bool) (body : List Char) : Option (Json × List Char) :=
  let whole := body.takeWhile Char.isDigit
  if whole.isEmpty ∨ whole.head? = some '0' ∧ whole.length ≠ 1 then none
  else do
    let (fraction, afterFraction) ← Json.readFraction (body.dropWhile Char.isDigit)
    let (exponent, rest) ← Json.readExponent afterFraction
    let magnitude : Int := Number.digitsValue (whole ++ fraction)
    some (.number (Decimal.ofScientific (if negative then -magnitude else magnitude)
      (exponent - fraction.length)), rest)

theorem readNumber_plain {text : List Char} (plain : ∀ rest, text ≠ '-' :: rest) :
    Json.readNumber text = readUnsigned false text := by
  simp only [Json.readNumber, readUnsigned]

theorem ofUnsigned_of_readUnsigned {negative : Bool} {body : List Char} {value : Decimal}
    (read : readUnsigned negative body = some (.number value, [])) :
    (body.takeWhile Char.isDigit).isEmpty = false ∧
      Number.ofUnsigned negative body = .finite value := by
  simp only [readUnsigned] at read
  split at read
  · cases read
  · rename_i filled
    rw [not_or, Bool.not_eq_true] at filled
    simp only [Option.bind_eq_bind, Option.bind_eq_some_iff] at read
    rcases read with ⟨⟨fraction, afterFraction⟩, fractionRead, ⟨exponent, rest⟩, exponentRead,
      read⟩
    simp only [Option.some.injEq, Prod.mk.injEq, Json.number.injEq] at read
    rcases read with ⟨equal, rfl⟩
    refine ⟨filled.1, ?_⟩
    rw [ofUnsigned_of_read filled.1 fractionRead exponentRead, equal]

theorem ofDecimalText_of_readNumber {text : List Char} {value : Decimal}
    (read : Json.readNumber text = some (.number value, [])) :
    Number.ofDecimalText text = .finite value := by
  have signed : ∃ negative body, Number.takeSign text = (negative, body) ∧
      readUnsigned negative body = some (.number value, []) := by
    cases text with
    | nil => cases read
    | cons first rest =>
        by_cases minus : first = '-'
        · subst minus
          exact ⟨true, rest, rfl, read⟩
        · have plain : ∀ tail, first :: rest ≠ '-' :: tail :=
            fun tail equal => minus (List.cons.inj equal).1
          rw [readNumber_plain plain] at read
          have digit := (ofUnsigned_of_readUnsigned read).1
          refine ⟨false, first :: rest, ?_, read⟩
          have plus : first ≠ '+' := by
            rintro rfl
            cases digit
          simp only [Number.takeSign]
          split
          · rename_i equal
            exact absurd (List.cons.inj equal).1 plus
          · rename_i equal
            exact absurd (List.cons.inj equal).1 minus
          · rfl
  rcases signed with ⟨negative, body, sign, unsigned⟩
  rcases ofUnsigned_of_readUnsigned unsigned with ⟨filled, whole⟩
  have finite : body ≠ "Infinity".toList := by
    rintro rfl
    cases filled
  rw [Number.ofDecimalText, sign]
  dsimp only
  rw [if_neg finite]
  exact whole

theorem ofText_toString (decimal : Decimal) :
    Number.ofText decimal.toString = .finite decimal := by
  have numbers := decimal.numeric_toString
  have ended : Json.Ended [] := by
    intro character member
    cases member
  have read := Json.readNumber_toString decimal ended
  rw [List.append_nil] at read
  have whole := ofDecimalText_of_readNumber read
  rw [Number.ofText, trimmed_of_numberCharacters numbers]
  split
  · rename_i empty
    rw [empty] at read
    cases read
  · rename_i marker digits equal
    -- No letter that marks a base is printed.
    have among := numbers marker (by simp [equal])
    have unmarked : Number.markedBase marker = none := by
      have apart : ∀ letter : Char, Decimal.isNumberCharacter letter = false →
          marker ≠ letter := by
        rintro letter other rfl
        rw [other] at among
        exact Bool.false_ne_true among
      have neither : ∀ first second : Char, Decimal.isNumberCharacter first = false →
          Decimal.isNumberCharacter second = false → ¬ (marker = first ∨ marker = second) :=
        fun first second left right => not_or.mpr ⟨apart first left, apart second right⟩
      rw [Number.markedBase, if_neg (neither 'x' 'X' (by decide) (by decide)),
        if_neg (neither 'o' 'O' (by decide) (by decide)),
        if_neg (neither 'b' 'B' (by decide) (by decide))]
    rw [unmarked]
    rw [equal] at whole
    exact whole
  · exact whole

end SovAgent
