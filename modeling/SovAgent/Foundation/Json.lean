import SovAgent.Foundation.Number

/-! # JSON values

A value as `JSON.parse` returns it. The members of an object are kept in
property order; `undefined` is the absence of a member.
-/

namespace SovAgent

inductive Json where
  | null
  | bool (value : Bool)
  | number (value : Decimal)
  | string (text : String)
  | array (items : List Json)
  | object (members : List (String × Json))
deriving Repr

namespace Json

mutual
def decEq : (left right : Json) → Decidable (left = right)
  | .null, .null => isTrue rfl
  | .bool left, .bool right =>
      decidable_of_iff (left = right) (by simp)
  | .number left, .number right =>
      decidable_of_iff (left = right) (by simp)
  | .string left, .string right =>
      decidable_of_iff (left = right) (by simp)
  | .array left, .array right =>
      have := decEqItems left right
      decidable_of_iff (left = right) (by simp)
  | .object left, .object right =>
      have := decEqMembers left right
      decidable_of_iff (left = right) (by simp)
  | .null, .bool _ | .null, .number _ | .null, .string _ | .null, .array _ | .null, .object _
  | .bool _, .null | .bool _, .number _ | .bool _, .string _ | .bool _, .array _
  | .bool _, .object _ | .number _, .null | .number _, .bool _ | .number _, .string _
  | .number _, .array _ | .number _, .object _ | .string _, .null | .string _, .bool _
  | .string _, .number _ | .string _, .array _ | .string _, .object _ | .array _, .null
  | .array _, .bool _ | .array _, .number _ | .array _, .string _ | .array _, .object _
  | .object _, .null | .object _, .bool _ | .object _, .number _ | .object _, .string _
  | .object _, .array _ => isFalse nofun

def decEqItems : (left right : List Json) → Decidable (left = right)
  | [], [] => isTrue rfl
  | [], _ :: _ | _ :: _, [] => isFalse nofun
  | left :: leftRest, right :: rightRest =>
      have := decEq left right
      have := decEqItems leftRest rightRest
      decidable_of_iff (left = right ∧ leftRest = rightRest) (by simp)

def decEqMembers : (left right : List (String × Json)) → Decidable (left = right)
  | [], [] => isTrue rfl
  | [], _ :: _ | _ :: _, [] => isFalse nofun
  | (leftKey, left) :: leftRest, (rightKey, right) :: rightRest =>
      have := decEq left right
      have := decEqMembers leftRest rightRest
      decidable_of_iff (leftKey = rightKey ∧ left = right ∧ leftRest = rightRest)
        (by simp [and_assoc])
end

instance : DecidableEq Json := decEq

def get? (key : String) : Json → Option Json
  | .object members => members.lookup key
  | _ => none

def isString : Json → Bool
  | .string _ => true
  | _ => false

def isObject : Json → Bool
  | .object _ => true
  | _ => false

def asArray : Json → List Json
  | .array items => items
  | value => [value]

def truthy : Json → Bool
  | .null => false
  | .bool value => value
  | .number value => value.mantissa ≠ 0
  | .string text => text ≠ ""
  | .array _ => true
  | .object _ => true

mutual
/-- The text of a value inside a template literal. -/
def templateText : Json → String
  | .null => "null"
  | .bool true => "true"
  | .bool false => "false"
  | .number value => value.toString
  | .string text => text
  | .array items => ",".intercalate (templateItems items)
  | .object _ => "[object Object]"

/-- Elements of an array as `Array.prototype.join` renders them. -/
def templateItems : List Json → List String
  | [] => []
  | .null :: rest => "" :: templateItems rest
  | item :: rest => templateText item :: templateItems rest
end

end Json

end SovAgent
