import SovAgent.Foundation.JsonCanonical
import SovAgent.Foundation.PatternSearch

/-! # Regular expressions over UTF-16

The texts that the scanners read are sequences of code units, which a limit may
cut anywhere. The parts here are those that the scanners' expressions are built
from; an expression with the flag `i` folds the letters of ASCII.
-/

namespace SovAgent.Safety

abbrev Units := List UInt16

abbrev RegExp := Pattern UInt16

def units (text : String) : Units := (Json.keyUnits text).map UInt16.ofNat

example : units "a😀" = [0x61, 0xD83D, 0xDE00] := by decide

namespace RegExp

/-! ## Code units -/

def isLower (unit : UInt16) : Bool := 0x61 ≤ unit ∧ unit ≤ 0x7A

def isUpper (unit : UInt16) : Bool := 0x41 ≤ unit ∧ unit ≤ 0x5A

/-- The unit with an ASCII letter in lower case. -/
def fold (unit : UInt16) : UInt16 := if isUpper unit then unit + 0x20 else unit

def isDigit (unit : UInt16) : Bool := 0x30 ≤ unit ∧ unit ≤ 0x39

def isLetter (unit : UInt16) : Bool := isLower unit || isUpper unit

def isHexDigit (unit : UInt16) : Bool :=
  isDigit unit || decide (0x61 ≤ fold unit ∧ fold unit ≤ 0x66)

def isWord (unit : UInt16) : Bool := isLetter unit || isDigit unit || unit == 0x5F

def isSpace (unit : UInt16) : Bool :=
  decide (0x09 ≤ unit ∧ unit ≤ 0x0D) || decide (0x2000 ≤ unit ∧ unit ≤ 0x200A) ||
    unit ∈ [0x20, 0xA0, 0x1680, 0x2028, 0x2029, 0x202F, 0x205F, 0x3000, 0xFEFF]

/-- `[…]` with these units. -/
def isOneOf (members : String) (unit : UInt16) : Bool := unit ∈ units members

/-! ## Parts of expressions -/

def empty : RegExp := .assertion fun _ _ => true

def all (parts : List RegExp) : RegExp := parts.foldr .sequence empty

def oneOf (choices : List RegExp) : RegExp := choices.foldr .either (.one fun _ => false)

def verbatim (text : String) : RegExp := all ((units text).map fun unit => .one (· == unit))

/-- A text with the flag `i`. -/
def caseless (text : String) : RegExp :=
  all ((units text).map fun unit => .one fun other => fold other == fold unit)

/-- `(?:…|…)` of texts with the flag `i`. -/
def words (choices : List String) : RegExp := oneOf (choices.map caseless)

def many (part : RegExp) : RegExp := .repeated true 0 none part

def several (part : RegExp) : RegExp := .repeated true 1 none part

def optional (part : RegExp) : RegExp := .repeated true 0 (some 1) part

/-- `…{n}` -/
def times (count : Nat) (part : RegExp) : RegExp := .repeated true count (some 0) part

/-- `…{n,}` -/
def atLeast (count : Nat) (part : RegExp) : RegExp := .repeated true count none part

/-- `…{0,n}?` -/
def upTo (limit : Nat) (part : RegExp) : RegExp := .repeated false 0 (some limit) part

def space : RegExp := .one isSpace

def anything : RegExp := .one fun _ => true

def noneOf (members : String) : RegExp := .one fun unit => !isOneOf members unit

def boundary : RegExp :=
  .assertion fun previous next => previous.any isWord != next.any isWord

def textStart : RegExp := .assertion fun previous _ => previous.isNone

def textEnd : RegExp := .assertion fun _ next => next.isNone

/-- `\b…\b` around a text with the flag `i`. -/
def phrase (text : String) : RegExp := all [boundary, caseless text, boundary]

end RegExp

def trim (text : Units) : Units :=
  ((text.dropWhile RegExp.isSpace).reverse.dropWhile RegExp.isSpace).reverse

example : (RegExp.phrase "act as").test (units "so ACT as if") = true := by decide

example : (RegExp.phrase "act as").test (units "exact assay") = false := by decide

end SovAgent.Safety
