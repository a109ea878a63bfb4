import Mathlib.Algebra.Order.Ring.Nat

/-! # Date-time strings

The ECMAScript date-time format at millisecond precision in UTC, and the
instant that such a string denotes on the ECMAScript time scale: milliseconds
since 1970 in the proleptic Gregorian calendar, without leap seconds.
-/

namespace SovAgent

structure DateTime where
  year : Nat
  month : Nat
  day : Nat
  hour : Nat
  minute : Nat
  second : Nat
  millisecond : Nat
deriving DecidableEq, Repr

namespace DateTime

def isLeapYear (year : Nat) : Bool :=
  year % 4 = 0 ∧ year % 100 ≠ 0 ∨ year % 400 = 0

def daysInMonth (year month : Nat) : Nat :=
  match month with
  | 2 => if isLeapYear year then 29 else 28
  | 4 | 6 | 9 | 11 => 30
  | _ => 31

/-- The bounds of the format. Hour 24 is the midnight that ends the day. -/
def InBounds (time : DateTime) : Prop :=
  1 ≤ time.month ∧ time.month ≤ 12 ∧
  1 ≤ time.day ∧ time.day ≤ daysInMonth time.year time.month ∧
  time.minute ≤ 59 ∧ time.second ≤ 59 ∧ time.millisecond ≤ 999 ∧
  (time.hour ≤ 23 ∨
    time.hour = 24 ∧ time.minute = 0 ∧ time.second = 0 ∧ time.millisecond = 0)

instance (time : DateTime) : Decidable time.InBounds :=
  inferInstanceAs (Decidable (_ ∧ _))

def dayFromYear (year : Int) : Int :=
  365 * (year - 1970) + (year - 1969).fdiv 4 - (year - 1901).fdiv 100 +
    (year - 1601).fdiv 400

def daysBeforeMonth (year month : Nat) : Nat :=
  ((List.range (month - 1)).map fun index => daysInMonth year (index + 1)).sum

def timeValue (time : DateTime) : Int :=
  let days := dayFromYear time.year + daysBeforeMonth time.year time.month + (time.day - 1)
  days * 86400000 + time.hour * 3600000 + time.minute * 60000 + time.second * 1000 +
    time.millisecond

def digitValue (digit : Char) : Nat := digit.toNat - '0'.toNat

def number (digits : List Char) : Nat :=
  digits.foldl (fun value digit => 10 * value + digitValue digit) 0

/-- Read `YYYY-MM-DDTHH:mm:ss.sssZ`, whatever its fields say. -/
def ofString? (text : String) : Option DateTime :=
  match text.toList with
  | [y1, y2, y3, y4, '-', m1, m2, '-', d1, d2, 'T', h1, h2, ':', n1, n2, ':', s1, s2, '.',
      f1, f2, f3, 'Z'] =>
      let digits := [y1, y2, y3, y4, m1, m2, d1, d2, h1, h2, n1, n2, s1, s2, f1, f2, f3]
      if digits.all Char.isDigit then some {
        year := number [y1, y2, y3, y4]
        month := number [m1, m2]
        day := number [d1, d2]
        hour := number [h1, h2]
        minute := number [n1, n2]
        second := number [s1, s2]
        millisecond := number [f1, f2, f3] }
      else none
  | _ => none

end DateTime

/-- The instant that a date-time string denotes, if it denotes one. -/
def instantOf (text : String) : Option Int :=
  (DateTime.ofString? text).bind fun time =>
    if time.InBounds then some time.timeValue else none

/-- `Date.parse`, with `none` for `NaN`. What it makes of a string that is not
a valid instance of the format is left to the engine: `NaN` by the standard,
while some engines roll 30 February over into March. -/
def dateParse (legacy : String → Option Int) (text : String) : Option Int :=
  (instantOf text).orElse fun _ => legacy text

theorem dateParse_of_instantOf {legacy : String → Option Int} {text : String} {instant : Int}
    (denotes : instantOf text = some instant) : dateParse legacy text = some instant := by
  simp [dateParse, denotes]

example : instantOf "1970-01-01T00:00:00.000Z" = some 0 := by decide
example : instantOf "2026-03-01T12:30:00.250Z" = some 1772368200250 := by decide
example : instantOf "2026-02-30T00:00:00.000Z" = none := by decide

end SovAgent
