import RuleDesk.Text.Numeral
import RuleDesk.Text.Pieces

/-!
# Timestamps

A timestamp is a date of the Gregorian calendar, extended to all years in range, with a time of day
to the nanosecond. A leap second is written as second 60; it is kept as second 59 with a nanosecond
part of a whole second more.
-/

set_option autoImplicit false

namespace RuleDesk

open RuleDesk.Text

/-- A leap year of the Gregorian calendar. -/
def isLeapYear (year : Int) : Bool :=
  year % 4 == 0 && (year % 100 != 0 || year % 400 == 0)

/-- The number of days of a month; none outside 1 to 12. -/
def daysInMonth (year : Int) (month : Nat) : Nat :=
  match month with
  | 1 | 3 | 5 | 7 | 8 | 10 | 12 => 31
  | 4 | 6 | 9 | 11 => 30
  | 2 => if isLeapYear year then 29 else 28
  | _ => 0

/-- One second in nanoseconds. -/
def nanosPerSecond : Nat := 1000000000

/-- A date and a time of day. -/
structure Timestamp where
  year : Int
  month : Nat
  day : Nat
  hour : Nat
  minute : Nat
  second : Nat
  nano : Nat
  deriving DecidableEq, Repr

namespace Timestamp

/-- Whether the parts name a moment of the calendar in the range of years. -/
def IsValid (t : Timestamp) : Prop :=
  -262143 ≤ t.year ∧ t.year ≤ 262142 ∧ 1 ≤ t.day ∧ t.day ≤ daysInMonth t.year t.month ∧
    t.hour < 24 ∧ t.minute < 60 ∧ t.second < 60 ∧
    (t.nano < nanosPerSecond ∨ (t.second = 59 ∧ t.nano < 2 * nanosPerSecond))

instance (t : Timestamp) : Decidable t.IsValid :=
  inferInstanceAs (Decidable (_ ∧ _))

/-- A number with zeros before it up to a width. -/
def padded (width n : Nat) : List Char :=
  let digits := numeral n
  List.replicate (width - digits.length) '0' ++ digits

/-- The year: four digits, and with a sign outside 0 to 9999. -/
def yearChars (t : Timestamp) : List Char :=
  if 0 ≤ t.year && t.year ≤ 9999 then padded 4 t.year.toNat
  else (if t.year < 0 then '-' else '+') :: padded 4 t.year.natAbs

/-- The date as year, month and day. -/
def dateChars (t : Timestamp) : List Char :=
  joined ['-'] [t.yearChars, padded 2 t.month, padded 2 t.day]

/-- The time of day to the second; a leap second is second 60. -/
def timeChars (t : Timestamp) : List Char :=
  joined [':']
    [padded 2 t.hour, padded 2 t.minute, padded 2 (t.second + t.nano / nanosPerSecond)]

/-- The fraction of the second: three, six or nine digits, the fewest that lose nothing, and none
for a whole second. -/
def fractionChars (t : Timestamp) : List Char :=
  let nano := t.nano % nanosPerSecond
  if nano = 0 then []
  else if nano % 1000000 = 0 then '.' :: padded 3 (nano / 1000000)
  else if nano % 1000 = 0 then '.' :: padded 6 (nano / 1000)
  else '.' :: padded 9 nano

/-- Date and time with a space between them, to the second. -/
def spaced (t : Timestamp) : List Char :=
  t.dateChars ++ ' ' :: t.timeChars

/-- Date and time with a `T` between them, and the fraction of the second. -/
def iso (t : Timestamp) : List Char :=
  t.dateChars ++ 'T' :: t.timeChars ++ t.fractionChars

end Timestamp

end RuleDesk
