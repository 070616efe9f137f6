import DriverKit.Text.Numeral

/-!
# Dates and times of day

The days of the calendar from year 1 to year 9999, and moments of a day with an optional distance
from universal time. Two moments with a distance are the same when they name the same instant; a
moment without one is never the same as a moment with one.
-/

namespace DriverKit

/-- A day: year, month and day of the month. -/
structure Date where
  year : Nat
  month : Nat
  day : Nat
deriving DecidableEq, Repr

namespace Date

def isLeapYear (year : Nat) : Bool :=
  year % 4 == 0 && (year % 100 != 0 || year % 400 == 0)

def daysInMonth (year month : Nat) : Nat :=
  if month == 2 then (if isLeapYear year then 29 else 28)
  else if month == 4 || month == 6 || month == 9 || month == 11 then 30
  else 31

def isValid (date : Date) : Bool :=
  1 ≤ date.year && date.year ≤ 9999 && 1 ≤ date.month && date.month ≤ 12
    && 1 ≤ date.day && date.day ≤ daysInMonth date.year date.month

def daysBeforeMonth (year month : Nat) : Nat :=
  (List.range month).tail.foldl (fun days month => days + daysInMonth year month) 0

def ordinal (date : Date) : Nat :=
  let before := date.year - 1
  before * 365 + before / 4 - before / 100 + before / 400
    + daysBeforeMonth date.year date.month + date.day

def text (date : Date) : String :=
  Text.padded 4 date.year ++ "-" ++ Text.padded 2 date.month ++ "-" ++ Text.padded 2 date.day

end Date

/-- A moment of a day, to the millionth of a second, with the minutes by which its clock is ahead
of universal time, if that is known. -/
structure Timestamp where
  date : Date
  hour : Nat
  minute : Nat
  second : Nat
  micro : Nat
  offset : Option Int
deriving DecidableEq, Repr

namespace Timestamp

def isValid (moment : Timestamp) : Bool :=
  moment.date.isValid && moment.hour < 24 && moment.minute < 60 && moment.second < 60

def localMicros (moment : Timestamp) : Int :=
  (((moment.date.ordinal * 24 + moment.hour) * 60 + moment.minute) * 60 + moment.second)
    * 1000000 + moment.micro

/-- Two moments are the same if both name one instant, or both lack a distance from universal
time and show the same clock. -/
def same (left right : Timestamp) : Bool :=
  match left.offset, right.offset with
  | some ahead, some otherAhead =>
      left.localMicros - ahead * 60000000 == right.localMicros - otherAhead * 60000000
  | none, none => left.localMicros == right.localMicros
  | _, _ => false

/-- The distance from universal time as signed hours and minutes. -/
def offsetText (minutes : Int) : String :=
  (if minutes < 0 then "-" else "+")
    ++ Text.padded 2 (minutes.natAbs / 60) ++ ":" ++ Text.padded 2 (minutes.natAbs % 60)

def text (moment : Timestamp) : String :=
  moment.date.text ++ " " ++ Text.padded 2 moment.hour ++ ":" ++ Text.padded 2 moment.minute
    ++ ":" ++ Text.padded 2 moment.second
    ++ (if moment.micro == 0 then "" else "." ++ Text.padded 6 moment.micro)
    ++ (moment.offset.map offsetText).getD ""

end Timestamp

end DriverKit
