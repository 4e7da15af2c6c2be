import Conform.Text.Digit
import Conform.Text.Split

/-!
# Dates, times and durations

Digits may be decimal digits of any script, and a line break may follow the whole.
-/

namespace Conform.Format

/-- Two decimal digits. -/
def twoDigits? (a b : Char) : Option Nat :=
  if Text.isDecimal a && Text.isDecimal b then some (Text.decimalOf [a, b]) else none

/-- Four decimal digits. -/
def fourDigits? (a b c d : Char) : Option Nat :=
  if [a, b, c, d].all Text.isDecimal then some (Text.decimalOf [a, b, c, d]) else none

/-- A year with a day that others lack. -/
def isLeapYear (year : Nat) : Bool := year % 4 == 0 && (year % 100 != 0 || year % 400 == 0)

/-- The number of days of a month. -/
def daysIn (year month : Nat) : Nat :=
  if month == 2 then (if isLeapYear year then 29 else 28)
  else if [4, 6, 9, 11].contains month then 30
  else 31

/-- A day of the Gregorian calendar, from the year 1 to the year 9999. -/
def isCalendarDay (year month day : Nat) : Bool :=
  1 ≤ year && year ≤ 9999 && 1 ≤ month && month ≤ 12 && 1 ≤ day && day ≤ daysIn year month

/-- The text of a date: year, month and day. -/
def isDate (cs : List Char) : Bool :=
  match Text.dropFinalBreak cs with
  | [a, b, c, d, '-', e, f, '-', g, h] =>
    match fourDigits? a b c d, twoDigits? e f, twoDigits? g h with
    | some year, some month, some day => isCalendarDay year month day
    | _, _, _ => false
  | _ => false

/-- What may follow the seconds: nothing, or a point and digits. -/
def dropFraction (cs : List Char) : List Char :=
  match cs with
  | '.' :: d :: rest => if Text.isDecimal d then rest.dropWhile Text.isDecimal else cs
  | cs => cs

/-- The text of an offset from universal time. -/
def isOffset : List Char → Bool
  | ['Z'] => true
  | ['z'] => true
  | [sign, a, b, ':', c, d] =>
    (sign == '+' || sign == '-') &&
      match twoDigits? a b, twoDigits? c d with
      | some hour, some minute => hour ≤ 23 && minute ≤ 59
      | _, _ => false
  | _ => false

/-- The text of a time of day with its offset.  A minute may have a leap second. -/
def isTime (cs : List Char) : Bool :=
  match Text.dropFinalBreak cs with
  | a :: b :: ':' :: c :: d :: ':' :: e :: f :: rest =>
    (match twoDigits? a b, twoDigits? c d, twoDigits? e f with
      | some hour, some minute, some second => hour ≤ 23 && minute ≤ 59 && second ≤ 60
      | _, _, _ => false) && isOffset (dropFraction rest)
  | _ => false

/-- The text of a date and a time, joined by the first `T` or, without one, by the first `t`. -/
def isDateTime (cs : List Char) : Bool :=
  match (Text.cut? 'T' cs).or (Text.cut? 't' cs) with
  | some (date, time) => isDate date && isTime time
  | none => false

/-- The text after a number with its unit, or the whole text if it does not start with one. -/
def dropAmount (unit : Char) (cs : List Char) : List Char :=
  match cs.dropWhile Text.isDecimal with
  | c :: rest => if c == unit && cs.head?.any Text.isDecimal then rest else cs
  | [] => cs

/-- The text after amounts in some of the units, which come in order. -/
def dropAmounts (units : List Char) (cs : List Char) : List Char :=
  units.foldl (fun rest unit => dropAmount unit rest) cs

/-- The time part of a duration, or nothing. -/
def isTimePart : List Char → Bool
  | [] => true
  | 'T' :: rest => rest.head?.any Text.isDecimal && (dropAmounts ['H', 'M', 'S'] rest).isEmpty
  | _ => false

/-- The text of a duration: weeks, or years, months and days with hours, minutes and seconds behind a `T`. -/
def isDuration (cs : List Char) : Bool :=
  match Text.dropFinalBreak cs with
  | 'P' :: rest =>
    let weeks := rest.head?.any Text.isDecimal && dropAmount 'W' rest == []
    let starts := rest.head?.any Text.isDecimal || (rest.head? == some 'T' && (rest.drop 1).head?.any Text.isDecimal)
    weeks || (starts && isTimePart (dropAmounts ['Y', 'M', 'D'] rest))
  | _ => false

end Conform.Format
