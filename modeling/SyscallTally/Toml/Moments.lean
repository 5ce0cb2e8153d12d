import SyscallTally.Toml.Characters
import SyscallTally.Text.Decimal

/-!
Contract: dates, times of day and their combinations, of which only the form and the ranges are
checked.

A day exists in its month, leap years counted; a second may be the sixtieth.
-/

set_option autoImplicit false

namespace SyscallTally.Toml

/-- A number of exactly the given count of decimal digits. -/
def fixedDigits? : Nat → Nat → Reader Nat
  | 0, value, chars => some (value, chars)
  | _ + 1, _, [] => none
  | count + 1, value, char :: rest =>
      match Text.Decimal.digit? char with
      | some digit => fixedDigits? count (value * 10 + digit) rest
      | none => none

/-- Two digits of a number within bounds. -/
def twoDigits? (low high : Nat) (chars : List Char) : Option (Nat × List Char) :=
  match fixedDigits? 2 0 chars with
  | some (value, rest) => if low ≤ value ∧ value ≤ high then some (value, rest) else none
  | none => none

/-- What is left after one given character. -/
def expect (char : Char) : List Char → Option (List Char)
  | [] => none
  | first :: rest => if first = char then some rest else none

/-- Whether a year has a leap day. -/
def isLeapYear (year : Nat) : Bool :=
  year % 4 = 0 && (year % 100 ≠ 0 || year % 400 = 0)

/-- The number of days in a month. -/
def daysIn (year month : Nat) : Nat :=
  if month = 2 then (if isLeapYear year then 29 else 28)
  else if month = 4 ∨ month = 6 ∨ month = 9 ∨ month = 11 then 30
  else 31

/-- What is left after a date. -/
def date? (chars : List Char) : Option (List Char) := do
  let (year, rest) ← fixedDigits? 4 0 chars
  let rest ← expect '-' rest
  let (month, rest) ← twoDigits? 1 12 rest
  let rest ← expect '-' rest
  let (_, rest) ← twoDigits? 1 (daysIn year month) rest
  return rest

/-- What is left after the fraction of a second, if there is one. -/
def secondFraction (chars : List Char) : List Char :=
  match chars with
  | '.' :: rest =>
      let digits := rest.takeWhile fun char => (Text.Decimal.digit? char).isSome
      if digits.isEmpty then chars else rest.drop digits.length
  | _ => chars

/-- What is left after a time of day. -/
def timeOfDay? (chars : List Char) : Option (List Char) := do
  let (_, rest) ← twoDigits? 0 23 chars
  let rest ← expect ':' rest
  let (_, rest) ← twoDigits? 0 59 rest
  let rest ← expect ':' rest
  let (_, rest) ← twoDigits? 0 60 rest
  return secondFraction rest

/-- What is left after a distance in hours and minutes. -/
def distance? (chars : List Char) : Option (List Char) := do
  let (_, rest) ← twoDigits? 0 23 chars
  let rest ← expect ':' rest
  let (_, rest) ← twoDigits? 0 59 rest
  return rest

/-- What is left after the offset of a time zone. -/
def offset? : List Char → Option (List Char)
  | 'Z' :: rest => some rest
  | 'z' :: rest => some rest
  | '+' :: rest => distance? rest
  | '-' :: rest => distance? rest
  | _ => none

/-- What is left after the character between a date and a time. -/
def timeMark? : List Char → Option (List Char)
  | 'T' :: rest => some rest
  | 't' :: rest => some rest
  | ' ' :: rest => some rest
  | _ => none

/-- What is left after a date, a time of day, or a date with a time and perhaps an offset. -/
def moment? (chars : List Char) : Option (List Char) :=
  match date? chars with
  | none => timeOfDay? chars
  | some afterDate =>
      match (timeMark? afterDate).bind timeOfDay? with
      | none => some afterDate
      | some afterTime => some ((offset? afterTime).getD afterTime)

end SyscallTally.Toml
