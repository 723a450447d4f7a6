import Swapchain.Text.Digits
import Swapchain.Toml.Scanner

/-!
# Dates and times

* `Scanner.datetime`: a date, a time, or both with or without an offset, as written.
-/

namespace Swapchain.Toml.Scanner

/-- A number of exactly so many digits within bounds, as written. -/
def field (digits lower upper : Nat) : Scanner (List Char) := do
  let ds ← times Char.isDigit digits
  let n := Digits.value 10 ds
  if lower ≤ n ∧ n ≤ upper then return ds else fail

/-- Whether a year of the common calendar has a 29th of February. -/
def isLeapYear (y : Nat) : Bool := y % 4 = 0 && (y % 100 != 0 || y % 400 = 0)

/-- The days of a month. -/
def daysInMonth (year month : Nat) : Nat :=
  if month = 2 then if isLeapYear year then 29 else 28
  else if month = 4 ∨ month = 6 ∨ month = 9 ∨ month = 11 then 30
  else 31

/-- A day of the calendar. -/
def date : Scanner (List Char) := do
  let year ← field 4 0 9999
  exactly ['-']
  let month ← field 2 1 12
  exactly ['-']
  let day ← field 2 1 (daysInMonth (Digits.value 10 year) (Digits.value 10 month))
  return year ++ '-' :: month ++ '-' :: day

/-- The part of a second after the point. -/
def secondFraction : Scanner (List Char) := do
  exactly ['.']
  let ds ← span1 Char.isDigit
  return '.' :: ds

/-- A time of day; a minute may have a leap second. -/
def time : Scanner (List Char) := do
  let hour ← field 2 0 23
  exactly [':']
  let minute ← field 2 0 59
  exactly [':']
  let second ← field 2 0 60
  let f ← optional secondFraction
  return hour ++ ':' :: minute ++ ':' :: second ++ f.getD []

/-- The difference to universal time. -/
def offset : Scanner (List Char) :=
  (fun c => [c]) <$> one (fun c => c == 'Z' || c == 'z') <|> do
    let s ← one fun c => c == '+' || c == '-'
    let hour ← field 2 0 23
    exactly [':']
    let minute ← field 2 0 59
    return s :: hour ++ ':' :: minute

/-- The time after a date, and its offset if it has one. -/
def timeOfDate : Scanner (List Char) := do
  let delimiter ← one fun c => c == 'T' || c == 't' || c == ' '
  let t ← time
  let o ← optional offset
  return delimiter :: t ++ o.getD []

/-- A date with or without a time. -/
def dateAndTime : Scanner (List Char) := do
  let d ← date
  let t ← optional timeOfDate
  return d ++ t.getD []

/-- A date, a time or both. -/
def datetime : Scanner String := String.ofList <$> (dateAndTime <|> time)

end Swapchain.Toml.Scanner
