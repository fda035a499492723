import ListQuery.Text.Scan

/-!
# Dates

* `Date` — a day of the Gregorian calendar, extended to all years.
* `Date.dayNumber` — days since the first of January 1970.
* `Date.parse?` — reads `year-month-day`.
-/

set_option autoImplicit false
namespace ListQuery

/-- Whether a year has a 29th of February. -/
def isLeapYear (year : Int) : Bool :=
  year % 4 = 0 && (year % 100 ≠ 0 || year % 400 = 0)

/-- The number of days of a month; 0 where there is no such month. -/
def daysInMonth (year : Int) (month : Nat) : Nat :=
  match month with
  | 1 | 3 | 5 | 7 | 8 | 10 | 12 => 31
  | 4 | 6 | 9 | 11 => 30
  | 2 => if isLeapYear year then 29 else 28
  | _ => 0

/-- A day of the calendar. -/
structure Date where
  year : Int
  month : Nat
  day : Nat
  deriving DecidableEq, Repr

namespace Date

/-- Years that dates can have. -/
def yearRange : Int × Int := (-262143, 262142)

/-- Whether the month and the day exist. -/
def isValid (d : Date) : Bool :=
  1 ≤ d.month && d.month ≤ 12 && 1 ≤ d.day && d.day ≤ daysInMonth d.year d.month

/-- The days of a year before a month. -/
def daysBeforeMonth (year : Int) (month : Nat) : Nat :=
  (List.range month).foldl (fun days m => days + daysInMonth year m) 0

/-- The days before a year, counted from the beginning of the year 1. -/
def daysBeforeYear (year : Int) : Int :=
  let y := year - 1
  365 * y + y / 4 - y / 100 + y / 400

/-- Days since the first of January 1970. -/
def dayNumber (d : Date) : Int :=
  daysBeforeYear d.year + daysBeforeMonth d.year d.month + (d.day - 1 : Int)
    - daysBeforeYear 1970

/-- A year: up to four digits, or a sign and any number of digits. -/
def year? (cs : List Char) : Option (Int × List Char) :=
  match cs with
  | '-' :: rest => (Text.Scan.digits? 1 rest.length rest).map fun p => (-(p.1 : Int), p.2)
  | '+' :: rest => (Text.Scan.digits? 1 rest.length rest).map fun p => ((p.1 : Int), p.2)
  | _ => (Text.Scan.digits? 1 4 cs).map fun p => ((p.1 : Int), p.2)

/-- Reads a year, a month and a day with hyphens between them; blanks may stand around each. -/
def parse? (s : String) : Option Date := do
  let (year, cs) ← year? (Text.dropBlanks s.toList)
  let cs ← Text.Scan.literal? '-' (Text.dropBlanks cs)
  let (month, cs) ← Text.Scan.digits? 1 2 (Text.dropBlanks cs)
  let cs ← Text.Scan.literal? '-' (Text.dropBlanks cs)
  let (day, cs) ← Text.Scan.digits? 1 2 (Text.dropBlanks cs)
  let date : Date := ⟨year, month, day⟩
  if (Text.dropBlanks cs).isEmpty && yearRange.1 ≤ year && year ≤ yearRange.2 && date.isValid then
    some date
  else none

end Date
end ListQuery
