import ListQuery.Calendar.Date
import ListQuery.Calendar.TimeOfDay

/-!
# Instants

* `Instant` — a point of time in UTC, as seconds since the beginning of 1970 and nanoseconds.
* `Instant.parse?` — reads a timestamp such as `2024-02-29T23:59:60.5+01:00`.
-/

set_option autoImplicit false
namespace ListQuery

/-- A point of time in UTC. In a leap second the nanoseconds exceed a billion. -/
structure Instant where
  seconds : Int
  nanoseconds : Nat
  deriving DecidableEq, Repr

namespace Instant

/-- The instant at which clocks that are `offset` seconds ahead of UTC show a date and a time. -/
def ofLocal (date : Date) (time : TimeOfDay) (offset : Int) : Instant :=
  ⟨86400 * date.dayNumber + time.seconds - offset, time.nanoseconds⟩

/-- Reads a date with a year of four digits and a month and a day of two. -/
def date? (cs : List Char) : Option (Date × List Char) := do
  let (year, cs) ← Text.Scan.digits? 4 4 cs
  let cs ← Text.Scan.literal? '-' cs
  let (month, cs) ← Text.Scan.digits? 2 2 cs
  let cs ← Text.Scan.literal? '-' cs
  let (day, cs) ← Text.Scan.digits? 2 2 cs
  let date : Date := ⟨year, month, day⟩
  if date.isValid then some (date, cs) else none

/-- Reads an hour, a minute and a second of two digits each, and an optional fraction. -/
def time? (cs : List Char) : Option (TimeOfDay × List Char) := do
  let (hour, cs) ← Text.Scan.digits? 2 2 cs
  let cs ← Text.Scan.literal? ':' cs
  let (minute, cs) ← Text.Scan.digits? 2 2 cs
  let cs ← Text.Scan.literal? ':' cs
  let (second, cs) ← Text.Scan.digits? 2 2 cs
  let (nanoseconds, cs) ← Text.Scan.pointFraction? cs
  let time ← TimeOfDay.ofFields? hour minute second nanoseconds
  pure (time, cs)

/-- The separators between a date and a time. -/
def isSeparator (c : Char) : Bool :=
  c == 'T' || c == 't' || c == ' '

/-- A sign in front of hours and minutes, as whether clocks are behind UTC. The minus may also be
the mathematical sign. -/
def behind? (c : Char) : Option Bool :=
  if c = '+' then some false
  else if c = '-' || c = '−' then some true
  else none

/-- Reads an offset from UTC in seconds: `Z`, or a sign with hours and minutes. -/
def offset? : List Char → Option (Int × List Char)
  | [] => none
  | c :: cs =>
    if c = 'Z' || c = 'z' then some (0, cs)
    else do
      let behind ← behind? c
      let (hours, cs) ← Text.Scan.digits? 2 2 cs
      let cs ← Text.Scan.literal? ':' cs
      let (minutes, cs) ← Text.Scan.digits? 2 2 cs
      if minutes ≤ 59 && hours ≤ 23 then
        let seconds : Int := hours * 3600 + minutes * 60
        some (if behind then -seconds else seconds, cs)
      else none

/-- Reads a date, a separator, a time and an offset, and nothing after them. -/
def parse? (s : String) : Option Instant := do
  let (date, cs) ← date? s.toList
  let (time, cs) ← match cs with
    | c :: more => if isSeparator c then time? more else none
    | [] => none
  let (offset, cs) ← offset? cs
  if cs.isEmpty then some (ofLocal date time offset) else none

end Instant
end ListQuery
