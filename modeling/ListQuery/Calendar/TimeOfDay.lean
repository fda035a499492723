import ListQuery.Text.Scan

/-!
# Times of day

* `TimeOfDay` — seconds since midnight and nanoseconds. A leap second is the second before it with
  a billion nanoseconds more.
* `TimeOfDay.parse?` — reads `hour:minute`, with optional seconds and their fraction.
-/

set_option autoImplicit false
namespace ListQuery

/-- A time of day. -/
structure TimeOfDay where
  seconds : Nat
  nanoseconds : Nat
  deriving DecidableEq, Repr

namespace TimeOfDay

/-- The nanoseconds of one second. -/
def nanosPerSecond : Nat := 1000000000

/-- The time with the given fields, if the clock shows it; 60 stands for a leap second. -/
def ofFields? (hour minute second nanoseconds : Nat) : Option TimeOfDay :=
  if hour ≤ 23 && minute ≤ 59 && second ≤ 60 then
    let start := hour * 3600 + minute * 60
    if second = 60 then some ⟨start + 59, nanoseconds + nanosPerSecond⟩
    else some ⟨start + second, nanoseconds⟩
  else none

/-- A colon, seconds and an optional fraction, with blanks allowed around the parts. -/
def seconds? (cs : List Char) : Option (Nat × Nat × List Char) := do
  let cs ← Text.Scan.literal? ':' (Text.dropBlanks cs)
  let (second, cs) ← Text.Scan.digits? 1 2 (Text.dropBlanks cs)
  let (nanoseconds, cs) ← Text.Scan.pointFraction? cs
  pure (second, nanoseconds, cs)

/-- Reads an hour, a minute and optionally seconds; blanks may stand around each. -/
def parse? (s : String) : Option TimeOfDay := do
  let (hour, cs) ← Text.Scan.digits? 1 2 (Text.dropBlanks s.toList)
  let cs ← Text.Scan.literal? ':' (Text.dropBlanks cs)
  let (minute, cs) ← Text.Scan.digits? 1 2 (Text.dropBlanks cs)
  let (second, nanoseconds, rest) := (seconds? cs).getD (0, 0, cs)
  if (Text.dropBlanks rest).isEmpty then ofFields? hour minute second nanoseconds else none

end TimeOfDay
end ListQuery
