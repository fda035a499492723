import ListQuery.Number.Binary64

/-!
# The fewest digits that read back

* `Binary64.shortest` — the shortest decimal number that lies nearer to a double than to any other.
* `Binary64.plainText` — a double without an exponent.
* `Binary64.scientificText` — a double with an exponent where it is very great or very small.

Where two shortest numbers are equally near, the two texts differ: `plainText` takes the one farther
from zero and `scientificText` the one with an even last digit.
-/

set_option autoImplicit false
namespace ListQuery
namespace Binary64

/-- Which of two equally near numbers of a grid is taken. -/
inductive Tie where
  | toEven
  /-- The greater one in absolute value. -/
  | away
  deriving DecidableEq, Repr

/-- Whether a tie between `n` and `n + 1` goes to `n + 1`. -/
def Tie.goesUp (tie : Tie) (n : Nat) : Bool :=
  match tie with
  | .toEven => n % 2 == 1
  | .away => true

/-- The numbers that round to a double `m * 2 ^ q`, in quarters of `2 ^ q`: half the distance to
each neighbour on either side. Below a power of two the neighbour is only half as far away. -/
structure Interval where
  low : Nat
  value : Nat
  high : Nat
  /-- Whether the ends belong to the interval. -/
  closed : Bool

/-- The interval of `m * 2 ^ q` in quarters of `2 ^ q`. -/
def intervalOf (m : Nat) (q : Int) : Interval :=
  let below := if m = twoTo 52 && q > -1074 then 1 else 2
  ⟨4 * m - below, 4 * m, 4 * m + 2, m % 2 = 0⟩

/-- Whether the multiple `n * step` of a grid lies in an interval scaled by `unit`. -/
def Interval.contains (i : Interval) (unit n step : Nat) : Bool :=
  let x := n * step
  if i.closed then i.low * unit ≤ x && x ≤ i.high * unit
  else i.low * unit < x && x < i.high * unit

/-- The point of the grid of multiples of `step` in the interval that is nearest to the value. -/
def Interval.nearest? (i : Interval) (tie : Tie) (unit step : Nat) : Option Nat :=
  let v := i.value * unit
  let n := v / step
  let lowIn := i.contains unit n step
  let highIn := i.contains unit (n + 1) step
  let remainder := 2 * (v % step)
  if lowIn && highIn then
    some (if step < remainder || (remainder = step && tie.goesUp n) then n + 1 else n)
  else if lowIn then some n
  else if highIn then some (n + 1)
  else none

/-- Tries the grids of the powers of ten downwards from `10 ^ exponent`, at most `count` of them.
The result is a coefficient and its power of ten. -/
def Interval.search (i : Interval) (tie : Tie) (q : Int) :
    (count : Nat) → (exponent : Int) → Nat × Int
  | 0, exponent => (0, exponent)
  | count + 1, exponent =>
    let unit := if 2 ≤ q then twoTo (q - 2).toNat else 1
    let binary := if 2 ≤ q then 1 else twoTo (2 - q).toNat
    let (scaledUnit, step) :=
      if 0 ≤ exponent then (unit, binary * tenTo exponent.toNat)
      else (unit * tenTo (-exponent).toNat, binary)
    match i.nearest? tie scaledUnit step with
    | some n => if n = 0 then i.search tie q count (exponent - 1) else (n, exponent)
    | none => i.search tie q count (exponent - 1)

/-- Moves trailing zeros of a coefficient into the exponent. -/
def stripZeros : (fuel : Nat) → Nat → Int → Nat × Int
  | 0, n, e => (n, e)
  | fuel + 1, n, e => if n ≠ 0 && n % 10 = 0 then stripZeros fuel (n / 10) (e + 1) else (n, e)

/-- The shortest decimal number `n * 10 ^ e` that reads back as the finite double `m * 2 ^ q`, and
of those the nearest. -/
def shortest (tie : Tie) (m : Nat) (q : Int) : Nat × Int :=
  if m = 0 then (0, 0)
  else
    let places : Int := ((m.log2 : Int) + q) * 30103 / 100000 + 1
    let (n, e) := (intervalOf m q).search tie q 24 places
    stripZeros 20 n e

/-- Digits with the decimal point `exponent` places right of their end; no exponent is written. -/
def positional (digits : List Char) (exponent : Int) : List Char × List Char :=
  if 0 ≤ exponent then (digits ++ List.replicate exponent.toNat '0', [])
  else
    let places := (-exponent).toNat
    if places < digits.length then
      (digits.take (digits.length - places), digits.drop (digits.length - places))
    else (['0'], List.replicate (places - digits.length) '0' ++ digits)

/-- The minus sign of a negative double. -/
def signText (x : Binary64) : String :=
  if x.isNegative then "-" else ""

/-- The number without an exponent; a whole number has no point. -/
def plainText (x : Binary64) : String :=
  match x.finite? with
  | none => if x.isNaN then "NaN" else x.signText ++ "inf"
  | some (m, q) =>
    let (n, e) := shortest .away m q
    let (whole, fraction) := positional (Nat.toDigits 10 n) e
    x.signText ++ String.ofList (if fraction.isEmpty then whole else whole ++ '.' :: fraction)

/-- The number with its point kept: without an exponent from 0.00001 to below 10 ^ 16, and as one
digit before the point and a signed exponent otherwise. -/
def scientificText (x : Binary64) : String :=
  match x.finite? with
  | none => if x.isNaN then "NaN" else x.signText ++ "inf"
  | some (m, q) =>
    let (n, e) := shortest .toEven m q
    let digits := Nat.toDigits 10 n
    let leading : Int := e + digits.length - 1
    if n = 0 || (-5 ≤ leading && leading < 16) then
      let (whole, fraction) := positional digits e
      x.signText ++ String.ofList (whole ++ '.' :: (if fraction.isEmpty then ['0'] else fraction))
    else
      let exponent := Nat.toDigits 10 leading.natAbs
      let mantissa := match digits with
        | [d] => [d]
        | d :: more => d :: '.' :: more
        | [] => []
      x.signText ++ String.ofList
        (mantissa ++ 'e' :: (if leading < 0 then '-' else '+') :: exponent)

end Binary64
end ListQuery
