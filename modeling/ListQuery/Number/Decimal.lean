import ListQuery.Number.Integer

/-!
# Decimal numbers

A decimal number is a sign, a coefficient of at most 96 bits and a scale, the number of places after
the point, of at most 28. The scale is part of the value's text: `1.50` keeps its zero. So is the
sign, which a number that was rounded to zero keeps.

* `Decimal.parse?` — reads a number in plain or in scientific form.
* `Decimal.text` — writes a number with as many places as its scale says.
-/

set_option autoImplicit false
namespace ListQuery

/-- A decimal number `coefficient / 10 ^ scale`, or the opposite of it. -/
structure Decimal where
  negative : Bool
  coefficient : Nat
  scale : Nat
  deriving DecidableEq, Repr

namespace Decimal

/-- Coefficients lie below this bound. -/
def bound : Nat := twoTo 96

/-- The greatest scale. -/
def maxScale : Nat := 28

/-- A whole number. -/
def ofInt (n : Int) : Decimal := ⟨n < 0, n.natAbs, 0⟩

/-! ## Plain numbers -/

/-- Coefficients from here on are wide: a further digit may take them beyond 64 bits. -/
def wideBound : Nat := (twoTo 64 - 1) / 10 - 255

/-- The digits read so far. -/
structure Progress where
  coefficient : Nat := 0
  scale : Nat := 0
  /-- Whether the point has been seen. -/
  point : Bool := false
  /-- Whether a digit has been seen. -/
  digit : Bool := false
  /-- Whether the coefficient was wide before the last place was taken. -/
  wide : Bool := false
  /-- Whether all places are taken, so that what follows only rounds. -/
  full : Bool := false

namespace Progress

/-- The digits with one more, which has become the last of the coefficient `next`. -/
def extend (p : Progress) (next : Nat) : Progress :=
  let scale := if p.point then p.scale + 1 else p.scale
  let full := p.point && maxScale ≤ scale
  ⟨next, scale, p.point, true, p.wide || (!full && wideBound ≤ next), full⟩

/-- The coefficient raised by one where the first digit that is left out is five or more. When it
then no longer fits, one place after the point is given up. -/
def roundUp? (p : Progress) (leftOut : Nat) : Option Progress :=
  if leftOut < 5 then some p
  else if p.coefficient + 1 < bound then some { p with coefficient := p.coefficient + 1 }
  else if p.scale = 0 then none
  else some { p with coefficient := (p.coefficient + 1 + 4) / 10, scale := p.scale - 1 }

/-- Digits and underscores. -/
def isTailChar (c : Char) : Bool :=
  Text.isDigit c || c == '_'

/-- Rounds by the first character that is left out, where an underscore counts as zero. Behind it
there may be further digits and underscores, which do not matter. -/
def roundBy? (p : Progress) (c : Char) (tail : List Char) : Option Progress :=
  if isTailChar c && tail.all isTailChar then p.roundUp? (Text.digitValue c) else none

/-- Reads digits, underscores and one point. Where a digit no longer fits after the point it is
used for rounding; before the point it is too much. When all places are taken, an underscore behind
a wide coefficient is passed over, and the character behind it is read as any other. -/
def read? (p : Progress) : List Char → Option Progress
  | [] => if p.digit then some p else none
  | c :: cs =>
    if p.full && !(p.wide && c == '_') then p.roundBy? c cs
    else if Text.isDigit c then
      let next := p.coefficient * 10 + Text.digitValue c
      if next < bound then (p.extend next).read? cs
      else if p.point then p.roundBy? c cs
      else none
    else if c = '.' && !p.point then { p with point := true }.read? cs
    else if c = '_' && p.digit then { p with full := false }.read? cs
    else none

end Progress

/-- Reads an optional sign and digits. Zero has no sign, and the scale is taken modulo the number of
scales there are. -/
def plain? (cs : List Char) : Option Decimal :=
  let (negative, rest) := match cs with
    | '-' :: more => (true, more)
    | '+' :: more => (false, more)
    | _ => (false, cs)
  (Progress.read? {} rest).map fun p =>
    ⟨negative && p.coefficient ≠ 0, p.coefficient, p.scale % (maxScale + 1)⟩

/-! ## Scientific form -/

/-- Reads the digits of an exponent, which may follow a plus sign. -/
def exponent? (cs : List Char) : Option Nat :=
  let digits := match cs with
    | '+' :: more => more
    | _ => cs
  (Text.decimalNat? digits).filter (· < twoTo 32)

/-- The number with at most so many places. The first digit that is left out decides. -/
def roundTo (places : Nat) (d : Decimal) : Decimal :=
  if d.scale ≤ places then d
  else
    let shifted := d.coefficient / tenTo (d.scale - places - 1)
    ⟨d.negative, shifted / 10 + (if shifted % 10 < 5 then 0 else 1), places⟩

/-- The number with its point moved `n` places to the left. Places beyond the greatest scale are
rounded off. -/
def shiftLeft? (d : Decimal) (n : Nat) : Option Decimal :=
  if maxScale < n then none
  else
    let kept := d.roundTo (maxScale - n)
    some { kept with scale := kept.scale + n }

/-- The number with its point moved `n` places to the right. -/
def shiftRight? (d : Decimal) (n : Nat) : Option Decimal :=
  if n ≤ d.scale then some { d with scale := d.scale - n }
  else if maxScale < n then none
  else
    let value := d.coefficient * tenTo (n - d.scale)
    if value < bound then some ⟨d.negative, value, 0⟩ else none

/-- Reads a number: plain, or a plain one with an exponent after `e` or `E`. -/
def parse? (s : String) : Option Decimal :=
  let cs := s.toList
  let isMark (c : Char) : Bool := c == 'e' || c == 'E'
  let base := cs.takeWhile (!isMark ·)
  match cs.dropWhile (!isMark ·) with
  | [] => plain? cs
  | _ :: exponent => do
    let d ← plain? base
    match exponent with
    | '-' :: digits => do
      let n ← exponent? digits
      d.shiftLeft? n
    | _ => do
      let n ← exponent? exponent
      d.shiftRight? n

/-- The number with all places of its scale. -/
def text (d : Decimal) : String :=
  let digits := Nat.toDigits 10 d.coefficient
  let padded := List.replicate (d.scale + 1 - digits.length) '0' ++ digits
  let whole := padded.take (padded.length - d.scale)
  let fraction := padded.drop (padded.length - d.scale)
  String.ofList
    ((if d.negative then ['-'] else []) ++ whole ++
      (if fraction.isEmpty then [] else '.' :: fraction))

end Decimal
end ListQuery
