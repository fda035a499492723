import ListQuery.Number.Binary64

/-!
# Numerals of data trees

* `Numeral` — a number as a data format holds it: without sign, with sign, or with a fraction.
* `Numeral.ofJson?` — the number that a JSON literal denotes.
-/

set_option autoImplicit false
namespace ListQuery

/-- A number of a data tree. -/
inductive Numeral where
  | natural (n : Nat)
  /-- A number written with a sign; it is negative, or a zero with a minus. -/
  | signed (n : Int)
  | double (x : Binary64)
  deriving DecidableEq, Repr

namespace Numeral

/-- The parts of a JSON number: its sign, its digits before and after the point, and its exponent
if it has one. -/
structure JsonLiteral where
  negative : Bool
  whole : List Char
  fraction : List Char
  exponent : Option Int

/-- The greatest significand that is gathered digit by digit; further digits only scale. -/
def significandBound : Nat := twoTo 64

/-- Gathers digits into a significand of 64 bits and counts the digits that no longer fit. -/
def gather : (significand dropped : Nat) → List Char → Nat × Nat
  | significand, dropped, [] => (significand, dropped)
  | significand, dropped, c :: cs =>
    let next := significand * 10 + Text.digitValue c
    if dropped = 0 && next < significandBound then gather next 0 cs
    else gather significand (dropped + 1) cs

/-- The product of two finite doubles given as ratios, rounded. -/
def scaleBy (x : Binary64) (exponent : Int) : Binary64 :=
  match x.finite?, (Binary64.ofDecimal false 1 exponent.natAbs).finite? with
  | some (m, q), some (p, r) =>
    let (num, den) := if 0 ≤ exponent then (m * p, 1) else (m, p)
    let power := if 0 ≤ exponent then q + r else q - r
    if 0 ≤ power then Binary64.ofRatio x.isNegative (num * twoTo power.toNat) den
    else Binary64.ofRatio x.isNegative num (den * twoTo (-power).toNat)
  | _, _ => x

/-- The double for a significand and a power of ten: the significand is rounded first and the
product or quotient with the power of ten once more. -/
def doubleOf? (negative : Bool) (significand : Nat) (exponent : Int) : Option Binary64 :=
  let x := Binary64.ofRatio false significand 1
  let scaled :=
    if significand = 0 then some x
    else if 308 < exponent then none
    else if -308 ≤ exponent then some (scaleBy x exponent)
    else if -616 ≤ exponent then some (scaleBy (scaleBy x (-308)) (exponent + 308))
    else some (Binary64.ofMagnitude false 0)
  match scaled with
  | some y =>
    if y.isFinite then some (Binary64.ofMagnitude negative y.magnitude) else none
  | none => none

/-- The number of a JSON literal. Without point and exponent it is a whole number as long as that
fits in 64 bits, and a double otherwise, as are all literals with a point or an exponent. A double
out of range has no value. -/
def ofJson? (l : JsonLiteral) : Option Numeral :=
  let value := Text.natOfDigits l.whole
  if l.fraction.isEmpty && l.exponent.isNone && !l.negative && value < twoTo 64 then
    some (.natural value)
  else if l.fraction.isEmpty && l.exponent.isNone && l.negative && 0 < value &&
      value ≤ twoTo 63 then
    some (.signed (-value))
  else
    let (significand, droppedWhole) := gather 0 0 l.whole
    let (significand, droppedFraction) :=
      if droppedWhole = 0 then gather significand 0 l.fraction
      else (significand, l.fraction.length)
    let scale : Int := (droppedWhole : Int) - ((l.fraction.length - droppedFraction : Nat) : Int)
    (doubleOf? l.negative significand (scale + l.exponent.getD 0)).map .double

end Numeral
end ListQuery
