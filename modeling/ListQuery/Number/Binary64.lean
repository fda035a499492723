import ListQuery.Number.Power
import ListQuery.Text.Ascii

/-!
# Double-precision numbers

A double is kept as its 64 bits, and all arithmetic on it is exact arithmetic on whole numbers.

* `Binary64.ofRatio` — the double nearest to a fraction, a tie going to the even neighbour.
* `Binary64.ofDecimal` — the double nearest to a decimal number.
* `Binary64.finite?` — a finite double as a whole number times a power of two.
* `Binary64.parse?` — reads the text of a number.
-/

set_option autoImplicit false
namespace ListQuery

/-- A double-precision number: one sign bit, eleven bits of exponent, 52 bits of fraction. -/
structure Binary64 where
  bits : UInt64
  deriving DecidableEq, Repr

namespace Binary64

/-- The bits of infinity, which lie just above those of the greatest finite double. -/
def infinityBits : Nat := 0x7FF0000000000000

/-- A double from its sign and the bits below the sign. -/
def ofMagnitude (negative : Bool) (magnitude : Nat) : Binary64 :=
  ⟨UInt64.ofNat (magnitude + if negative then twoTo 63 else 0)⟩

/-- Infinity of either sign. -/
def infinity (negative : Bool) : Binary64 :=
  ofMagnitude negative infinityBits

/-- A value that is no number. -/
def nan : Binary64 :=
  ofMagnitude false 0x7FF8000000000000

/-- Whether the sign bit is set. -/
def isNegative (x : Binary64) : Bool :=
  twoTo 63 ≤ x.bits.toNat

/-- The bits below the sign. -/
def magnitude (x : Binary64) : Nat :=
  x.bits.toNat % twoTo 63

/-- Whether the value is no number. -/
def isNaN (x : Binary64) : Bool :=
  infinityBits < x.magnitude

/-- Whether the value is a number other than the infinities. -/
def isFinite (x : Binary64) : Bool :=
  x.magnitude < infinityBits

/-- The absolute value of a finite double as `m * 2 ^ q`; `q` is at least -1074. -/
def finite? (x : Binary64) : Option (Nat × Int) :=
  if x.isFinite then
    let exponent : Nat := x.magnitude / twoTo 52
    let fraction : Nat := x.magnitude % twoTo 52
    if exponent = 0 then some (fraction, -1074)
    else some (fraction + twoTo 52, Int.ofNat exponent - 1075)
  else none

/-- The quotient rounded to the nearest whole number, a tie going to the even one. -/
def roundQuotient (num den : Nat) : Nat :=
  let q := num / den
  let twice := 2 * (num % den)
  if twice < den then q
  else if den < twice then q + 1
  else if q % 2 = 0 then q else q + 1

/-- The numerator and denominator of `num / (den * 2 ^ q)`. -/
def scaleDown (num den : Nat) (q : Int) : Nat × Nat :=
  if 0 ≤ q then (num, den * twoTo q.toNat) else (num * twoTo (-q).toNat, den)

/-- The exponent `q` of the double nearest to `num / den`: the quotient by `2 ^ q` has 53 binary
places, or fewer where `q` can get no smaller. -/
def exponentFor (num den : Nat) : Int :=
  let guess : Int := (num.log2 : Int) - (den.log2 : Int) - 52
  let (n, d) := scaleDown num den guess
  let q := if n / d < twoTo 52 then guess - 1 else guess
  max q (-1074)

/-- The double nearest to `num / den`; a tie goes to the even neighbour, and what lies beyond the
greatest double is infinite. -/
def ofRatio (negative : Bool) (num den : Nat) : Binary64 :=
  if num = 0 then ofMagnitude negative 0
  else
    let q := exponentFor num den
    let (n, d) := scaleDown num den q
    let magnitude := (q + 1074).toNat * twoTo 52 + roundQuotient n d
    ofMagnitude negative (min magnitude infinityBits)

/-- The double nearest to a whole number. -/
def ofInt (n : Int) : Binary64 :=
  ofRatio (n < 0) n.natAbs 1

/-- The double nearest to `coefficient * 10 ^ exponent`. Where the magnitude alone decides, no
power of ten is formed. -/
def ofDecimal (negative : Bool) (coefficient : Nat) (exponent : Int) : Binary64 :=
  let places : Int := (Nat.toDigits 10 coefficient).length + exponent
  if coefficient = 0 || places < -400 then ofMagnitude negative 0
  else if places > 400 then infinity negative
  else if 0 ≤ exponent then ofRatio negative (coefficient * tenTo exponent.toNat) 1
  else ofRatio negative coefficient (tenTo (-exponent).toNat)

/-- An optional sign in front of a text, and whether it is a minus. -/
def takeSign : List Char → Bool × List Char
  | '-' :: cs => (true, cs)
  | '+' :: cs => (false, cs)
  | cs => (false, cs)

/-- Reads digits with at most one point among them, at least one digit, and nothing but an
exponent after them. The result is a coefficient and a power of ten. -/
def decimalParts? (cs : List Char) : Option (Nat × Int) :=
  let whole := cs.takeWhile Text.isDigit
  let afterWhole := cs.dropWhile Text.isDigit
  let (fraction, rest) :=
    match afterWhole with
    | '.' :: more => (more.takeWhile Text.isDigit, more.dropWhile Text.isDigit)
    | _ => ([], afterWhole)
  if whole.isEmpty && fraction.isEmpty then none
  else
    let coefficient := Text.natOfDigits (whole ++ fraction)
    let scale : Int := -fraction.length
    match rest with
    | [] => some (coefficient, scale)
    | e :: more =>
      if e = 'e' || e = 'E' then
        let (negative, digits) := takeSign more
        (Text.decimalNat? digits).map fun n => (coefficient, scale + if negative then -n else n)
      else none

/-- Reads a number: an optional sign, then `inf`, `infinity` or `nan` in any case, or decimal
digits with an optional point and an optional exponent. -/
def parse? (s : String) : Option Binary64 :=
  let (negative, cs) := takeSign s.toList
  let word := Text.lowerAscii (String.ofList cs)
  if word = "inf" || word = "infinity" then some (infinity negative)
  else if word = "nan" then some (ofMagnitude negative nan.magnitude)
  else (decimalParts? cs).map fun p => ofDecimal negative p.1 p.2

end Binary64
end ListQuery
