import ListQuery.Number.Power
import ListQuery.Text.Ascii

/-!
# Whole numbers in text

* `naturalText`, `integerText` — decimal digits, with a minus sign for a negative number.
* `integer?` — reads an optional sign and decimal digits.
* `int64?` — a number as one of 64 bits with sign; `saturate` — the nearest such number to one
  without sign.
-/

set_option autoImplicit false
namespace ListQuery

/-- A natural number in decimal digits. -/
def naturalText (n : Nat) : String :=
  String.ofList (Nat.toDigits 10 n)

/-- An integer in decimal digits. -/
def integerText (n : Int) : String :=
  if n < 0 then "-" ++ naturalText n.natAbs else naturalText n.natAbs

/-- Reads one optional sign and at least one decimal digit. -/
def integer? : List Char → Option Int
  | '-' :: cs => (Text.decimalNat? cs).map fun n => -(n : Int)
  | '+' :: cs => (Text.decimalNat? cs).map Int.ofNat
  | cs => (Text.decimalNat? cs).map Int.ofNat

/-- The least and the greatest number of 64 bits with sign. -/
def int64Range : Int × Int := (-(twoTo 63 : Int), (twoTo 63 : Int) - 1)

/-- A number as one of 64 bits with sign, if it is in range. -/
def int64? (n : Int) : Option Int64 :=
  if int64Range.1 ≤ n && n ≤ int64Range.2 then some (Int64.ofInt n) else none

/-- An unsigned number of 64 bits as one with sign; what is too great becomes the greatest. -/
def saturate (n : UInt64) : Int64 :=
  Int64.ofInt (min n.toNat (twoTo 63 - 1))

end ListQuery
