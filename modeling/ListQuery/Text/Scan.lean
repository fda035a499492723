import ListQuery.Number.Power
import ListQuery.Text.Ascii
import ListQuery.Text.Blank

/-!
# Reading a text from its front

Each reader returns what it read and the rest of the text, or `none`.

* `Scan.digits?` — a number of so many digits; `Scan.literal?` — a certain character.
* `Scan.fraction?` — a decimal fraction as a number of nanoseconds.
-/

set_option autoImplicit false
namespace ListQuery
namespace Text
namespace Scan

/-- Digits at the front of a text, `most` at most. -/
def leadingDigits (most : Nat) (cs : List Char) : List Char :=
  (cs.take most).takeWhile isDigit

/-- A number of at least `least` and at most `most` digits. -/
def digits? (least most : Nat) (cs : List Char) : Option (Nat × List Char) :=
  let ds := leadingDigits most cs
  if least ≤ ds.length then some (natOfDigits ds, cs.drop ds.length) else none

/-- A certain character. -/
def literal? (c : Char) : List Char → Option (List Char)
  | d :: cs => if d = c then some cs else none
  | [] => none

/-- Nine digits count; fewer stand for the leading ones, and further ones are passed over. -/
def fraction? (cs : List Char) : Option (Nat × List Char) :=
  let ds := leadingDigits 9 cs
  if ds.isEmpty then none
  else some (natOfDigits ds * tenTo (9 - ds.length), cs.dropWhile isDigit)

/-- A point and a fraction, if there is a point. -/
def pointFraction? : List Char → Option (Nat × List Char)
  | '.' :: cs => fraction? cs
  | cs => some (0, cs)

end Scan
end Text
end ListQuery
