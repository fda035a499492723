import ListQuery.Text.Ascii

/-!
# Universally unique identifiers

* `Uuid` — the 32 hexadecimal digits of an identifier.
* `Uuid.parse?` — reads the four accepted spellings; `Uuid.text` — writes the hyphenated one.
-/

set_option autoImplicit false
namespace ListQuery

/-- An identifier of 128 bits, as its hexadecimal digits. -/
structure Uuid where
  digits : List (Fin 16)
  length_digits : digits.length = 32
  deriving DecidableEq

namespace Uuid

/-- Reads 32 hexadecimal digits. -/
def ofDigits? (cs : List Char) : Option Uuid :=
  match cs.mapM Text.hexDigit? with
  | some digits => if h : digits.length = 32 then some ⟨digits, h⟩ else none
  | none => none

/-- Reads groups of 8, 4, 4, 4 and 12 hexadecimal digits with hyphens between them. -/
def ofHyphenated? (cs : List Char) : Option Uuid :=
  let groups := cs.splitOn '-'
  if groups.map List.length = [8, 4, 4, 4, 12] then ofDigits? groups.flatten else none

/-- What stands in front of the hyphenated form in a resource name. -/
def resourceLead : String := "urn:uuid:"

/-- Reads an identifier: bare digits, hyphenated groups, those in braces, or those of a resource
name. Digits and the letters of `resourceLead` may have either case. -/
def parse? (s : String) : Option Uuid :=
  let cs := s.toList
  if cs.length = 32 then ofDigits? cs
  else if cs.length = 36 then ofHyphenated? cs
  else if cs.length = 38 && cs.head? = some '{' && cs.getLast? = some '}' then
    ofHyphenated? (cs.drop 1).dropLast
  else if Text.sameAscii (String.ofList (cs.take resourceLead.length)) resourceLead then
    ofHyphenated? (cs.drop resourceLead.length)
  else none

/-- The hyphenated form in lower case. -/
def text (u : Uuid) : String :=
  let cs := u.digits.map fun d => Nat.digitChar d.val
  let group (start size : Nat) : List Char := (cs.drop start).take size
  String.ofList
    (['-'].intercalate [group 0 8, group 8 4, group 12 4, group 16 4, group 20 12])

end Uuid
end ListQuery
