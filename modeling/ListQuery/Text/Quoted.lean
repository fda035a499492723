import ListQuery.Text.CaseTable
import ListQuery.Text.PrintTable

/-!
# Quoted text in messages

* `quoted` — a text between double quotes, with every character that would not be seen escaped.
-/

set_option autoImplicit false
namespace ListQuery
namespace Text

/-- A character as it is written between double quotes. -/
def escapeChar (c : Char) : List Char :=
  if c = '"' || c = '\\' then ['\\', c]
  else if c = '\n' then ['\\', 'n']
  else if c = '\r' then ['\\', 'r']
  else if c = '\t' then ['\\', 't']
  else if c = '\x00' then ['\\', '0']
  else if 0x20 ≤ c.toNat && c.toNat < 0x7F then [c]
  else if inSpans extendSpans c.toNat || inSpans hiddenSpans c.toNat then
    ['\\', 'u', '\x7b'] ++ Nat.toDigits 16 c.toNat ++ ['\x7d']
  else [c]

/-- A text between double quotes. -/
def quoted (s : String) : String :=
  String.ofList ('"' :: s.toList.flatMap escapeChar ++ ['"'])

end Text
end ListQuery
