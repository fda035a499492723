/-!
# Blank characters

* `isBlank` — the Unicode property `White_Space`.
* `isBlankText`, `trim` — texts of blanks only, and a text without the blanks around it.
-/

set_option autoImplicit false
namespace ListQuery
namespace Text

/-- The characters with the Unicode property `White_Space`. -/
def isBlank (c : Char) : Bool :=
  let n := c.toNat
  (0x9 ≤ n && n ≤ 0xD) || n == 0x20 || n == 0x85 || n == 0xA0 || n == 0x1680 ||
    (0x2000 ≤ n && n ≤ 0x200A) || n == 0x2028 || n == 0x2029 || n == 0x202F || n == 0x205F ||
    n == 0x3000

/-- Leading blanks removed. -/
def dropBlanks (cs : List Char) : List Char :=
  cs.dropWhile isBlank

/-- Blanks removed at both ends. -/
def trimChars (cs : List Char) : List Char :=
  (dropBlanks (dropBlanks cs).reverse).reverse

/-- Blanks removed at both ends. -/
def trim (s : String) : String :=
  String.ofList (trimChars s.toList)

/-- Whether a text has no character other than blanks; the empty text counts. -/
def isBlankText (s : String) : Bool :=
  s.toList.all isBlank

end Text
end ListQuery
