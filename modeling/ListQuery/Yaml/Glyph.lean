import ListQuery.Text.Ascii

/-!
# Characters with their places

* `Glyph` — a character with its line and column.
* `Glyph.ofText?` — the glyphs of a text, if it has only characters that documents may hold. Line
  ends of all spellings become one.
* classes of characters: `isBreak`, `isSpace`, `isWordChar`, `isMark`, and look-ahead on glyphs.
-/

set_option autoImplicit false
namespace ListQuery
namespace Yaml

/-- The characters that end a line, once other spellings of a line end are replaced. -/
def isBreak (c : Char) : Bool :=
  c == '\n' || c.toNat == 0x2028 || c.toNat == 0x2029

/-- Space and tab. -/
def isSpace (c : Char) : Bool :=
  c == ' ' || c == '\t'

/-- Letters, digits, hyphen and underscore. -/
def isWordChar (c : Char) : Bool :=
  c.isAlphanum || c == '-' || c == '_'

/-- The characters that documents may hold. -/
def isAllowed (c : Char) : Bool :=
  let n := c.toNat
  n == 0x9 || n == 0xA || n == 0xD || (0x20 ≤ n && n ≤ 0x7E) || n == 0x85 ||
    (0xA0 ≤ n && n ≤ 0xD7FF) || (0xE000 ≤ n && n ≤ 0xFFFD) || 0x10000 ≤ n

/-- Writes a carriage return, alone or with a line feed, and the next-line character as a line
feed. -/
def normaliseBreaks : List Char → List Char
  | [] => []
  | '\r' :: '\n' :: cs => '\n' :: normaliseBreaks cs
  | c :: cs => (if c == '\r' || c.toNat == 0x85 then '\n' else c) :: normaliseBreaks cs

/-- The byte order mark. -/
def isMark (c : Char) : Bool :=
  c.toNat == 0xFEFF

/-- A character and its place; lines and columns are counted from zero. -/
structure Glyph where
  char : Char
  line : Nat
  column : Nat
  /-- The number of bytes in front of it on its line, in UTF-8. -/
  offset : Nat
  deriving Repr

namespace Glyph

/-- Characters with their places when the first one stands at a given place. -/
def place (line column offset : Nat) : List Char → List Glyph
  | [] => []
  | c :: cs =>
    ⟨c, line, column, offset⟩ ::
      (if isBreak c then place (line + 1) 0 0 cs
      else place line (column + 1) (offset + c.utf8Size) cs)

/-- The glyphs of a text. -/
def ofText? (s : String) : Option (List Glyph) :=
  let cs := s.toList
  if cs.all isAllowed then some (place 0 0 0 (normaliseBreaks cs)) else none

/-- The character `n` places ahead. -/
def charAt? (n : Nat) (gs : List Glyph) : Option Char :=
  (gs[n]?).map Glyph.char

/-- Whether the character `n` places ahead is `c`. -/
def hasAt (c : Char) (n : Nat) (gs : List Glyph) : Bool :=
  charAt? n gs == some c

/-- Whether `n` places ahead there is a space, a tab, a line end or the end of the text. -/
def blankAt (n : Nat) (gs : List Glyph) : Bool :=
  match charAt? n gs with
  | none => true
  | some c => isSpace c || isBreak c

/-- Whether the line begins with three dashes or three points that stand alone. -/
def atDocumentMark (gs : List Glyph) : Bool :=
  match gs with
  | [] => false
  | g :: _ =>
    g.column == 0 && (g.char == '-' || g.char == '.') && hasAt g.char 1 gs && hasAt g.char 2 gs &&
      blankAt 3 gs

/-- The text of glyphs. -/
def text (gs : List Glyph) : String :=
  String.ofList (gs.map Glyph.char)

end Glyph
end Yaml
end ListQuery
