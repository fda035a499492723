import ListQuery.Yaml.Glyph

/-!
# Tags

A tag stands in front of a node and says what the node is. Its name is a row of bytes, because bytes
may be written in it with percent signs that are no text in UTF-8. A zero byte ends the name.

* `Tag` — what a tag asks for; `Tag.ofBytes` — the tag with a full name.
* `readTagBytes` — the characters of a tag as bytes.
-/

set_option autoImplicit false
namespace ListQuery
namespace Yaml

/-- What a tag asks for. -/
inductive Tag where
  | bool
  | int
  | float
  | null
  /-- A standard tag of another name, or any tag that is not the document's own. -/
  | other
  /-- A tag of the document's own, with its name if that is text. -/
  | own (name : Option String)
  deriving DecidableEq, Repr

/-- The bytes of ASCII characters. -/
def asciiBytes (cs : List Char) : List UInt8 :=
  cs.map fun c => UInt8.ofNat c.toNat

namespace Tag

/-- The exclamation mark, with which the document's own tags begin. -/
def mark : List UInt8 := asciiBytes ['!']

/-- The beginning of the full name of a standard tag. -/
def standardLead : List UInt8 := asciiBytes "tag:yaml.org,2002:".toList

/-- The names of the standard tags that ask for a certain kind of value. -/
def standardNames : List (List UInt8 × Tag) :=
  [("bool", Tag.bool), ("int", .int), ("float", .float), ("null", .null)].map fun p =>
    (standardLead ++ asciiBytes p.1.toList, p.2)

/-- The tag with a full name. A mark that stands alone is a name itself. -/
def ofBytes (bytes : List UInt8) : Tag :=
  if bytes.take 1 = mark then
    let name := if bytes.length = 1 then bytes else bytes.drop 1
    .own (String.fromUTF8? ⟨name.toArray⟩)
  else (standardNames.lookup bytes).getD .other

/-- The name of a tag of the document's own. -/
def ownName? : Tag → Option String
  | .own name => name
  | _ => none

end Tag

/-! ## The characters of a tag -/

/-- The characters of tags, those of flow collections only inside angle brackets. -/
def isTagChar (verbatim : Bool) (c : Char) : Bool :=
  isWordChar c || ";/?:@&=+$.!~*'()".toList.contains c ||
    (verbatim && (c == ',' || c == '[' || c == ']'))

/-- The number of bytes of a character that begins with a byte, in UTF-8. -/
def utf8Width? (byte : UInt8) : Option Nat :=
  if byte < 0x80 then some 1
  else if byte / 0x20 = 0x6 then some 2
  else if byte / 0x10 = 0xE then some 3
  else if byte / 0x8 = 0x1E then some 4
  else none

/-- Bytes written with percent signs, as many as are asked for. -/
def readBytes : (count : Nat) → List Glyph → Option (List UInt8 × List Glyph)
  | 0, gs => some ([], gs)
  | count + 1, p :: a :: b :: gs => do
    let high ← Text.hexDigit? a.char
    let low ← Text.hexDigit? b.char
    if p.char == '%' then
      let (bytes, rest) ← readBytes count gs
      some (UInt8.ofNat (high.val * 16 + low.val) :: bytes, rest)
    else none
  | _ + 1, _ => none

/-- As many bytes as the first one announces. Those behind the first have the form of continuation
bytes, but need not make up a character. -/
def readPercent (gs : List Glyph) : Option (List UInt8 × List Glyph) := do
  let (lead, _) ← readBytes 1 gs
  let width ← utf8Width? (lead.headD 0)
  let (bytes, rest) ← readBytes width gs
  if (bytes.drop 1).all fun b => b / 0x40 = 2 then some (bytes, rest) else none

/-- The bytes of the characters of a tag, latest first. -/
def gatherTag (verbatim : Bool) : (fuel : Nat) → List UInt8 → List Glyph →
    Option (List UInt8 × List Glyph)
  | 0, acc, gs => some (acc, gs)
  | _ + 1, acc, [] => some (acc, [])
  | fuel + 1, acc, g :: gs =>
    if g.char == '%' then do
      let (bytes, rest) ← readPercent (g :: gs)
      gatherTag verbatim fuel (bytes.reverse ++ acc) rest
    else if isTagChar verbatim g.char then
      gatherTag verbatim fuel (asciiBytes [g.char] ++ acc) gs
    else some (acc, g :: gs)

/-- Reads the characters of a tag behind those of `lead`, whose mark does not belong to the result.
There have to be some, unless there is a lead. -/
def readTagBytes (verbatim : Bool) (lead : List Char) (gs : List Glyph) :
    Option (List UInt8 × List Glyph) := do
  let (acc, rest) ← gatherTag verbatim (gs.length + 1) [] gs
  if acc.isEmpty && lead.isEmpty then none
  else some ((asciiBytes (lead.drop 1) ++ acc.reverse).takeWhile (· ≠ 0), rest)

end Yaml
end ListQuery
