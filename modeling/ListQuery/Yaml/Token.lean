import ListQuery.Yaml.Tag

/-!
# Tokens of YAML

* `Token` — the words, marks and block boundaries that a document consists of.
* `readName`, `readTag`, `readDirective` — the tokens with a name.
-/

set_option autoImplicit false
namespace ListQuery
namespace Yaml

/-- A word, a mark or a boundary. -/
inductive Token where
  | version (major minor : Nat)
  | tagHandle (handle : String) (expansion : List UInt8)
  | documentStart
  | documentEnd
  | blockSequence
  | blockMapping
  | blockEnd
  | flowSequence
  | flowSequenceEnd
  | flowMapping
  | flowMappingEnd
  /-- A hyphen before an element of a block. -/
  | entry
  /-- A comma in brackets. -/
  | comma
  | key
  | value
  | alias (name : String)
  | anchor (name : String)
  | tag (handle : String) (suffix : List UInt8)
  | scalar (text : String) (plain : Bool)
  deriving DecidableEq, Repr

/-- Reads the name of an anchor or an alias, which a mark or a blank has to follow. -/
def readName (gs : List Glyph) : Option (String × List Glyph) :=
  let name := gs.takeWhile fun g => isWordChar g.char
  let rest := gs.dropWhile fun g => isWordChar g.char
  let closed := Glyph.blankAt 0 rest ||
    (Glyph.charAt? 0 rest).any fun c => "?:,]\x7d%@\x60".toList.contains c
  if name.isEmpty || !closed then none else some (Glyph.text name, rest)

/-! ## Tags -/

/-- Reads a handle: an exclamation mark, or a word between two of them. The second mark may be
missing; then the word belongs to the tag itself. -/
def readHandle (gs : List Glyph) : Option (String × List Glyph) :=
  match gs with
  | g :: rest =>
    if g.char == '!' then
      let word := (rest.takeWhile fun g => isWordChar g.char).map Glyph.char
      let rest := rest.dropWhile fun g => isWordChar g.char
      if Glyph.hasAt '!' 0 rest then some (String.ofList ('!' :: word ++ ['!']), rest.drop 1)
      else some (String.ofList ('!' :: word), rest)
    else none
  | [] => none

/-- Whether a handle has a mark at both ends. -/
def isFullHandle (handle : String) : Bool :=
  handle.length ≥ 2 && handle.toList.getLast? == some '!'

/-- Reads a tag: one in angle brackets as it is, and any other as a handle and a suffix. -/
def readTag (flow : Bool) (gs : List Glyph) : Option (Token × List Glyph) := do
  let (token, rest) ←
    if Glyph.hasAt '<' 1 gs then do
      let (suffix, rest) ← readTagBytes true [] (gs.drop 2)
      if Glyph.hasAt '>' 0 rest then some (Token.tag "" suffix, rest.drop 1) else none
    else do
      let (handle, rest) ← readHandle gs
      if isFullHandle handle then
        let (suffix, rest) ← readTagBytes false [] rest
        some (Token.tag handle suffix, rest)
      else
        let (suffix, rest) ← readTagBytes false handle.toList rest
        some (if suffix.isEmpty then Token.tag "" Tag.mark else Token.tag "!" suffix, rest)
  if Glyph.blankAt 0 rest || (flow && Glyph.hasAt ',' 0 rest) then some (token, rest) else none

/-! ## Directives -/

/-- Reads a number of at most nine digits. -/
def readVersionNumber (gs : List Glyph) : Option (Nat × List Glyph) :=
  let digits := (gs.takeWhile fun g => Text.isDigit g.char).map Glyph.char
  if digits.isEmpty || digits.length > 9 then none
  else some (Text.natOfDigits digits, gs.drop digits.length)

/-- Passes spaces and tabs. -/
def passSpaces (gs : List Glyph) : List Glyph :=
  gs.dropWhile fun g => isSpace g.char

/-- Reads a directive behind its percent sign, up to the end of its value. -/
def readDirective (gs : List Glyph) : Option (Token × List Glyph) :=
  let name := Glyph.text (gs.takeWhile fun g => isWordChar g.char)
  let rest := gs.dropWhile fun g => isWordChar g.char
  if name = "YAML" && Glyph.blankAt 0 rest then do
    let (major, rest) ← readVersionNumber (passSpaces rest)
    let (minor, rest) ← if Glyph.hasAt '.' 0 rest then readVersionNumber (rest.drop 1) else none
    some (.version major minor, rest)
  else if name = "TAG" && Glyph.blankAt 0 rest then do
    let (handle, rest) ← readHandle (passSpaces rest)
    let spaced := (Glyph.charAt? 0 rest).any isSpace
    if (handle = "!" || isFullHandle handle) && spaced then
      let (expansion, rest) ← readTagBytes true [] (passSpaces rest)
      if Glyph.blankAt 0 rest then some (.tagHandle handle expansion, rest) else none
    else none
  else none

end Yaml
end ListQuery
