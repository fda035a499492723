import ListQuery.Yaml.Block
import ListQuery.Yaml.Flow
import ListQuery.Yaml.Token

/-!
# Cutting a document into tokens

A key is recognised only by the colon behind it. The lexer therefore notes where a key may begin
and puts the marks for a key and for the map around it in front of that token later on.

* `Lexer` — the text ahead, the tokens so far and the blocks and brackets that are open.
* `Lexer.step` — reads the next token.
* `Token.ofText?` — the tokens of a text.
-/

set_option autoImplicit false
namespace ListQuery
namespace Yaml

/-- A token with the marks that were put in front of it. -/
structure Slot where
  marks : List Token := []
  token : Token

/-- A place where a key may begin. -/
structure KeyPlace where
  /-- The number of slots in front of it. -/
  slot : Nat
  glyph : Glyph
  /-- Whether nothing but a key can stand there. -/
  required : Bool

/-- A document that is partly cut into tokens. -/
structure Lexer where
  rest : List Glyph
  slots : Array Slot := #[]
  /-- Where a key may begin: in the innermost brackets first, outside all brackets last. -/
  places : List (Option KeyPlace) := [none]
  /-- The columns of the open blocks, innermost first. -/
  blocks : List Nat := []
  /-- Whether a key may begin at the next token. -/
  keyAllowed : Bool := true

namespace Lexer

/-- Whether the lexer is inside brackets. -/
def inFlow (s : Lexer) : Bool :=
  s.places.length > 1

/-- The column of the innermost block, -1 outside all blocks. -/
def indent (s : Lexer) : Int :=
  match s.blocks with
  | [] => -1
  | column :: _ => column

/-- Appends a token. -/
def push (s : Lexer) (token : Token) : Lexer :=
  { s with slots := s.slots.push { token := token } }

/-- Appends a token and goes on behind it. -/
def emit (s : Lexer) (token : Token) (rest : List Glyph) : Lexer :=
  { s.push token with rest := rest }

/-- Puts marks in front of a slot. -/
def mark (s : Lexer) (slot : Nat) (marks : List Token) : Lexer :=
  { s with slots := s.slots.modify slot fun x => { x with marks := marks ++ x.marks } }

/-! ## Blanks and blocks -/

/-- Passes blanks, comments and a byte order mark at the beginning of a line. Outside brackets a new
line allows a key; where a key is allowed outside brackets, tabs are no blanks. -/
def passBlanks (flow : Bool) : (comment keyAllowed : Bool) → List Glyph → Bool × List Glyph
  | _, keyAllowed, [] => (keyAllowed, [])
  | comment, keyAllowed, g :: gs =>
    if isBreak g.char then passBlanks flow false (keyAllowed || !flow) gs
    else if comment then passBlanks flow true keyAllowed gs
    else if (g.column == 0 && isMark g.char) || g.char == ' ' ||
        (g.char == '\t' && (flow || !keyAllowed)) then
      passBlanks flow false keyAllowed gs
    else if g.char == '#' then passBlanks flow true keyAllowed gs
    else (keyAllowed, g :: gs)

/-- Ends the blocks that begin to the right of a column. -/
def closeBlocks (s : Lexer) (column : Int) : Lexer :=
  let isInside (c : Nat) : Bool := column < (c : Int)
  let closed := s.blocks.takeWhile isInside
  { closed.foldl (fun s _ => s.push .blockEnd) s with blocks := s.blocks.dropWhile isInside }

/-- Ends blocks as `closeBlocks`, but not in brackets. -/
def unroll (s : Lexer) (column : Int) : Lexer :=
  if s.inFlow then s else s.closeBlocks column

/-- Whether a block would begin at a column. -/
def begins (s : Lexer) (column : Nat) : Bool :=
  !s.inFlow && s.indent < (column : Int)

/-- Begins a block at the next token, if one begins at its column. -/
def beginBlock (s : Lexer) (column : Nat) (token : Token) : Lexer :=
  if s.begins column then { s.push token with blocks := column :: s.blocks } else s

/-! ## Places of keys -/

/-- Gives up a place where a key might have begun; not where a key is required. -/
def dropPlace (s : Lexer) : Option Lexer :=
  match s.places with
  | some p :: outer => if p.required then none else some { s with places := none :: outer }
  | _ => some s

/-- Notes that a key may begin at the next token, if one is allowed there. -/
def savePlace (s : Lexer) (g : Glyph) : Option Lexer :=
  if s.keyAllowed then do
    let required := !s.inFlow && s.indent == (g.column : Int)
    let s ← s.dropPlace
    some { s with places := some ⟨s.slots.size, g, required⟩ :: s.places.drop 1 }
  else some s

/-- The greatest number of bytes between the beginning of a key and its colon. -/
def maxKeyBytes : Nat := 1024

/-- Whether the token at a place can no longer be a key: a key is on one line with its colon and not
too long. -/
def isStale (g : Glyph) (p : KeyPlace) : Bool :=
  p.glyph.line < g.line || p.glyph.offset + maxKeyBytes < g.offset

/-- Gives up all stale places. -/
def dropStale (s : Lexer) (g : Glyph) : Option Lexer :=
  if s.places.any fun p => p.any fun p => isStale g p && p.required then none
  else some { s with places := s.places.map fun p => p.filter fun p => !isStale g p }

/-! ## Marks -/

/-- Ends all blocks and forgets the place of a key, as at the end of a document. -/
def leaveAll (s : Lexer) : Option Lexer := do
  let s ← (s.unroll (-1)).dropPlace
  some { s with keyAllowed := false }

/-- An opening bracket. -/
def openFlow (s : Lexer) (g : Glyph) (rest : List Glyph) (token : Token) : Option Lexer := do
  let s ← s.savePlace g
  some { s.emit token rest with places := none :: s.places, keyAllowed := true }

/-- A closing bracket. -/
def closeFlow (s : Lexer) (rest : List Glyph) (token : Token) : Option Lexer := do
  let s ← s.dropPlace
  let places := if s.inFlow then s.places.drop 1 else s.places
  some { s.emit token rest with places := places, keyAllowed := false }

/-- A comma in brackets. -/
def readComma (s : Lexer) (rest : List Glyph) : Option Lexer := do
  let s ← s.dropPlace
  some { s.emit .comma rest with keyAllowed := true }

/-- A hyphen in front of an element. -/
def readEntry (s : Lexer) (g : Glyph) (rest : List Glyph) : Option Lexer :=
  if !s.inFlow && !s.keyAllowed then none
  else do
    let s ← (s.beginBlock g.column .blockSequence).dropPlace
    some { s.emit .entry rest with keyAllowed := true }

/-- A question mark in front of a key. -/
def readKey (s : Lexer) (g : Glyph) (rest : List Glyph) : Option Lexer :=
  if !s.inFlow && !s.keyAllowed then none
  else do
    let s ← (s.beginBlock g.column .blockMapping).dropPlace
    some { s.emit .key rest with keyAllowed := !s.inFlow }

/-- A colon. The token noted as a possible key becomes one; without such a token the key before it
is marked or empty. -/
def readColon (s : Lexer) (g : Glyph) (rest : List Glyph) : Option Lexer :=
  match s.places with
  | some p :: outer =>
    let s := { s with places := none :: outer, keyAllowed := false }
    let column := p.glyph.column
    if s.begins column then
      let s := { s.mark p.slot [.blockMapping, .key] with blocks := column :: s.blocks }
      some (s.emit .value rest)
    else some ((s.mark p.slot [.key]).emit .value rest)
  | _ =>
    if !s.inFlow && !s.keyAllowed then none
    else
      let s := s.beginBlock g.column .blockMapping
      some { s.emit .value rest with keyAllowed := !s.inFlow }

/-! ## Words -/

/-- A token that may be or belong to a key. -/
def readWord (s : Lexer) (g : Glyph) (token : Option (Token × List Glyph)) : Option Lexer := do
  let s ← s.savePlace g
  let (token, rest) ← token
  some { s.emit token rest with keyAllowed := false }

/-- A scalar of several lines, which is never a key. -/
def readBlockWord (s : Lexer) (literal : Bool) (rest : List Glyph) : Option Lexer := do
  let s ← s.dropPlace
  let (text, rest) ← readBlockScalar literal s.indent rest
  some { s.emit (.scalar text false) rest with keyAllowed := true }

/-- A scalar without quotes. When it ends behind a line end, a key may follow. -/
def readPlainWord (s : Lexer) (g : Glyph) (gs : List Glyph) : Option Lexer := do
  let s ← s.savePlace g
  let p ← readPlain s.inFlow (s.indent + 1) {} [] gs
  some { s.emit (.scalar p.value true) p.rest with keyAllowed := p.broken }

/-- A directive with the rest of its line. -/
def readDirectiveLine (s : Lexer) (rest : List Glyph) : Option Lexer := do
  let s ← s.leaveAll
  let (token, rest) ← readDirective rest
  let rest ← passLineEnd? rest
  some (s.emit token rest)

/-- The characters that no scalar without quotes begins with, at least before a blank. -/
def isIndicator (c : Char) : Bool :=
  "-?:,[]\x7b\x7d#&*!|>'\"%@\x60".toList.contains c

/-- Whether a scalar without quotes begins here. -/
def beginsPlain (s : Lexer) (g : Glyph) (rest : List Glyph) : Bool :=
  !(isIndicator g.char || isSpace g.char) ||
    (g.char == '-' && !(Glyph.charAt? 0 rest).any isSpace) ||
    (!s.inFlow && (g.char == '?' || g.char == ':') && !Glyph.blankAt 0 rest)

/-- Reads the token that begins with a glyph. -/
def readToken (s : Lexer) (g : Glyph) (rest : List Glyph) : Option Lexer :=
  let c := g.char
  let standsAlone := Glyph.blankAt 0 rest
  if g.column = 0 && c == '%' then s.readDirectiveLine rest
  else if Glyph.atDocumentMark (g :: rest) then do
    let s ← s.leaveAll
    some (s.emit (if c == '-' then .documentStart else .documentEnd) (rest.drop 2))
  else if c == '[' then s.openFlow g rest .flowSequence
  else if c == '\x7b' then s.openFlow g rest .flowMapping
  else if c == ']' then s.closeFlow rest .flowSequenceEnd
  else if c == '\x7d' then s.closeFlow rest .flowMappingEnd
  else if c == ',' then s.readComma rest
  else if c == '-' && standsAlone then s.readEntry g rest
  else if c == '?' && (s.inFlow || standsAlone) then s.readKey g rest
  else if c == ':' && (s.inFlow || standsAlone) then s.readColon g rest
  else if c == '*' then s.readWord g ((readName rest).map fun p => (.alias p.1, p.2))
  else if c == '&' then s.readWord g ((readName rest).map fun p => (.anchor p.1, p.2))
  else if c == '!' then s.readWord g (readTag s.inFlow (g :: rest))
  else if c == '|' && !s.inFlow then s.readBlockWord true rest
  else if c == '>' && !s.inFlow then s.readBlockWord false rest
  else if c == '\'' then
    s.readWord g ((readSingle false {} [] rest).map fun p => (.scalar p.1 false, p.2))
  else if c == '"' then
    s.readWord g ((readDouble .none {} [] rest).map fun p => (.scalar p.1 false, p.2))
  else if s.beginsPlain g rest then s.readPlainWord g (g :: rest)
  else none

/-! ## The whole text -/

/-- Reads the next token, and ends what is open at the end of the text. The second component says
whether tokens may follow. -/
def step (s : Lexer) : Option (Lexer × Bool) :=
  let (keyAllowed, rest) := passBlanks s.inFlow false s.keyAllowed s.rest
  let s := { s with keyAllowed := keyAllowed, rest := rest }
  match rest with
  | [] => s.leaveAll.map fun s => (s, false)
  | g :: gs => do
    let s ← s.dropStale g
    let s ← (s.unroll g.column).readToken g gs
    some (s, true)

/-- Reads all tokens; every step takes at least one glyph. -/
def run : (fuel : Nat) → Lexer → Option Lexer
  | 0, _ => none
  | fuel + 1, s =>
    match s.step with
    | none => none
    | some (s, true) => run fuel s
    | some (s, false) => some s

/-- The tokens with the marks in front of them. -/
def tokens (s : Lexer) : List Token :=
  s.slots.toList.flatMap fun x => x.marks ++ [x.token]

end Lexer

/-- The tokens of a text, if it can be cut into tokens. -/
def Token.ofText? (s : String) : Option (List Token) := do
  let glyphs ← Glyph.ofText? s
  let lexer ← Lexer.run (glyphs.length + 1) { rest := glyphs }
  some lexer.tokens

end Yaml
end ListQuery
