import ListQuery.Yaml.Glyph

/-!
# Block scalars

A block scalar is introduced by `|`, which keeps its line ends, or by `>`, which folds them, and
consists of the lines behind that are indented far enough.

* `BlockHeader.read?` — the marks behind the introducing character.
* `readBlock` — the value of a block scalar and the glyphs behind it.
-/

set_option autoImplicit false
namespace ListQuery
namespace Yaml

/-- What becomes of the line ends at the end of a block scalar. -/
inductive Chomping where
  | strip
  | clip
  | keep
  deriving DecidableEq

/-- How a block scalar is to be read. -/
structure BlockHeader where
  chomping : Chomping
  /-- The indentation relative to the surrounding block, if it is given. -/
  indentation : Option Nat

/-- The chomping that a mark asks for. -/
def chompingMark? (c : Char) : Option Chomping :=
  if c = '+' then some .keep else if c = '-' then some .strip else none

/-- Passes spaces, a comment and the line end at the end of a line; anything else is malformed. -/
def passLineEnd? (gs : List Glyph) : Option (List Glyph) :=
  match gs.dropWhile fun g => isSpace g.char with
  | [] => some []
  | g :: rest =>
    if g.char == '#' then
      match rest.dropWhile fun g => !isBreak g.char with
      | [] => some []
      | _ :: more => some more
    else if isBreak g.char then some rest
    else none

namespace BlockHeader

/-- The indentation that a digit asks for; it cannot be zero. -/
def indentation? (gs : List Glyph) : Option (Option Nat × List Glyph) :=
  match gs with
  | g :: rest =>
    if Text.isDigit g.char then
      if g.char == '0' then none else some (some (Text.digitValue g.char), rest)
    else some (none, gs)
  | [] => some (none, gs)

/-- Reads the marks for chomping and indentation, in either order, and the end of the line. -/
def read? (gs : List Glyph) : Option (BlockHeader × List Glyph) :=
  match (Glyph.charAt? 0 gs).bind chompingMark? with
  | some chomping => do
    let (indentation, rest) ← indentation? (gs.drop 1)
    let rest ← passLineEnd? rest
    some (⟨chomping, indentation⟩, rest)
  | none => do
    let (indentation, rest) ← indentation? gs
    let mark := if indentation.isSome then (Glyph.charAt? 0 rest).bind chompingMark? else none
    let rest ← passLineEnd? (if mark.isSome then rest.drop 1 else rest)
    some (⟨mark.getD .clip, indentation⟩, rest)

end BlockHeader

/-- The lines of a block scalar read so far; lists hold the latest character first. -/
structure BlockState where
  value : List Char := []
  /-- The line end of the last line. -/
  lineEnd : Option Char := none
  /-- The line ends of the empty lines behind it. -/
  emptyLines : List Char := []
  /-- Whether the last line began with a space. -/
  spaced : Bool := false
  /-- The indentation, or 0 where it is not known yet. -/
  indent : Nat
  /-- The greatest column seen before the indentation is known. -/
  widest : Nat := 0
  /-- Whether the reader is inside a line. -/
  inLine : Bool := false

namespace BlockState

/-- Begins a line with a character. In folded text a line end between two lines that do not begin
with a space is a space, or nothing where empty lines follow it. -/
def beginLine (literal : Bool) (s : BlockState) (c : Char) : BlockState :=
  let folds := !literal && s.lineEnd == some '\n' && !s.spaced && !isSpace c
  let joined :=
    if folds then if s.emptyLines.isEmpty then ' ' :: s.value else s.value
    else s.lineEnd.toList ++ s.value
  { s with
    value := c :: (s.emptyLines ++ joined), lineEnd := none, emptyLines := [], spaced := isSpace c,
    inLine := true }

/-- The value once the last line is read. -/
def finish (chomping : Chomping) (s : BlockState) : String :=
  let value := if chomping = .strip then s.value else s.lineEnd.toList ++ s.value
  let value := if chomping = .keep then s.emptyLines ++ value else value
  String.ofList value.reverse

end BlockState

/-- Reads the lines of a block scalar inside a block whose indentation is `outer`. -/
def readBlock (literal : Bool) (chomping : Chomping) (outer : Int) :
    BlockState → List Glyph → Option (String × List Glyph)
  | s, [] => some (s.finish chomping, [])
  | s, g :: gs =>
    if s.inLine then
      if isBreak g.char then
        readBlock literal chomping outer { s with lineEnd := some g.char, inLine := false } gs
      else readBlock literal chomping outer { s with value := g.char :: s.value } gs
    else
      let indenting := s.indent = 0 || g.column < s.indent
      let widest := max s.widest g.column
      if indenting && g.char == ' ' then readBlock literal chomping outer s gs
      else if indenting && g.char == '\t' then none
      else if isBreak g.char then
        readBlock literal chomping outer
          { s with emptyLines := g.char :: s.emptyLines, widest := widest } gs
      else
        let indent := if s.indent = 0 then max (max widest (outer + 1).toNat) 1 else s.indent
        if g.column = indent then
          readBlock literal chomping outer
            ({ s with indent := indent }.beginLine literal g.char) gs
        else some (s.finish chomping, g :: gs)

/-- Reads a block scalar behind its introducing character. -/
def readBlockScalar (literal : Bool) (outer : Int) (gs : List Glyph) :
    Option (String × List Glyph) := do
  let (header, rest) ← BlockHeader.read? gs
  let indent := match header.indentation with
    | some n => if 0 ≤ outer then (outer + n).toNat else n
    | none => 0
  readBlock literal header.chomping outer { indent := indent } rest

end Yaml
end ListQuery
