import ListQuery.Yaml.Gap

/-!
# Plain and quoted scalars

Each reader takes the glyphs from the scalar on and returns its value and the glyphs behind it, or
`none` where the scalar is malformed.

* `readPlain` — a scalar without quotes.
* `readSingle`, `readDouble` — scalars between single and between double quotes.
-/

set_option autoImplicit false
namespace ListQuery
namespace Yaml

/-- A scalar without quotes, once read. -/
structure Plain where
  value : String
  rest : List Glyph
  /-- Whether a line end was passed behind the last word. -/
  broken : Bool

/-- Whether a character separates the parts of a list or map in brackets. -/
def isFlowMark (c : Char) : Bool :=
  c == ',' || c == '[' || c == ']' || c == '\x7b' || c == '\x7d'

/-- Reads a scalar without quotes. `flow` says whether it stands in brackets, and outside brackets
its further lines are indented by `indent` columns at least. It ends at a colon before a space, at
a comment, at a mark of the brackets and between documents. -/
def readPlain (flow : Bool) (indent : Int) : Gap → List Char → List Glyph → Option Plain
  | gap, value, [] => some ⟨String.ofList value.reverse, [], gap.broken⟩
  | gap, value, g :: gs =>
    let finished : Option Plain := some ⟨String.ofList value.reverse, g :: gs, gap.broken⟩
    if isSpace g.char then
      if gap.broken && g.char == '\t' && (g.column : Int) < indent then none
      else readPlain flow indent (gap.addSpace g.char) value gs
    else if isBreak g.char then readPlain flow indent (gap.addBreak g.char) value gs
    else if !gap.isEmpty && ((!flow && (g.column : Int) < indent) || g.char == '#') then finished
    else if Glyph.atDocumentMark (g :: gs) then finished
    else if flow && g.char == ':' &&
        ((Glyph.charAt? 0 gs).any fun c => isFlowMark c || c == '?') then none
    else if (g.char == ':' && Glyph.blankAt 0 gs) || (flow && isFlowMark g.char) then finished
    else readPlain flow indent {} (g.char :: gap.close value) gs

/-- Reads a scalar in single quotes behind the opening one. A quote inside it is written twice;
`quote` says whether the last character was a quote. -/
def readSingle : (quote : Bool) → Gap → List Char → List Glyph → Option (String × List Glyph)
  | false, _, _, [] => none
  | true, _, value, [] => some (String.ofList value.reverse, [])
  | true, _, value, g :: gs =>
    if g.char == '\'' then readSingle false {} ('\'' :: value) gs
    else some (String.ofList value.reverse, g :: gs)
  | false, gap, value, g :: gs =>
    if isSpace g.char then readSingle false (gap.addSpace g.char) value gs
    else if isBreak g.char then readSingle false (gap.addBreak g.char) value gs
    else if Glyph.atDocumentMark (g :: gs) then none
    else if g.char == '\'' then readSingle true {} (gap.close value) gs
    else readSingle false {} (g.char :: gap.close value) gs

/-- Where a reader stands in an escape. -/
inductive Escape where
  | none
  /-- Behind a backslash. -/
  | begun
  /-- Inside a character code, with so many digits to come. -/
  | code (digits value : Nat)

/-- What a backslash and a character stand for: a character, or the beginning of a code. -/
def escapeMeaning? (c : Char) : Option (Char ⊕ Nat) :=
  match c with
  | '0' => some (.inl (Char.ofNat 0))
  | 'a' => some (.inl (Char.ofNat 7))
  | 'b' => some (.inl (Char.ofNat 8))
  | 't' | '\t' => some (.inl '\t')
  | 'n' => some (.inl '\n')
  | 'v' => some (.inl (Char.ofNat 0xB))
  | 'f' => some (.inl (Char.ofNat 0xC))
  | 'r' => some (.inl '\r')
  | 'e' => some (.inl (Char.ofNat 0x1B))
  | ' ' => some (.inl ' ')
  | '"' => some (.inl '"')
  | '/' => some (.inl '/')
  | '\\' => some (.inl '\\')
  | 'N' => some (.inl (Char.ofNat 0x85))
  | '_' => some (.inl (Char.ofNat 0xA0))
  | 'L' => some (.inl (Char.ofNat 0x2028))
  | 'P' => some (.inl (Char.ofNat 0x2029))
  | 'x' => some (.inr 2)
  | 'u' => some (.inr 4)
  | 'U' => some (.inr 8)
  | _ => none

/-- The character with a code, if there is one. -/
def charOfCode? (n : Nat) : Option Char :=
  if n < 0xD800 || (0xDFFF < n && n ≤ 0x10FFFF) then some (Char.ofNat n) else none

/-- Reads a scalar in double quotes behind the opening one. -/
def readDouble : Escape → Gap → List Char → List Glyph → Option (String × List Glyph)
  | _, _, _, [] => none
  | .begun, _, value, g :: gs =>
    if isBreak g.char then readDouble .none { broken := true } value gs
    else
      match escapeMeaning? g.char with
      | some (.inl c) => readDouble .none {} (c :: value) gs
      | some (.inr digits) => readDouble (.code digits 0) {} value gs
      | none => none
  | .code digits n, _, value, g :: gs =>
    match Text.hexDigit? g.char with
    | none => none
    | some d =>
      let code := n * 16 + d.val
      if digits ≤ 1 then
        match charOfCode? code with
        | some c => readDouble .none {} (c :: value) gs
        | none => none
      else readDouble (.code (digits - 1) code) {} value gs
  | .none, gap, value, g :: gs =>
    if isSpace g.char then readDouble .none (gap.addSpace g.char) value gs
    else if isBreak g.char then readDouble .none (gap.addBreak g.char) value gs
    else if Glyph.atDocumentMark (g :: gs) then none
    else if g.char == '"' then some (String.ofList (gap.close value).reverse, gs)
    else if g.char == '\\' then readDouble .begun {} (gap.close value) gs
    else readDouble .none {} (g.char :: gap.close value) gs

end Yaml
end ListQuery
