import ListQuery.Datum
import ListQuery.Number.Integer
import ListQuery.Text.Blank

/-!
# Values of environment variables

A variable holds a truth value, a number, a text in double quotes, a character in single quotes, a
list in brackets, or a map in braces with an equals sign behind every key. Anything else is a text
as it stands, and so is what looks like one of these and is not.

* `Literal.parse` — the value of a variable.
-/

set_option autoImplicit false
namespace ListQuery
namespace Literal

/-- The blanks of ASCII. -/
def isBlank (c : Char) : Bool :=
  c == ' ' || c == '\t' || c == '\n' || c == '\r' || c == '\x0c'

/-- Passes blanks. -/
def pass (cs : List Char) : List Char :=
  cs.dropWhile isBlank

/-- The characters that end a value without quotes. -/
def isSeparator (c : Char) : Bool :=
  c == ',' || c == '\x7b' || c == '\x7d' || c == '[' || c == ']'

/-- The characters of keys without quotes. -/
def isKeyChar (c : Char) : Bool :=
  c.isAlphanum || c == '_' || c == '-'

/-- A value without quotes. A number with a point is a double; a whole number has 64 bits. -/
def bare (s : String) : Datum :=
  match (if s.toList.contains '.' then Binary64.parse? s else none) with
  | some x => .number (.double x)
  | none =>
    match integer? s.toList with
    | some n =>
      if s.toList.head? = some '-' then
        if -(twoTo 63 : Int) ≤ n then .number (.signed n) else .text s
      else if n < (twoTo 64 : Int) then .number (.natural n.toNat) else .text s
    | none => .text s

/-! ## Texts -/

/-- Splits at the first double quote that no backslash stands before. -/
def untilQuote : (escaped : Bool) → List Char → Option (List Char × List Char)
  | _, [] => none
  | true, c :: cs => (untilQuote false cs).map fun p => (c :: p.1, p.2)
  | false, c :: cs =>
    if c = '"' then some ([], cs)
    else (untilQuote (c == '\\') cs).map fun p => (c :: p.1, p.2)

/-- A character code of so many hexadecimal digits. -/
def code? (digits : Nat) (cs : List Char) : Option (Char × List Char) := do
  let ds ← (cs.take digits).mapM Text.hexDigit?
  let n := ds.foldl (fun n d => n * 16 + d.val) 0
  if ds.length = digits && (n < 0xD800 || (0xDFFF < n && n ≤ 0x10FFFF)) then
    some (Char.ofNat n, cs.drop digits)
  else none

/-- The character that a backslash and a letter stand for. -/
def escapeMeaning? (c : Char) : Option Char :=
  match c with
  | '"' => some '"'
  | '\\' => some '\\'
  | 'b' => some (Char.ofNat 8)
  | 'f' => some (Char.ofNat 0xC)
  | 'n' => some '\n'
  | 'r' => some '\r'
  | 't' => some '\t'
  | _ => none

/-- Whether a character may stand in a text as it is. -/
def isPlain (c : Char) : Bool :=
  c == '\t' || (0x20 ≤ c.toNat && c.toNat ≠ 0x7F)

/-- Replaces escapes; `none` at an unknown one and at control characters. -/
def unescape : (fuel : Nat) → List Char → Option (List Char)
  | 0, _ => none
  | _ + 1, [] => some []
  | fuel + 1, '\\' :: cs =>
    match cs with
    | [] => none
    | c :: rest =>
      if c = 'u' || c = 'U' then do
        let (d, rest) ← code? (if c = 'u' then 4 else 8) rest
        (unescape fuel rest).map (d :: ·)
      else do
        let d ← escapeMeaning? c
        (unescape fuel rest).map (d :: ·)
  | fuel + 1, c :: cs => if isPlain c then (unescape fuel cs).map (c :: ·) else none

/-- The characters that fit in so many bytes of UTF-8. -/
def takeBytes : Nat → List Char → List Char
  | _, [] => []
  | n, c :: cs => if c.utf8Size ≤ n then c :: takeBytes (n - c.utf8Size) cs else []

/-- The value of what stands between double quotes. Of the characters in front of the first escape
only as many bytes are kept as there are characters, so that all of them are if they are ASCII. -/
def textValue? (inner : List Char) : Option (List Char) := do
  let value ← unescape (inner.length + 1) inner
  let front := (inner.takeWhile (· ≠ '\\')).length
  if front = inner.length then some value
  else some (takeBytes front (value.take front) ++ value.drop front)

/-- A text in double quotes, behind the first one. -/
def quoted? (cs : List Char) : Option (String × List Char) := do
  let (inner, rest) ← untilQuote false cs
  let value ← textValue? inner
  some (String.ofList value, rest)

/-! ## Values -/

/-- A key of a map. -/
def key? (cs : List Char) : Option (String × List Char) :=
  match cs with
  | '"' :: rest => quoted? rest
  | _ =>
    let name := cs.takeWhile isKeyChar
    if name.isEmpty then none else some (String.ofList name, cs.dropWhile isKeyChar)

mutual

/-- Reads a value and the blanks around it. -/
def value? : (fuel : Nat) → List Char → Option (Datum × List Char)
  | 0, _ => none
  | fuel + 1, cs =>
    let cs := pass cs
    let read : Option (Datum × List Char) :=
      match Text.afterLead? "true".toList cs, Text.afterLead? "false".toList cs with
      | some rest, _ => some (.bool true, rest)
      | none, some rest => some (.bool false, rest)
      | none, none =>
        match cs with
        | '\x7b' :: rest => pairs? fuel [] rest
        | '[' :: rest => items? fuel [] rest
        | '"' :: rest => (quoted? rest).map fun p => (.text p.1, p.2)
        | '\'' :: c :: '\'' :: rest => some (.char c, rest)
        | '\'' :: _ => none
        | _ =>
          some (bare (Text.trim (String.ofList (cs.takeWhile (!isSeparator ·)))),
            cs.dropWhile (!isSeparator ·))
    read.map fun p => (p.1, pass p.2)

/-- Reads the elements of a list; a comma may stand behind the last one. -/
def items? : (fuel : Nat) → List Datum → List Char → Option (Datum × List Char)
  | 0, _, _ => none
  | fuel + 1, items, cs =>
    match cs with
    | ']' :: rest => some (.list items.reverse, rest)
    | _ => do
      let (item, rest) ← value? fuel cs
      match rest with
      | ',' :: more => items? fuel (item :: items) more
      | ']' :: more => some (.list (item :: items).reverse, more)
      | _ => none

/-- Reads the entries of a map; a comma may stand behind the last one. -/
def pairs? : (fuel : Nat) → List (String × Datum) → List Char → Option (Datum × List Char)
  | 0, _, _ => none
  | fuel + 1, entries, cs =>
    match cs with
    | '\x7d' :: rest => some (Datum.ofEntries entries.reverse, rest)
    | _ => do
      let (key, rest) ← key? (pass cs)
      let rest ← Text.afterLead? ['='] (pass rest)
      let (value, rest) ← value? fuel rest
      match rest with
      | ',' :: more => pairs? fuel ((key, value) :: entries) more
      | '\x7d' :: more => some (Datum.ofEntries ((key, value) :: entries).reverse, more)
      | _ => none

end

/-- The value of a variable. -/
def parse (s : String) : Datum :=
  let cs := s.toList
  match value? (2 * cs.length + 4) cs with
  | some (d, []) => d
  | _ => .text s

end Literal
end ListQuery
