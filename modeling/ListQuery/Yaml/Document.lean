import ListQuery.Datum
import ListQuery.Number.Integer
import ListQuery.Text.Split
import ListQuery.Yaml.Node

/-!
# The data of a document

* `scalarDatum` — what a scalar without quotes stands for.
* `withTag` — a value under the name of its tag; `mapDatum` — a map with special keys.
* `Node.datum?` — a node as data.
* `documentEntries?` — the entries of a document whose root is a mapping.
-/

set_option autoImplicit false
namespace ListQuery
namespace Yaml

/-! ## Scalars -/

/-- The words for nothing. -/
def isNullWord (s : String) : Bool :=
  ["null", "Null", "NULL", "~"].contains s

/-- The words for truth values. -/
def boolWord? (s : String) : Option Bool :=
  if ["true", "True", "TRUE"].contains s then some true
  else if ["false", "False", "FALSE"].contains s then some false
  else none

/-- The value of a digit of a base up to 16. -/
def digitIn? (base : Nat) (c : Char) : Option Nat :=
  ((Text.hexDigit? c).map Fin.val).filter (· < base)

/-- The number that digits of a base write. -/
def digitsIn? (base : Nat) (cs : List Char) : Option Nat :=
  if cs.isEmpty then none
  else cs.foldlM (fun n c => (digitIn? base c).map (n * base + ·)) 0

/-- The notations of numbers: how they begin, and their base. -/
def notations : List (String × Nat) :=
  [("0x", 16), ("0o", 8), ("0b", 2)]

/-- A number in one of the notations with a mark in front. -/
def marked? (cs : List Char) : Option Nat :=
  notations.findSome? fun p => (Text.afterLead? p.1.toList cs).bind (digitsIn? p.2)

/-- Whether more than one digit begins with a zero; such a row of digits is text. -/
def isPaddedDigits (cs : List Char) : Bool :=
  let digits := match cs with
    | '-' :: more => more
    | '+' :: more => more
    | _ => cs
  digits.length > 1 && digits.head? == some '0' && digits.all Text.isDigit

/-- A number without a minus sign. -/
def unsigned? (cs : List Char) : Option Nat :=
  let unsignedText := match cs with
    | '+' :: more => more
    | _ => cs
  match marked? unsignedText with
  | some n => some n
  | none => if isPaddedDigits cs then none else digitsIn? 10 unsignedText

/-- A number with a minus sign, as its absolute value. -/
def negative? (cs : List Char) : Option Nat :=
  match cs with
  | '-' :: digits =>
    match marked? digits with
    | some n => some n
    | none => if isPaddedDigits cs then none else digitsIn? 10 digits
  | _ => none

/-- A whole number of at most 128 bits. -/
def integer? (cs : List Char) : Option Numeral :=
  match unsigned? cs, negative? cs with
  | some n, _ => if n < twoTo 128 then some (.natural n) else none
  | none, some n => if n ≤ twoTo 127 then some (.signed (-(n : Int))) else none
  | none, none => none

/-- A number with a point or an exponent, or one of the words for infinity and for no number. -/
def double? (s : String) : Option Binary64 :=
  let cs := s.toList
  let unsignedText := match cs with
    | '+' :: more => more
    | _ => cs
  let doubleSign := cs.head? == some '+' &&
    (unsignedText.head? == some '+' || unsignedText.head? == some '-')
  if doubleSign then none
  else if [".inf", ".Inf", ".INF"].contains (String.ofList unsignedText) then
    some (Binary64.infinity false)
  else if ["-.inf", "-.Inf", "-.INF"].contains s then some (Binary64.infinity true)
  else if [".nan", ".NaN", ".NAN"].contains s then some Binary64.nan
  else (Binary64.parse? (String.ofList unsignedText)).filter Binary64.isFinite

/-- What a scalar without quotes stands for: nothing, a truth value, a number, or its text. -/
def scalarDatum (s : String) : Datum :=
  if s = "" || isNullWord s then .null
  else
    match boolWord? s, integer? s.toList with
    | some b, _ => .bool b
    | none, some n => .number n
    | none, none =>
      match (if isPaddedDigits s.toList then none else double? s) with
      | some x => .number (.double x)
      | none => .text s

/-- A scalar as data. A standard tag may demand a certain kind of value, and any other makes a text;
a tag of the document's own does not matter here. -/
def taggedScalar? (tag : Option Tag) (s : String) (plain : Bool) : Option Datum :=
  match tag with
  | none | some (.own _) => some (if plain then scalarDatum s else .text s)
  | some .bool => (boolWord? s).map .bool
  | some .int => (integer? s.toList).map .number
  | some .float => (double? s).map fun x => .number (.double x)
  | some .null => if isNullWord s then some .null else none
  | some .other => some (.text s)

/-- A value with a tag in front of it. A tag of the document's own puts the value under its name, as
a map with one entry; points in the name make further maps inside that one. -/
def withTag (tag : Option Tag) (value : Datum) : Datum :=
  match tag.bind Tag.ownName? with
  | some name => value.nested (Text.pieces '.' name)
  | none => value

/-! ## Maps with special keys -/

/-- The key of a number that identifies a value and says nothing about it. -/
def identityKey : String := "___figment_value_id"

/-- The key whose value stands for the whole map. -/
def contentKey : String := "___figment_value_value"

/-- A map below the root. Its content stands for it, if it has one; of several the last counts. -/
def mapDatum (entries : List (String × Datum)) : Datum :=
  match entries.reverse.lookup contentKey with
  | some content => content
  | none => Datum.ofEntries (entries.filter fun e => e.1 ≠ identityKey)

/-- Whether a value is a whole number of 64 bits, with or without sign. -/
def isIdentity : Datum → Bool
  | .number (.natural n) => n < twoTo 64
  | .number (.signed n) => int64Range.1 ≤ n
  | _ => false

/-! ## Nodes -/

namespace Node

/-- The text of a node that stands as a key. -/
def keyText? : Node → Option String
  | .scalar _ text _ => some text
  | .alias target _ _ => keyText? target
  | _ => none

/-- Whether a node can identify a value: a number without a tag of the document's own. -/
def identifies : Node → Bool
  | .scalar tag text plain =>
    (tag.bind Tag.ownName?).isNone && (taggedScalar? tag text plain).any isIdentity
  | .alias target _ _ => target.identifies
  | _ => false

/-- Whether what stands under an identity key identifies a value. -/
def hasFitIdentity (entry : Node × Node) : Bool :=
  entry.1.keyText? ≠ some identityKey || entry.2.identifies

mutual

/-- A node below the root as data. -/
def datum? : Node → Option Datum
  | .scalar tag text plain => (taggedScalar? tag text plain).map (withTag tag)
  | .sequence tag items => (datumItems? items).map fun ds => withTag tag (.list ds)
  | .mapping tag entries =>
    if entries.all hasFitIdentity then
      (datumEntries? entries).map fun es => withTag tag (mapDatum es)
    else none
  | .alias target _ _ => target.datum?

/-- Nodes as data. -/
def datumItems? : List Node → Option (List Datum)
  | [] => some []
  | n :: rest => do
    let d ← n.datum?
    let ds ← datumItems? rest
    some (d :: ds)

/-- Entries as data; every key has to be a scalar. -/
def datumEntries? : List (Node × Node) → Option (List (String × Datum))
  | [] => some []
  | (k, v) :: rest => do
    let key ← k.keyText?
    let value ← v.datum?
    let others ← datumEntries? rest
    some ((key, value) :: others)

end

/-- The deepest nesting of collections that is read. -/
def maxDepth : Nat := 128

/-- Whether a tree is not too deep and does not follow aliases out of proportion. -/
def isModest (n : Node) : Bool :=
  n.depth ≤ maxDepth && n.aliases ≤ n.size * 100

end Node

/-! ## Documents -/

/-- The entries of a document. Its root has to be a mapping, where neither a tag nor special keys
matter; a text without a document and an empty one have no entries. -/
def documentEntries? (s : String) : Option Datum := do
  let tokens ← Token.ofText? s
  match ← Node.ofTokens? tokens with
  | none => some (.map [])
  | some root =>
    if !root.isModest then none
    else
      match root with
      | .mapping _ entries => (Node.datumEntries? entries).map Datum.ofEntries
      | .scalar _ "" true => some (.map [])
      | _ => none

end Yaml
end ListQuery
