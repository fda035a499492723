import ListQuery.Error
import ListQuery.Text.Blank
import ListQuery.Text.Split

/-!
# Sort texts

A client asks for an order with a text such as `-created_at,department.code,id`: terms separated by
commas, each an optional minus sign for descending order and a path of names separated by dots.

* `SortTerm`, `SortSpec` — the parsed form; a specification has at least one term.
* `SortSpec.parse` — reads a sort text.
* `SortSpec.signedTokens` — writes a specification with a sign in front of every term, which is also
  how a specification is shown.
-/

set_option autoImplicit false
namespace ListQuery

/-- The direction of an ordering. -/
inductive Direction where
  | ascending
  | descending
  deriving DecidableEq, Repr

/-- A path to a field, with the direction to order it in. -/
structure SortTerm where
  path : List String
  direction : Direction
  deriving DecidableEq, Repr

namespace SortTerm

/-- The path as a dotted name. -/
def key (t : SortTerm) : String :=
  Text.join '.' t.path

/-- Whether the term asks for descending order. -/
def isDescending (t : SortTerm) : Bool :=
  t.direction == .descending

/-- Reads one term, already without blanks around it: one leading minus sign is the direction,
all else is the path. -/
def ofText (part : String) : SortTerm :=
  match part.toList with
  | '-' :: rest => ⟨Text.pieces '.' (String.ofList rest), .descending⟩
  | _ => ⟨Text.pieces '.' part, .ascending⟩

/-- The term with its direction written as a sign. -/
def signed (t : SortTerm) : String :=
  (match t.direction with
    | .ascending => "+"
    | .descending => "-") ++ t.key

end SortTerm

/-- The terms of an order: the first is the primary one, the others break ties in turn. -/
structure SortSpec where
  terms : List SortTerm
  terms_ne_nil : terms ≠ []
  deriving DecidableEq

namespace SortSpec

/-- The longest accepted sort text, in bytes of UTF-8. -/
def maxBytes : Nat := 1024

/-- The parts of a sort text that hold more than blanks, trimmed. -/
def parts (raw : String) : List String :=
  ((Text.pieces ',' raw).map Text.trim).filter (· != "")

/-- Reads a sort text. A text of blanks is refused as such however long it is. -/
def parse (raw : String) : Except QueryError SortSpec :=
  if Text.isBlankText raw then .error (.invalidSort .blank)
  else if raw.utf8ByteSize > maxBytes then .error (.invalidSort .tooLong)
  else
    let terms := (parts raw).map SortTerm.ofText
    if h : terms = [] then .error (.invalidSort .noColumns) else .ok ⟨terms, h⟩

/-- The number of terms. -/
def size (s : SortSpec) : Nat :=
  s.terms.length

/-- All terms with their signs, separated by commas. -/
def signedTokens (s : SortSpec) : String :=
  Text.join ',' (s.terms.map SortTerm.signed)

instance : ToString SortSpec := ⟨signedTokens⟩

end SortSpec
end ListQuery
