import ListQuery.Yaml.Glyph

/-!
# Gaps inside scalars

A scalar that runs over several lines is folded: one line end becomes a space, and of several line
ends the first disappears.

* `Gap` — the spaces and line ends between two words of a scalar.
* `Gap.close` — what the gap becomes in the value.
-/

set_option autoImplicit false
namespace ListQuery
namespace Yaml

/-- The spaces and line ends since the last word; lists hold the latest character first. -/
structure Gap where
  spaces : List Char := []
  /-- Whether there was a line end, be it an escaped one. -/
  broken : Bool := false
  first : Option Char := none
  more : List Char := []

namespace Gap

/-- Whether nothing has been passed since the last word. -/
def isEmpty (g : Gap) : Bool :=
  g.spaces.isEmpty && !g.broken

/-- A further space or tab; behind a line end it is indentation. -/
def addSpace (g : Gap) (c : Char) : Gap :=
  if g.broken then g else { g with spaces := c :: g.spaces }

/-- A further line end. Spaces in front of it do not count. -/
def addBreak (g : Gap) (c : Char) : Gap :=
  if g.broken then { g with more := c :: g.more } else { broken := true, first := some c }

/-- The value so far, latest character first, with the gap added in folded form. -/
def close (g : Gap) (value : List Char) : List Char :=
  if g.broken then
    match g.first with
    | some '\n' => if g.more.isEmpty then ' ' :: value else g.more ++ value
    | some c => g.more ++ c :: value
    | none => g.more ++ value
  else g.spaces ++ value

end Gap
end Yaml
end ListQuery
