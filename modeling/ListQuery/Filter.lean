import ListQuery.Text.Blank
import ListQuery.Uuid

/-!
# Filter values

* `Scalar`, `FilterValue` — what a client may ask of one field.
* `FilterValue.isActive` — whether a value asks for anything at all.
* `ToFilterValue`, `FilterObject` — records whose named fields are filter terms.
-/

set_option autoImplicit false
namespace ListQuery

/-- An element of a list to choose from. -/
inductive Scalar where
  | text (s : String)
  | int (n : Int64)
  | uuid (u : Uuid)
  deriving DecidableEq

/-- What is asked of a field. -/
inductive FilterValue where
  /-- Nothing. -/
  | null
  /-- To equal the text. -/
  | text (s : String)
  /-- To be present (`true`) or absent (`false`). -/
  | flag (present : Bool)
  /-- To be one of the elements. -/
  | list (items : List Scalar)
  deriving DecidableEq

instance : Inhabited FilterValue := ⟨.null⟩

/-- Null, blank text and the empty list ask for nothing and are skipped. -/
def FilterValue.isActive : FilterValue → Bool
  | .null => false
  | .text s => !Text.isBlankText s
  | .flag _ => true
  | .list items => !items.isEmpty

/-- Values of `α` can be asked of a field. -/
class ToFilterValue (α : Type) where
  toFilterValue : α → FilterValue

export ToFilterValue (toFilterValue)

instance : ToFilterValue FilterValue := ⟨id⟩
instance : ToFilterValue String := ⟨.text⟩
instance : ToFilterValue Bool := ⟨.flag⟩
instance : ToFilterValue (List Scalar) := ⟨.list⟩
instance : ToFilterValue (List String) := ⟨fun items => .list (items.map .text)⟩
instance : ToFilterValue (List Int64) := ⟨fun items => .list (items.map .int)⟩
instance : ToFilterValue (List Uuid) := ⟨fun items => .list (items.map .uuid)⟩

instance {α : Type} [ToFilterValue α] : ToFilterValue (Option α) :=
  ⟨fun v => v.elim .null toFilterValue⟩

/-- Values of `α` carry filter terms: names with what is asked of them, in declaration order and
whether active or not. -/
class FilterObject (α : Type) where
  terms : α → List (String × FilterValue)

instance : FilterObject (List (String × FilterValue)) := ⟨id⟩

end ListQuery
