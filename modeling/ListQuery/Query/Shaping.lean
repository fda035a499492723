import ListQuery.Coerce
import ListQuery.Page
import ListQuery.Query.Basic

/-!
# Shaping queries

What a client asks for is put into a query. Field names of the client are only looked up in a field
map and never become part of a query.

* `Query.orderByPath` — orders a query by a sort text.
* `filterCondition`, `Query.applyFilters` — the conditions of filter terms.
* `Query.applySorting`, `Query.applyPaging` — the order and the window of a page.
-/

set_option autoImplicit false
namespace ListQuery

/-! ## Order -/

/-- The ordering by one term. A path without a field is refused. -/
def orderKey (map : FieldMap) (term : SortTerm) : Except QueryError OrderKey :=
  match map.resolve term.path with
  | .ok field => .ok ⟨field.column, term.direction⟩
  | .error e => .error (.invalidSortField term.key e)

namespace Query

/-- Orders a query by a sort text, in place of the order it has. -/
def orderByPath (q : Query) (sort : String) (map : FieldMap) : Except QueryError Query := do
  let spec ← SortSpec.parse sort
  let keys ← spec.terms.mapM (orderKey map)
  .ok (q.replaceOrder keys)

/-- Applies a default order, if there is one. -/
def applyDefault (q : Query) : Option DefaultOrder → Query
  | some order => order.apply q
  | none => q

/-- Orders a query by the sort text of a page, or by the default where the page has none. A sort
text of blanks is not the same as none. -/
def applySorting (q : Query) (page : Option Page) (map : FieldMap) (order : Option DefaultOrder) :
    Except QueryError Query :=
  match page.bind Page.sort with
  | none => .ok (q.applyDefault order)
  | some sort => if sort = "" then .ok (q.applyDefault order) else q.orderByPath sort map

/-! ## Window -/

/-- Takes the window of a page and leaves the order as it is. Without a page, only the default
order is applied. -/
def applyPaging (q : Query) (page : Option Page) (order : Option DefaultOrder) : Query :=
  match page with
  | some page => q.take ⟨page.limit, page.offset⟩
  | none => q.applyDefault order

end Query

/-! ## Filters -/

/-- Whether a filter term is to be applied: it asks for something and its name is not excluded. -/
def isApplied (excluded : List String) (term : String × FilterValue) : Bool :=
  !(excluded.any fun x => Text.sameAscii x term.1) && term.2.isActive

/-- The condition that an active value puts on a field called `name`. -/
def valueCondition (name : String) (field : Field) :
    FilterValue → Except QueryError (Option Condition)
  | .null => .ok none
  | .text s => do
    let v ← coerceText name field.kind s
    .ok (some (.equals field.column v))
  | .list items => do
    let vs ← items.mapM (coerceScalar name field.kind)
    .ok (some (.oneOf field.column vs))
  | .flag true => .ok (some (.present field.column))
  | .flag false => .ok (some (.absent field.column))

/-- The condition of an applied term. Its name is looked up before its value is read. -/
def termCondition (map : FieldMap) (term : String × FilterValue) :
    Except QueryError (Option Condition) := do
  let field ← map.resolveName term.1
  valueCondition term.1 field term.2

/-- The conditions of filter terms, in order, or none where no term is applied. The first term that
cannot be applied is reported. -/
def filterCondition {α : Type} [FilterObject α] (filter : α) (map : FieldMap)
    (excluded : List String) : Except QueryError (Option (List Condition)) := do
  let terms := (FilterObject.terms filter).filter (isApplied excluded)
  let conditions ← terms.mapM (termCondition map)
  match conditions.filterMap id with
  | [] => .ok none
  | cs => .ok (some cs)

/-- Adds the conditions of a filter object to a query. -/
def Query.applyFilters {α : Type} [FilterObject α] (q : Query) (filter : Option α) (map : FieldMap)
    (excluded : List String) : Except QueryError Query :=
  match filter with
  | none => .ok q
  | some filter => do
    match ← filterCondition filter map excluded with
    | some conditions => .ok (q.filter conditions)
    | none => .ok q

end ListQuery
