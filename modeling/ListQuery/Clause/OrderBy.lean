import ListQuery.Clause.ColumnMapping
import ListQuery.Page
import ListQuery.Sort

/-!
# Ordering clauses

* `orderByClause` — the `ORDER BY` clause for the sort text of a page.
-/

set_option autoImplicit false
namespace ListQuery

/-- The ordering by one term. A key that is not mapped is refused. -/
def orderByPiece (mapping : ColumnMapping) (term : SortTerm) : Except QueryError String :=
  match mapping.resolve? term.key with
  | some column => .ok (if term.isDescending then column ++ " DESC" else column)
  | none => .error (.invalidSortField term.key (.unresolvableField term.key))

/-- The ordering that a sort text asks for. -/
def orderBySort (mapping : ColumnMapping) (sort : String) : Except QueryError String := do
  let spec ← SortSpec.parse sort
  let parts ← spec.terms.mapM (orderByPiece mapping)
  .ok ("ORDER BY " ++ ", ".intercalate parts)

/-- The ordering clause of a page. Without a page, or where its sort text is blank, it is the
ordering in `defaultSort`, which is trusted and taken over as it is. -/
def orderByClause (mapping : ColumnMapping) (defaultSort : String) (page : Option Page) :
    Except QueryError String :=
  match page.bind Page.sort with
  | none => .ok ("ORDER BY " ++ defaultSort)
  | some sort =>
    if Text.isBlankText sort then .ok ("ORDER BY " ++ defaultSort) else orderBySort mapping sort

end ListQuery
