import ListQuery.Clause.Dialect
import ListQuery.Page
import ListQuery.Sql.Params

/-!
# Paging clauses

* `pagingClause` — the clause that cuts a page out of a result, and the parameters it mentions.
-/

set_option autoImplicit false
namespace ListQuery

/-- The parameter for the number of rows to skip. -/
def pageOffsetParam : String := "PageOffset"

/-- The parameter for the number of rows of a page. -/
def pageSizeParam : String := "PageSize"

/-- The clause of a dialect. -/
def PagingDialect.clause : PagingDialect → String
  | .offsetFetch =>
    "OFFSET @" ++ pageOffsetParam ++ " ROWS FETCH NEXT @" ++ pageSizeParam ++ " ROWS ONLY"
  | .limitOffset => "LIMIT @" ++ pageSizeParam ++ " OFFSET @" ++ pageOffsetParam

/-- The paging clause of a page, and the parameters with those it mentions. Numbers beyond 63 bits
become the greatest of 63. Without a page there is no clause and the parameters stay as they are. -/
def pagingClause (dialect : PagingDialect) (page : Option Page) (params : Params) :
    String × Params :=
  match page with
  | none => ("", params)
  | some page =>
    (dialect.clause,
      (params.add pageOffsetParam (.scalar (.bigInt (saturate page.offset)))).add pageSizeParam
        (.scalar (.bigInt (saturate page.limit))))

end ListQuery
