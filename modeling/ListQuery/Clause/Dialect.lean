/-!
# Paging dialects

How a database spells a window of rows in SQL text.
-/

set_option autoImplicit false
namespace ListQuery

/-- A spelling of paging. -/
inductive PagingDialect where
  /-- `OFFSET … ROWS FETCH NEXT … ROWS ONLY`. -/
  | offsetFetch
  /-- `LIMIT … OFFSET …`. -/
  | limitOffset
  deriving DecidableEq, Repr

instance : Inhabited PagingDialect := ⟨.offsetFetch⟩

/-- The dialects with the names they are chosen by. -/
def PagingDialect.choices : List (String × PagingDialect) :=
  [("offset_fetch", .offsetFetch), ("limit_offset", .limitOffset)]

/-- The name of a dialect. -/
def PagingDialect.name : PagingDialect → String
  | .offsetFetch => "offset_fetch"
  | .limitOffset => "limit_offset"

end ListQuery
