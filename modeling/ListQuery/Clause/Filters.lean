import ListQuery.Filter
import ListQuery.Sql.Params
import ListQuery.Text.Split

/-!
# Filter clauses

* `appendFilters` — one line of SQL for every active filter value, with its parameter.
-/

set_option autoImplicit false
namespace ListQuery

/-- The SQL value of a list element as it is. -/
def Scalar.value : Scalar → SqlValue
  | .text s => .string s
  | .int n => .bigInt n
  | .uuid u => .uuid u

/-- The parameter for a column: the part after its last dot. -/
def filterParam (column : String) : String :=
  ((Text.pieces '.' column).getLast?).getD column

/-- The line that a filter value adds, and its parameter if it has one. An inactive value adds
nothing, and a flag only with `nullCheck`. -/
def filterLine (nullCheck : Bool) (column : String) (value : FilterValue) :
    Option (String × Option ParamValue) :=
  if !value.isActive then none
  else
    match value with
    | .null => none
    | .text s =>
      some ("  AND " ++ column ++ " = @" ++ filterParam column ++ "\n", some (.scalar (.string s)))
    | .list items =>
      some ("  AND " ++ column ++ " IN @" ++ filterParam column ++ "\n",
        some (.list (items.map Scalar.value)))
    | .flag present =>
      if nullCheck then
        some ("  AND " ++ column ++ (if present then " IS NOT NULL" else " IS NULL") ++ "\n", none)
      else none

/-- Appends one filter to SQL text and registers its parameter. -/
def appendFilter (nullCheck : Bool) (state : String × Params) (pair : String × FilterValue) :
    String × Params :=
  match filterLine nullCheck pair.1 pair.2 with
  | none => state
  | some (line, none) => (state.1 ++ line, state.2)
  | some (line, some value) => (state.1 ++ line, state.2.add (filterParam pair.1) value)

/-- Appends filters to SQL text, in order. The values go into the parameters; of two filters with
one parameter name the later one decides its value. -/
def appendFilters (sql : String) (params : Params) (pairs : List (String × FilterValue))
    (nullCheck : Bool) : String × Params :=
  pairs.foldl (appendFilter nullCheck) (sql, params)

end ListQuery
