import ListQuery.Query.Basic
import ListQuery.Sql.Statement

/-!
# The SQL of a query

* `Query.statement` — a query as SQL for a database. Names are always quoted, and values are always
  placeholders.
-/

set_option autoImplicit false
namespace ListQuery

/-- The character that encloses names. -/
def Backend.nameQuote : Backend → Char
  | .mysql => '\x60'
  | .sqlite | .postgres => '"'

/-- A name between quotes, with every quote inside it doubled. -/
def Backend.quoteName (b : Backend) (name : String) : String :=
  let quote := b.nameQuote
  let doubled := name.toList.flatMap fun c => if c = quote then [c, c] else [c]
  String.ofList (quote :: doubled ++ [quote])

/-- A column with its table. -/
def ColumnRef.sql (c : ColumnRef) (b : Backend) : String :=
  b.quoteName c.table ++ "." ++ b.quoteName c.column

/-- The direction of an ordering. -/
def Direction.sql : Direction → String
  | .ascending => "ASC"
  | .descending => "DESC"

/-- All columns of an entity, each renamed by `label` if that is given. -/
def Entity.columnList (e : Entity) (b : Backend) (label : Option String) : List String :=
  e.columns.map fun c =>
    (ColumnRef.mk e.table c.name).sql b ++
      label.elim "" fun l => " AS " ++ b.quoteName (l ++ c.name)

/-- The beginning of a statement, up to its conditions. -/
def Source.sql (b : Backend) : Source → String
  | .select e =>
    "SELECT " ++ ", ".intercalate (e.columnList b none) ++ " FROM " ++ b.quoteName e.table
  | .selectWith e r column relatedColumn =>
    "SELECT " ++ ", ".intercalate (e.columnList b (some "A_") ++ r.columnList b (some "B_")) ++
      " FROM " ++ b.quoteName e.table ++ " LEFT JOIN " ++ b.quoteName r.table ++ " ON " ++
      (ColumnRef.mk e.table column).sql b ++ " = " ++ (ColumnRef.mk r.table relatedColumn).sql b
  | .delete e => "DELETE FROM " ++ b.quoteName e.table

/-- A condition as a piece of SQL. -/
def Condition.fragments (b : Backend) : Condition → List Fragment
  | .equals c v => [.text (c.sql b ++ " = "), .value v]
  | .oneOf c vs => .text (c.sql b ++ " IN ") :: Fragment.parenthesised vs
  | .present c => [.text (c.sql b ++ " IS NOT NULL")]
  | .absent c => [.text (c.sql b ++ " IS NULL")]

/-- The conditions of a query, joined by `AND` behind `lead`. -/
def conditionFragments (b : Backend) (lead : String) : List Condition → List Fragment
  | [] => []
  | c :: rest => .text lead :: c.fragments b ++ conditionFragments b " AND " rest

/-- The ordering of a query. -/
def orderFragments (b : Backend) : List OrderKey → List Fragment
  | [] => []
  | keys =>
    [.text (" ORDER BY " ++
      ", ".intercalate (keys.map fun k => k.column.sql b ++ " " ++ k.direction.sql))]

/-- The window of a query. -/
def windowFragments : Option Window → List Fragment
  | none => []
  | some w =>
    [.text " LIMIT ", .value (.bigUnsigned w.limit), .text " OFFSET ",
      .value (.bigUnsigned w.offset)]

namespace Query

/-- A query as pieces of SQL. -/
def fragments (q : Query) (b : Backend) : List Fragment :=
  .text (q.source.sql b) :: conditionFragments b " WHERE " q.conditions ++
    orderFragments b q.ordering ++ windowFragments q.window

/-- A query as SQL for a database. -/
def statement (q : Query) (b : Backend) : Statement :=
  Statement.ofFragments b (q.fragments b)

end Query
end ListQuery
