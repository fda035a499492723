import ListQuery.FieldMap
import ListQuery.Sort
import ListQuery.Sql.Value

/-!
# Queries

* `Query` — a statement that is not yet executed: what it reads or deletes, which rows it keeps, in
  which order, and which window of them.
* `Condition` — a test of one column; a query keeps the rows that pass all its conditions.
-/

set_option autoImplicit false
namespace ListQuery

/-- A test of one column. -/
inductive Condition where
  | equals (column : ColumnRef) (value : SqlValue)
  | oneOf (column : ColumnRef) (values : List SqlValue)
  | present (column : ColumnRef)
  | absent (column : ColumnRef)
  deriving DecidableEq

namespace Condition

/-- The column that is tested. -/
def column : Condition → ColumnRef
  | equals c _ => c
  | oneOf c _ => c
  | present c => c
  | absent c => c

/-- The values that the column is compared with. -/
def values : Condition → List SqlValue
  | equals _ v => [v]
  | oneOf _ vs => vs
  | present _ => []
  | absent _ => []

end Condition

/-- A column to order by. -/
structure OrderKey where
  column : ColumnRef
  direction : Direction
  deriving DecidableEq, Repr

/-- A window of rows. -/
structure Window where
  limit : UInt64
  offset : UInt64
  deriving DecidableEq, Repr

/-- What a query works on. -/
inductive Source where
  /-- The records of an entity. -/
  | select (entity : Entity)
  /-- The records of an entity, each with the related record if there is one. The two are related
  where the named columns agree. -/
  | selectWith (entity related : Entity) (column relatedColumn : String)
  /-- The records of an entity, to be deleted. -/
  | delete (entity : Entity)
  deriving DecidableEq, Repr

/-- A statement that is not yet executed. -/
structure Query where
  source : Source
  conditions : List Condition := []
  ordering : List OrderKey := []
  window : Option Window := none
  deriving DecidableEq

namespace Query

/-- A query for everything in a source. -/
def all (source : Source) : Query := { source := source }

/-- Keeps only rows that also pass further conditions. -/
def filter (q : Query) (conditions : List Condition) : Query :=
  { q with conditions := q.conditions ++ conditions }

/-- Breaks remaining ties by a further column. -/
def orderBy (q : Query) (key : OrderKey) : Query :=
  { q with ordering := q.ordering ++ [key] }

/-- Drops the order of a query and orders it by `keys`. -/
def replaceOrder (q : Query) (keys : List OrderKey) : Query :=
  keys.foldl orderBy { q with ordering := [] }

/-- Takes a window of the rows, in place of an earlier one. -/
def take (q : Query) (window : Window) : Query :=
  { q with window := some window }

/-- Columns that are added one after the other stand behind the ordering, and nothing else is
touched. -/
theorem foldl_orderBy (keys : List OrderKey) (q : Query) :
    keys.foldl orderBy q = { q with ordering := q.ordering ++ keys } := by
  induction keys generalizing q with
  | nil => rw [List.append_nil]; rfl
  | cons key keys ih =>
    rw [List.foldl_cons, ih, orderBy, List.append_assoc, List.singleton_append]

theorem replaceOrder_eq (q : Query) (keys : List OrderKey) :
    q.replaceOrder keys = { q with ordering := keys } := by
  rw [replaceOrder, foldl_orderBy, List.nil_append]

end Query

/-- The order of rows where the client asks for none: a column, and columns to break ties. -/
structure DefaultOrder where
  primary : OrderKey
  tiebreaks : List OrderKey := []
  deriving DecidableEq, Repr

namespace DefaultOrder

/-- A further column to break ties. -/
def andThen (o : DefaultOrder) (key : OrderKey) : DefaultOrder :=
  { o with tiebreaks := o.tiebreaks ++ [key] }

/-- All columns, in order. -/
def keys (o : DefaultOrder) : List OrderKey :=
  o.primary :: o.tiebreaks

/-- Orders a query, whatever its order was. -/
def apply (o : DefaultOrder) (q : Query) : Query :=
  q.replaceOrder o.keys

end DefaultOrder
end ListQuery
