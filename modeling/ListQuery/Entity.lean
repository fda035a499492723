import ListQuery.Text.Split

/-!
# Entities

* `Entity` — a stored record type: its table and its columns in order.
* `Entity.column?`, `Entity.columnName?` — the column that a property name stands for.
-/

set_option autoImplicit false
namespace ListQuery

/-- A column of an entity: the name of the record's field, in lower case with underscores, and the
name of the column in the table. -/
structure Column where
  field : String
  name : String
  deriving DecidableEq, Repr

/-- A word with its first letter in upper case. -/
def capitalised : List Char → List Char
  | [] => []
  | c :: cs => c.toUpper :: cs

/-- The words of a name with underscores, joined with capitals in place of the underscores. -/
def joinedWords (name : String) : String :=
  match (name.toList.splitOn '_').filter (!·.isEmpty) with
  | [] => ""
  | first :: rest => String.ofList (first ++ (rest.map capitalised).flatten)

/-- Whether a property name means the column: by its field, by the field's name with capitals in
place of underscores, or by the column's own name. -/
def Column.answersTo (c : Column) (property : String) : Bool :=
  property == c.field || property == joinedWords c.field || property == c.name

/-- A stored record type. -/
structure Entity where
  table : String
  columns : List Column
  deriving DecidableEq, Repr

/-- The first column, in the order of the table, that a property name means. -/
def Entity.column? (e : Entity) (property : String) : Option Column :=
  e.columns.find? (·.answersTo property)

/-- The stored name of a property. -/
def Entity.columnName? (e : Entity) (property : String) : Option String :=
  (e.column? property).map Column.name

end ListQuery
