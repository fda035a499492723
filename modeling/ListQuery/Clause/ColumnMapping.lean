import ListQuery.Entity
import ListQuery.Text.NameTable
import ListQuery.Text.Quoted

/-!
# Column mappings

* `ColumnMapping` — the keys that a client may sort by, and the column of each. A mapping can pass
  its columns through a resolver, such as an entity, which knows some of them under other names.
* `ColumnMapping.resolve?` — the column of a key; a key that is not registered has none.
-/

set_option autoImplicit false
namespace ListQuery

/-- Columns by sort key; keys are compared without regard to case. -/
structure ColumnMapping where
  columns : NameTable String := {}
  /-- The stored names of the properties that the columns may name. -/
  resolver : Option (String → Option String) := none

namespace ColumnMapping

/-- Maps a key to a column, in place of an earlier mapping of the key. -/
def insert (m : ColumnMapping) (key column : String) : ColumnMapping :=
  { m with columns := m.columns.insert key column }

/-- Reads mapped columns as properties that a resolver may know. -/
def withResolver (m : ColumnMapping) (resolver : String → Option String) : ColumnMapping :=
  { m with resolver := some resolver }

/-- Reads mapped columns as properties of an entity. -/
def withEntity (m : ColumnMapping) (entity : Entity) : ColumnMapping :=
  m.withResolver entity.columnName?

/-- A mapped column as the resolver names it; one that it does not know stays as mapped. -/
def storageName (m : ColumnMapping) (column : String) : String :=
  (m.resolver.bind fun resolver => resolver column).getD column

/-- The column of a key. -/
def resolve? (m : ColumnMapping) (key : String) : Option String :=
  (m.columns.get? key).map m.storageName

/-- The number of keys. -/
def size (m : ColumnMapping) : Nat :=
  m.columns.size

/-- Whether there are no keys. -/
def isEmpty (m : ColumnMapping) : Bool :=
  m.columns.isEmpty

/-- A description for logs. -/
def describe (m : ColumnMapping) : String :=
  let entries := m.columns.entries.map fun e => Text.quoted e.1 ++ ": " ++ Text.quoted e.2
  "ColumnMapping \x7b columns: \x7b" ++ ", ".intercalate entries ++ "\x7d, resolver: " ++
    (if m.resolver.isSome then "true" else "false") ++ " \x7d"

end ColumnMapping
end ListQuery
