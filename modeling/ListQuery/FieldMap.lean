import ListQuery.Entity
import ListQuery.Error
import ListQuery.FieldKind
import ListQuery.Text.NameTable
import ListQuery.Text.Split

/-!
# Field maps

* `Field` — a column that clients may sort and filter by, with its kind.
* `FieldMap` — the fields of an entity by name, and the field maps of related entities by relation.
* `FieldMap.resolve` — the field at a path of names.
-/

set_option autoImplicit false
namespace ListQuery

/-- A column with its table. -/
structure ColumnRef where
  table : String
  column : String
  deriving DecidableEq, Repr

/-- A column that clients may name. -/
structure Field where
  column : ColumnRef
  kind : FieldKind
  deriving DecidableEq, Repr

/-- The fields of an entity that clients may name. Names are compared without regard to case. -/
structure FieldMap where
  table : String
  fields : NameTable Field
  nested : NameTable FieldMap

namespace FieldMap

/-- A map without fields for an entity. -/
def ofEntity (entity : Entity) : FieldMap :=
  ⟨entity.table, {}, {}⟩

/-- Registers a column of the entity under a name. -/
def insert (m : FieldMap) (name : String) (column : Column) (kind : FieldKind) : FieldMap :=
  { m with fields := m.fields.insert name ⟨⟨m.table, column.name⟩, kind⟩ }

/-- Registers the fields of a related entity under a relation, in place of earlier ones. -/
def nest (m : FieldMap) (relation : String) (related : FieldMap) : FieldMap :=
  { m with nested := m.nested.insert relation related }

/-- The field of the entity itself with a name. -/
def get? (m : FieldMap) (name : String) : Option Field :=
  m.fields.get? name

/-- The field at a path: relations to follow, and the name of a field. -/
def find? (m : FieldMap) : (path : List String) → Option Field
  | [] => none
  | [name] => m.get? name
  | relation :: rest =>
    match m.nested.get? relation with
    | some related => related.find? rest
    | none => none

/-- The field at a path. A path that leads to none is reported as it was spelled. -/
def resolve (m : FieldMap) (path : List String) : Except QueryError Field :=
  match m.find? path with
  | some field => .ok field
  | none => .error (.unresolvableField (Text.join '.' path))

/-- The field with a dotted name. -/
def resolveName (m : FieldMap) (name : String) : Except QueryError Field :=
  m.resolve (Text.pieces '.' name)

end FieldMap
end ListQuery
