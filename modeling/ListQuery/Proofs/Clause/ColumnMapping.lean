import ListQuery.Clause.ColumnMapping

/-!
# How column mappings come about

A mapping is begun without keys; then keys are mapped to columns and a resolver may be given, in any
number and in any order.

* `ColumnMapping.History` — the calls that have made a mapping, and `History.mapping`, the mapping
  they make.
* `History.inserted?`, `History.stored` — the column that was given last to a key, and the name
  under which the resolver knows a column.
* `History.resolve?_mapping` — **a mapping resolves a key to the column given last**, as the
  resolver names it.
-/

set_option autoImplicit false
namespace ListQuery
namespace ColumnMapping

/-- The calls that a mapping was made with. -/
inductive History where
  | empty
  /-- A key is mapped to a column. -/
  | insert (before : History) (key column : String)
  | withResolver (before : History) (resolver : String → Option String)

namespace History

/-- The mapping that comes of it. -/
def mapping : History → ColumnMapping
  | empty => {}
  | insert before key column => before.mapping.insert key column
  | withResolver before resolver => before.mapping.withResolver resolver

/-- The column that was given last to a key, in whatever case. -/
def inserted? (key : String) : History → Option String
  | empty => none
  | insert before other column =>
    if Text.lower key = Text.lower other then some column else before.inserted? key
  | withResolver before _ => before.inserted? key

/-- The resolver that was given last. -/
def resolver? : History → Option (String → Option String)
  | empty => none
  | insert before _ _ => before.resolver?
  | withResolver _ resolver => some resolver

/-- A mapped column as the resolver names it.  Without a resolver, or where it does not know the
column, the column stays as it is. -/
def stored (h : History) (column : String) : String :=
  match h.resolver? with
  | none => column
  | some resolver => (resolver column).getD column

theorem get?_mapping (h : History) (key : String) :
    h.mapping.columns.get? key = h.inserted? key := by
  induction h with
  | empty => rfl
  | insert before other column ih =>
    rw [mapping, inserted?, ColumnMapping.insert, NameTable.get?_insert, ih]
  | withResolver before resolver ih => exact ih

theorem resolver_mapping (h : History) : h.mapping.resolver = h.resolver? := by
  induction h with
  | empty => rfl
  | insert before key column ih => exact ih
  | withResolver before resolver ih => rfl

theorem storageName_mapping (h : History) (column : String) :
    h.mapping.storageName column = h.stored column := by
  rw [storageName, resolver_mapping, stored]
  cases h.resolver? <;> rfl

/-- **A mapping resolves a key to the column given last**, as the resolver names it, and a key to
which no column was given to none. -/
theorem resolve?_mapping (h : History) (key : String) :
    h.mapping.resolve? key = (h.inserted? key).map h.stored := by
  rw [resolve?, get?_mapping]
  cases h.inserted? key with
  | none => rfl
  | some column => exact congrArg some (h.storageName_mapping column)

end History
end ColumnMapping
end ListQuery
