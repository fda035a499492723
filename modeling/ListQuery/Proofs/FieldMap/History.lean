import ListQuery.FieldMap

/-!
# How field maps come about

A field map is begun for an entity; then fields are registered in it, and the maps of related
entities are nested in it, in any number and in any order.  What it holds in the end is what was
registered last under each name.

## What is here

* `FieldMap.History` — the calls that have made a map, and `History.map`, the map they make.
* `History.inserted?`, `History.nested?` — the last calls for a name and for a relation.
* `History.Registers` — the field at a path, by the history alone: relations lead to the maps that
  were nested last, and the last name is that of a field that was registered last.
* `History.find?_map` — **a map finds what its history registers**, by induction on the path.
-/

set_option autoImplicit false
namespace ListQuery
namespace FieldMap

/-! ## Looking up -/

theorem find?_cons (m : FieldMap) (relation : String) {rest : List String} (h : rest ≠ []) :
    m.find? (relation :: rest) =
      (m.nested.get? relation).bind fun related => related.find? rest := by
  obtain ⟨name, names, rfl⟩ := List.exists_cons_of_ne_nil h
  rw [find?]
  · cases m.nested.get? relation <;> rfl
  · exact nofun

theorem find?_ofEntity (entity : Entity) (path : List String) :
    (ofEntity entity).find? path = none := by
  rcases path with _ | ⟨name, _ | ⟨second, rest⟩⟩ <;> rfl

theorem find?_insert (m : FieldMap) (name : String) (column : Column) (kind : FieldKind)
    (path : List String) :
    (m.insert name column kind).find? path =
      if path.map Text.lower = [Text.lower name] then some ⟨⟨m.table, column.name⟩, kind⟩
      else m.find? path := by
  rcases path with _ | ⟨first, _ | ⟨second, rest⟩⟩
  · rfl
  · rw [find?, get?, insert, NameTable.get?_insert, List.map_singleton]
    simp only [List.cons.injEq, and_true]
    rfl
  · exact (if_neg (by simp)).symm

/-- A nested map takes all longer paths that begin with its relation. -/
theorem find?_nest (m : FieldMap) (relation : String) (related : FieldMap) (first second : String)
    (rest : List String) :
    (m.nest relation related).find? (first :: second :: rest) =
      if Text.lower first = Text.lower relation then related.find? (second :: rest)
      else m.find? (first :: second :: rest) := by
  rw [find?_cons _ _ (List.cons_ne_nil _ _), nest, NameTable.get?_insert]
  split
  · rfl
  · exact (find?_cons _ _ (List.cons_ne_nil _ _)).symm

theorem find?_nest_own (m : FieldMap) (relation : String) (related : FieldMap) (name : String) :
    (m.nest relation related).find? [name] = m.find? [name] := rfl

theorem resolve_eq_ok_iff {m : FieldMap} {path : List String} {field : Field} :
    m.resolve path = .ok field ↔ m.find? path = some field := by
  unfold resolve
  cases m.find? path with
  | none => exact ⟨nofun, nofun⟩
  | some other => rw [Except.ok.injEq, Option.some.injEq]

/-- A path without a field is reported as it was spelled. -/
theorem resolve_eq_error_iff {m : FieldMap} {path : List String} {e : QueryError} :
    m.resolve path = .error e ↔
      m.find? path = none ∧ e = .unresolvableField (Text.join '.' path) := by
  unfold resolve
  cases m.find? path with
  | none => rw [Except.error.injEq, eq_comm]; exact (and_iff_right rfl).symm
  | some field => exact ⟨nofun, nofun⟩

theorem resolveName_eq_ok_iff {m : FieldMap} {name : String} {field : Field} :
    m.resolveName name = .ok field ↔ m.find? (Text.pieces '.' name) = some field :=
  resolve_eq_ok_iff

/-- A name is reported as a whole. -/
theorem resolveName_eq_error_iff {m : FieldMap} {name : String} {e : QueryError} :
    m.resolveName name = .error e ↔
      m.find? (Text.pieces '.' name) = none ∧ e = .unresolvableField name := by
  rw [resolveName, resolve_eq_error_iff, Text.join_pieces]

/-! ## Histories -/

/-- The calls that a field map was made with. -/
inductive History where
  | ofEntity (entity : Entity)
  /-- A column of the entity is registered under a name. -/
  | insert (before : History) (name : String) (column : Column) (kind : FieldKind)
  /-- The map of a related entity is nested under a relation. -/
  | nest (before : History) (relation : String) (related : History)

namespace History

/-- The map that comes of it. -/
def map : History → FieldMap
  | ofEntity entity => .ofEntity entity
  | insert before name column kind => before.map.insert name column kind
  | nest before relation related => before.map.nest relation related.map

/-- The table of the entity. -/
def table : History → String
  | ofEntity entity => entity.table
  | insert before _ _ _ => before.table
  | nest before _ _ => before.table

/-- The field that was registered last under a name, in whatever case. -/
def inserted? (name : String) : History → Option Field
  | ofEntity _ => none
  | insert before other column kind =>
    if Text.lower name = Text.lower other then some ⟨⟨before.table, column.name⟩, kind⟩
    else before.inserted? name
  | nest before _ _ => before.inserted? name

/-- The map that was nested last under a relation, in whatever case. -/
def nested? (relation : String) : History → Option History
  | ofEntity _ => none
  | insert before _ _ _ => before.nested? relation
  | nest before other related =>
    if Text.lower relation = Text.lower other then some related else before.nested? relation

/-- The field at a path.  A map that was nested replaces an earlier one under its relation as a
whole. -/
inductive Registers : History → (path : List String) → Field → Prop
  | own {h : History} {name : String} {field : Field} (hfield : h.inserted? name = some field) :
      Registers h [name] field
  | related {h below : History} {relation : String} {path : List String} {field : Field}
      (hbelow : h.nested? relation = some below) (hpath : Registers below path field) :
      Registers h (relation :: path) field

theorem Registers.ne_nil {h : History} {path : List String} {field : Field}
    (hr : Registers h path field) : path ≠ [] := by
  cases hr <;> exact List.cons_ne_nil _ _

/-! ## Maps and their histories -/

theorem table_map (h : History) : h.map.table = h.table := by
  induction h with
  | ofEntity entity => rfl
  | insert before name column kind ih => exact ih
  | nest before relation related ih => exact ih

theorem get?_map (h : History) (name : String) : h.map.get? name = h.inserted? name := by
  induction h with
  | ofEntity entity => rfl
  | insert before other column kind ih =>
    rw [map, inserted?, FieldMap.get?, FieldMap.insert, NameTable.get?_insert, table_map, ← ih]
    rfl
  | nest before relation related ih => exact ih

theorem nested_map (h : History) (relation : String) :
    h.map.nested.get? relation = (h.nested? relation).map map := by
  induction h with
  | ofEntity entity => rfl
  | insert before name column kind ih => exact ih
  | nest before other related ih =>
    rw [map, nested?, FieldMap.nest, NameTable.get?_insert, ih]
    split <;> rfl

/-- **A map finds what its history registers**, and nothing else. -/
theorem find?_map {h : History} {path : List String} {field : Field} :
    h.map.find? path = some field ↔ h.Registers path field := by
  -- The induction is on the path: a relation leads to another history.
  induction path generalizing h with
  | nil => exact ⟨nofun, fun hr => absurd rfl hr.ne_nil⟩
  | cons name rest ih =>
    by_cases hrest : rest = []
    · subst hrest
      rw [FieldMap.find?, get?_map]
      constructor
      · exact .own
      · rintro (hfield | ⟨_, hbelow⟩)
        · exact hfield
        · exact absurd rfl hbelow.ne_nil
    · rw [FieldMap.find?_cons _ _ hrest, nested_map]
      constructor
      · intro hfind
        obtain ⟨m, hm, hfind⟩ := Option.bind_eq_some_iff.1 hfind
        obtain ⟨below, hbelow, rfl⟩ := Option.map_eq_some_iff.1 hm
        exact .related hbelow (ih.1 hfind)
      · rintro (_ | ⟨hbelow, hpath⟩)
        · exact absurd rfl hrest
        · rw [hbelow]
          exact ih.2 hpath

end History
end FieldMap
end ListQuery
