import ListQuery.Proofs.Clause.OrderBy

/-!
# Property names in a mapping

A mapping may name its columns as the properties of an entity do.  The entity looks for the name
among the fields, the joined fields and the stored names of all its columns together, in the order
of the table.  So a property need not reach its own column: a column that stands before it and that
is stored under the name of the property is found first, and the clause orders by that column,
without an error.

## What is here

* `Column.IsProperty` — the two names of the property of a column.
* `Entity.column?_of_first`, `Entity.exists_column?_of_earlier` — a column is found where no earlier
  one answers, and otherwise such an earlier one is.
* `ColumnMapping.SortsBy` — wherever a sort text names a key of a property, the clause orders by a
  column.
* `Entity.property_reaches_own_column_iff` — **a property reaches its own column if and only if no
  earlier column answers to it**, and clauses order by the column that it reaches.
* `Entity.property_reaches_earlier_column` — a property that does not reach its own column.
-/

set_option autoImplicit false
namespace ListQuery

/-! ## The column of a property -/

/-- The names of a column's property: the field as it is, and with its words joined. -/
def Column.IsProperty (c : Column) (property : String) : Prop :=
  property = c.field ∨ property = joinedWords c.field

theorem Column.IsProperty.answersTo {c : Column} {property : String} (h : c.IsProperty property) :
    c.answersTo property = true := by
  rcases h with rfl | rfl <;> simp [Column.answersTo]

namespace Entity

variable {e : Entity} {before after : List Column} {c : Column} {property : String}

/-- A column that stands before another one is stored under another name. -/
theorem name_ne_of_before (hnames : (e.columns.map Column.name).Nodup)
    (hcolumns : e.columns = before ++ c :: after) {d : Column} (hd : d ∈ before) :
    d.name ≠ c.name := by
  rw [hcolumns, List.map_append, List.nodup_append] at hnames
  exact hnames.2.2 d.name (List.mem_map_of_mem hd) c.name (by simp)

/-- Where no earlier column answers, the column that answers is found. -/
theorem column?_of_first (hcolumns : e.columns = before ++ c :: after)
    (hanswers : c.answersTo property = true) (hfirst : ∀ d ∈ before, d.answersTo property = false) :
    e.column? property = some c := by
  rw [column?, hcolumns, List.find?_eq_some_iff_append]
  exact ⟨hanswers, before, after, rfl, fun d hd => by simp [hfirst d hd]⟩

/-- Where an earlier column answers, such a one is found. -/
theorem exists_column?_of_earlier (hcolumns : e.columns = before ++ c :: after)
    (hearlier : ∃ d ∈ before, d.answersTo property = true) :
    ∃ d ∈ before, d.answersTo property = true ∧ e.column? property = some d := by
  obtain ⟨d, hd⟩ := Option.isSome_iff_exists.1 (List.find?_isSome.2 hearlier)
  have hanswers : d.answersTo property = true := by simpa using List.find?_some hd
  refine ⟨d, List.mem_of_find?_eq_some hd, hanswers, ?_⟩
  rw [column?, hcolumns, List.find?_append, hd, Option.some_or]

end Entity

/-! ## Ordering by a property -/

namespace ColumnMapping

/-- Wherever a sort text names a key that is mapped to a property, the clause orders by a column. -/
structure SortsBy (mapping : ColumnMapping) (property column : String) : Prop where
  /-- The keys of the property stand for the column. -/
  resolve : ∀ key, mapping.columns.get? key = some property → mapping.resolve? key = some column
  /-- A sort text that can be read and that names keys of the mapping only is written as a clause,
  with the column at the place of each term that names a key of the property. -/
  clause : ∀ (defaultSort : String) (page : Page) (sort : String) (spec : SortSpec),
    page.sort = some sort → SortSpec.parse sort = .ok spec →
    (∀ term ∈ spec.terms, (mapping.columns.get? term.key).isSome) →
    ∃ chosen : List (String × Direction),
      orderByClause mapping defaultSort (some page) =
        .ok ("ORDER BY " ++ ", ".intercalate (chosen.map orderPiece)) ∧
      List.Forall₂ (fun term c => mapping.resolve? term.key = some c.1 ∧ c.2 = term.direction)
        spec.terms chosen ∧
      ∀ (i : Nat) (term : SortTerm), spec.terms[i]? = some term →
        mapping.columns.get? term.key = some property → chosen[i]? = some (column, term.direction)

variable {mapping : ColumnMapping} {property column : String}

/-- Every key of the mapping stands for some column. -/
theorem exists_resolve? {key : String} (h : (mapping.columns.get? key).isSome) :
    ∃ column, mapping.resolve? key = some column :=
  Option.isSome_iff_exists.1 ((Option.isSome_map ..).trans h)

theorem sortsBy_of_resolve
    (h : ∀ key, mapping.columns.get? key = some property → mapping.resolve? key = some column) :
    mapping.SortsBy property column := by
  refine ⟨h, fun defaultSort page sort spec hsort hparse hkeys => ?_⟩
  obtain ⟨chosen, hchosen⟩ : ∃ chosen : List (String × Direction),
      List.Forall₂ (fun term c => mapping.resolve? term.key = some c.1 ∧ c.2 = term.direction)
        spec.terms chosen := by
    refine exists_forall₂ fun term hterm => ?_
    obtain ⟨column, hcolumn⟩ := exists_resolve? (hkeys term hterm)
    exact ⟨(column, term.direction), hcolumn, rfl⟩
  have hblank : Text.isBlankText sort = false := by
    by_contra hblank
    rw [SortSpec.parse_of_isBlankText (by simpa using hblank)] at hparse
    cases hparse
  refine ⟨chosen, ?_, hchosen, fun i term hterm hproperty => ?_⟩
  · rw [orderByClause_of_sort hsort hblank]
    exact orderBySort_eq_ok_iff.2 ⟨spec, hparse, chosen, hchosen, rfl⟩
  · obtain ⟨written, hwritten, hcolumn, hdirection⟩ := exists_right_of_getElem? hchosen hterm
    rw [h term.key hproperty, Option.some.injEq] at hcolumn
    rw [hwritten, hcolumn, ← hdirection]

/-- A property that the resolver knows stands for its stored name. -/
theorem sortsBy_of_resolver {resolver : String → Option String}
    (hresolver : mapping.resolver = some resolver) (hcolumn : resolver property = some column) :
    mapping.SortsBy property column :=
  sortsBy_of_resolve fun key hkey => by
    rw [resolve?, hkey, Option.map_some, storageName, hresolver, Option.bind_some, hcolumn,
      Option.getD_some]

end ColumnMapping

/-! ## Whose column it is -/

namespace Entity

/-- **Whether a property reaches its own column.**  Take any column of an entity whose columns are
stored under different names, and a name of its property.  The entity knows the property, and it
reaches its own column if and only if no column before it answers to the same name, by its field,
its joined field or its stored name.  Otherwise it reaches an earlier column that does, which is
another one.

A mapping that names the property orders by the column that it reaches, be it the right one or
not. -/
theorem property_reaches_own_column_iff {e : Entity} (hnames : (e.columns.map Column.name).Nodup)
    {before after : List Column} {c : Column} (hcolumns : e.columns = before ++ c :: after)
    {property : String} (hproperty : c.IsProperty property) :
    ∃ d ∈ before ++ [c], d.answersTo property = true ∧ e.columnName? property = some d.name ∧
      (d.name = c.name ↔ ∀ b ∈ before, b.answersTo property = false) ∧
      ∀ mapping : ColumnMapping, mapping.resolver = some e.columnName? →
        mapping.SortsBy property d.name := by
  by_cases hearlier : ∃ d ∈ before, d.answersTo property = true
  case pos =>
    obtain ⟨d, hd, hanswers, hfound⟩ := exists_column?_of_earlier hcolumns hearlier
    have hname : e.columnName? property = some d.name := by
      rw [columnName?, hfound, Option.map_some]
    refine ⟨d, List.mem_append_left [c] hd, hanswers, hname, ⟨fun hsame => ?_, fun hnone => ?_⟩,
      fun mapping hresolver => ColumnMapping.sortsBy_of_resolver hresolver hname⟩
    · exact absurd hsame (name_ne_of_before hnames hcolumns hd)
    · exact absurd hanswers (by simp [hnone d hd])
  case neg =>
    have hnone : ∀ d ∈ before, d.answersTo property = false := by simpa using hearlier
    have hfound := column?_of_first hcolumns hproperty.answersTo hnone
    have hname : e.columnName? property = some c.name := by
      rw [columnName?, hfound, Option.map_some]
    exact ⟨c, by simp, hproperty.answersTo, hname, ⟨fun _ => hnone, fun _ => rfl⟩,
      fun mapping hresolver => ColumnMapping.sortsBy_of_resolver hresolver hname⟩

/-- No column before that of `created_at` answers to its joined name. -/
theorem property_reaches_own_column_opened_on :
    let ticket : Entity :=
      ⟨"ticket", [⟨"id", "id"⟩, ⟨"created_at", "opened_on"⟩, ⟨"title", "title"⟩]⟩
    ticket.columnName? "createdAt" = some "opened_on" ∧
    ∀ mapping : ColumnMapping, mapping.resolver = some ticket.columnName? →
      mapping.SortsBy "createdAt" "opened_on" := by
  intro ticket
  have hcolumns : ticket.columns =
    [⟨"id", "id"⟩] ++ ⟨"created_at", "opened_on"⟩ :: [⟨"title", "title"⟩] := rfl
  have hproperty : "createdAt" = joinedWords "created_at" := by decide
  obtain ⟨d, -, -, hname, hown, hsorts⟩ :=
    property_reaches_own_column_iff (by decide) hcolumns (.inr hproperty)
  have hopened : d.name = "opened_on" := hown.2 (by decide)
  rw [hopened] at hname hsorts
  exact ⟨hname, hsorts⟩

/-- The fields of the entity have different names, and so have its columns, but a field is named
like the column of the field before it.  Its property is found there, and the clause orders by that
column. -/
theorem property_reaches_earlier_column :
    let swap : Entity := ⟨"swap", [⟨"id", "id"⟩, ⟨"first", "second"⟩, ⟨"second", "third"⟩]⟩
    let mapping := (ColumnMapping.insert {} "k" "second").withEntity swap
    (swap.columns.map Column.field).Nodup ∧ (swap.columns.map Column.name).Nodup ∧
    ⟨"second", "third"⟩ ∈ swap.columns ∧ swap.columnName? "second" = some "second" ∧
    mapping.resolve? "k" = some "second" ∧
    orderByClause mapping "id" (some ⟨0, 0, some "k"⟩) = .ok "ORDER BY second" := by
  decide

end Entity
end ListQuery
