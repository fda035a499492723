import ListQuery.Proofs.Clause.ColumnMapping
import ListQuery.Proofs.Clause.OrderBy
import ListQuery.Proofs.Query.Conditions
import ListQuery.Proofs.Query.Ordering

/-!
# Only registered columns

Clients choose columns by texts of their own, and any character may stand in these texts.  What
becomes part of a query or of SQL text are the columns that the server has registered: the names of
the client are looked up and then forgotten.

* `registered_of_isConditionOf` — a condition tests the column of a registered field.
* `columns_registered` — **all columns come from the histories of the maps**, for orderings and
  conditions of queries and for `ORDER BY` clauses, and a term that no registration answers makes
  the whole clause fail.
-/

set_option autoImplicit false
namespace ListQuery

theorem FieldMap.History.resolve_map_eq_ok_iff {fields : FieldMap.History} {path : List String}
    {field : Field} :
    fields.map.resolve path = .ok field ↔ fields.Registers path field :=
  FieldMap.resolve_eq_ok_iff.trans FieldMap.History.find?_map

theorem registered_of_isConditionOf {fields : FieldMap.History} {term : String × FilterValue}
    {condition : Condition} (h : IsConditionOf fields.map term condition) :
    ∃ field, fields.Registers (Text.pieces '.' term.1) field ∧ condition.column = field.column := by
  obtain ⟨field, hfield, hcolumn, -⟩ := h
  exact ⟨field, FieldMap.History.resolve_map_eq_ok_iff.1 hfield, hcolumn⟩

/-- What is written for a term is the column that was given last to its key. -/
theorem orderByPiece_mapping_eq_ok_iff {columns : ColumnMapping.History} {term : SortTerm}
    {piece : String} :
    orderByPiece columns.mapping term = .ok piece ↔
      ∃ chosen : String × Direction,
        (columns.inserted? term.key = some chosen.1 ∧ chosen.2 = term.direction) ∧
          piece = orderPiece (columns.stored chosen.1, chosen.2) := by
  rw [orderByPiece_eq_ok_iff, ColumnMapping.History.resolve?_mapping]
  constructor
  · rintro ⟨⟨name, direction⟩, ⟨hname, hdirection⟩, rfl⟩
    obtain ⟨column, hcolumn, hstored⟩ := Option.map_eq_some_iff.1 hname
    refine ⟨(column, direction), ⟨hcolumn, hdirection⟩, ?_⟩
    rw [hstored]
  · rintro ⟨⟨column, direction⟩, ⟨hcolumn, hdirection⟩, rfl⟩
    refine ⟨(columns.stored column, direction), ⟨?_, hdirection⟩, rfl⟩
    rw [hcolumn]
    rfl

/-- A clause for a sort text that says something is made of registrations, one for each term. -/
theorem orderByClause_mapping_eq_ok_iff {columns : ColumnMapping.History} {defaultSort : String}
    {page : Page} {sort text : String} (hsort : page.sort = some sort)
    (hblank : Text.isBlankText sort = false) :
    orderByClause columns.mapping defaultSort (some page) = .ok text ↔
      ∃ spec, SortSpec.parse sort = .ok spec ∧ ∃ chosen : List (String × Direction),
        List.Forall₂ (fun term c => columns.inserted? term.key = some c.1 ∧ c.2 = term.direction)
          spec.terms chosen ∧
        text = "ORDER BY " ++
          ", ".intercalate (chosen.map fun c => orderPiece (columns.stored c.1, c.2)) := by
  rw [orderByClause_of_sort hsort hblank, orderBySort_eq_forTerms]
  exact SortSpec.forTerms_eq_ok_iff fun _ _ => orderByPiece_mapping_eq_ok_iff

/-- A term with a key to which no column was given leaves no clause. -/
theorem orderByClause_mapping_of_missing {columns : ColumnMapping.History} (defaultSort : String)
    {page : Page} {sort : String} (hsort : page.sort = some sort)
    (hblank : Text.isBlankText sort = false) {spec : SortSpec}
    (hparse : SortSpec.parse sort = .ok spec) {term : SortTerm} (hterm : term ∈ spec.terms)
    (hnone : columns.inserted? term.key = none) :
    ∃ e, orderByClause columns.mapping defaultSort (some page) = .error e := by
  cases h : orderByClause columns.mapping defaultSort (some page) with
  | error e => exact ⟨e, rfl⟩
  | ok text =>
    obtain ⟨spec', hparse', chosen, hchosen, -⟩ :=
      (orderByClause_mapping_eq_ok_iff hsort hblank).1 h
    obtain rfl : spec = spec' := Except.ok.inj (hparse.symm.trans hparse')
    obtain ⟨c, -, hsome, -⟩ := exists_right_of_mem hchosen hterm
    rw [hnone] at hsome
    cases hsome

/-- **All columns come from registrations.**  Let a field map and a column mapping have come about
in any way.

A query is ordered by a sort text only through fields that were registered at the paths of its
terms, one for each term and in its direction, and nothing else in the query changes.  The
conditions of filter terms, one for each applied term, test columns of fields that were registered
at the names of the terms.

An ordering clause for a sort text that says something consists of one column for each term, with
`DESC` behind it for descending terms: the column that was given last to the key of the term, as
the resolver names it.  It is the same text for all sort texts that choose the same registrations in
the same directions; and where a term has a key to which no column was given, there is no clause. -/
theorem columns_registered (fields : FieldMap.History) (columns : ColumnMapping.History) :
    (∀ (q q' : Query) (sort : String), q.orderByPath sort fields.map = .ok q' ↔
      ∃ spec, SortSpec.parse sort = .ok spec ∧ ∃ chosen : List (Field × Direction),
        List.Forall₂ (fun term c => fields.Registers term.path c.1 ∧ c.2 = term.direction)
          spec.terms chosen ∧
        q' = { q with ordering := chosen.map fun c => ⟨c.1.column, c.2⟩ }) ∧
    (∀ {α : Type} [FilterObject α] (filter : α) (excluded : List String)
      (conditions : List Condition),
      filterCondition filter fields.map excluded = .ok (some conditions) →
        List.Forall₂ (fun term condition => ∃ field,
            fields.Registers (Text.pieces '.' term.1) field ∧ condition.column = field.column)
          ((FilterObject.terms filter).filter (isApplied excluded)) conditions) ∧
    ∀ (defaultSort : String) (page : Page) (sort : String), page.sort = some sort →
      Text.isBlankText sort = false →
      (∀ text, orderByClause columns.mapping defaultSort (some page) = .ok text ↔
        ∃ spec, SortSpec.parse sort = .ok spec ∧ ∃ chosen : List (String × Direction),
          List.Forall₂ (fun term c => columns.inserted? term.key = some c.1 ∧ c.2 = term.direction)
            spec.terms chosen ∧
          text = "ORDER BY " ++
            ", ".intercalate (chosen.map fun c => orderPiece (columns.stored c.1, c.2))) ∧
      ∀ spec, SortSpec.parse sort = .ok spec →
        (∃ term ∈ spec.terms, columns.inserted? term.key = none) →
        ∃ e, orderByClause columns.mapping defaultSort (some page) = .error e := by
  refine ⟨fun q q' sort => ?_, fun filter excluded conditions h => ?_,
    fun defaultSort page sort hsort hblank => ?_⟩
  · simp only [← FieldMap.History.resolve_map_eq_ok_iff]
    exact Query.orderByPath_eq_ok_iff
  · obtain ⟨found, hfound, hconditions⟩ := filterCondition_eq_ok_iff.1 h
    obtain rfl := conjunction_eq_some hconditions.symm
    exact hfound.imp fun _ _ => registered_of_isConditionOf
  · refine ⟨fun text => orderByClause_mapping_eq_ok_iff hsort hblank, ?_⟩
    rintro spec hparse ⟨term, hterm, hnone⟩
    exact orderByClause_mapping_of_missing defaultSort hsort hblank hparse hterm hnone

theorem columns_registered_replaced_and_resolved :
    let units := (FieldMap.History.ofEntity ⟨"unit", []⟩).insert "code" ⟨"code", "code"⟩ .string
    let departments := (FieldMap.History.ofEntity ⟨"department", []⟩).insert
      "CODE" ⟨"code", "short_code"⟩ .string
    let employees := ((FieldMap.History.ofEntity ⟨"employee", []⟩).insert
      "name" ⟨"name", "name"⟩ .string).insert "Name" ⟨"name", "full_name"⟩ .string
    let fields := (employees.nest "department" units).nest "Department" departments
    let keys := (ColumnMapping.History.empty.insert "name" "name").insert "NAME" "fullName"
    let columns := (keys.insert "department.code" "d.code").withResolver fun property =>
      if property = "fullName" then some "full_name" else none
    let q := Query.all (.select ⟨"employee", []⟩)
    let page : Page := ⟨0, 10, some "-department.Code, name"⟩
    q.orderByPath "-department.Code, name" fields.map = .ok { q with ordering :=
      [⟨⟨"department", "short_code"⟩, .descending⟩, ⟨⟨"employee", "full_name"⟩, .ascending⟩] } ∧
    (∀ conditions : List Condition, filterCondition [("department.code", FilterValue.text "' OR 1")]
      fields.map [] = .ok (some conditions) → ∃ condition, conditions = [condition] ∧
        ∃ field, fields.Registers ["department", "code"] field ∧
          condition.column = field.column) ∧
    orderByClause columns.mapping "e.id" (some page) = .ok "ORDER BY d.code DESC, full_name" ∧
    ∃ e, orderByClause columns.mapping "e.id" (some (page.withSort "name,1;DROP TABLE t")) =
      .error e := by
  intro units departments employees fields keys columns q page
  obtain ⟨hquery, hconditions, hclause⟩ := columns_registered fields columns
  refine ⟨?_, fun conditions h => ?_, ?_, ?_⟩
  · refine (hquery q _ _).2
      ⟨⟨[⟨["department", "Code"], .descending⟩, ⟨["name"], .ascending⟩], List.cons_ne_nil _ _⟩,
        by decide, [(⟨⟨"department", "short_code"⟩, .string⟩, .descending),
          (⟨⟨"employee", "full_name"⟩, .string⟩, .ascending)],
        .cons ⟨?_, rfl⟩ (.cons ⟨?_, rfl⟩ .nil), rfl⟩
    · have hbelow : fields.nested? "department" = some departments := rfl
      exact .related hbelow (.own (by decide))
    · exact .own (by decide)
  · obtain ⟨condition, rest, hcolumn, hrest, rfl⟩ :=
      List.forall₂_cons_left_iff.1 (hconditions _ _ _ h)
    cases hrest
    exact ⟨condition, rfl, hcolumn⟩
  · refine ((hclause "e.id" page _ rfl (by decide)).1 _).2
      ⟨⟨[⟨["department", "Code"], .descending⟩, ⟨["name"], .ascending⟩], List.cons_ne_nil _ _⟩,
        by decide, [("d.code", .descending), ("fullName", .ascending)],
        .cons ⟨by decide, rfl⟩ (.cons ⟨by decide, rfl⟩ .nil), by decide⟩
  · refine (hclause "e.id" (page.withSort "name,1;DROP TABLE t") _ rfl (by decide)).2
      ⟨[⟨["name"], .ascending⟩, ⟨["1;DROP TABLE t"], .ascending⟩], List.cons_ne_nil _ _⟩
      (by decide) ⟨_, List.mem_cons_of_mem _ List.mem_cons_self, by decide⟩

end ListQuery
