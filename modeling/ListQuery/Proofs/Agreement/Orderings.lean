import ListQuery.Proofs.Clause.OrderBy
import ListQuery.Proofs.Query.Ordering
import ListQuery.Proofs.Text.Lower

/-!
# Ordering queries and ordering text

A sort text orders a query by way of a field map, and writes an `ORDER BY` clause by way of a column
mapping.  The one walks along paths, the other looks up whole keys.  Where the two know the same
names, they come to the same.

## What is here

* `SameKeys` — a field map and a mapping know the same paths.
* `ResolvedTerm` — a term with its field and its column, and what the two orderings make of it.
* `SortFailure` — the error that a sort text leads to: that of reading it, or that of the first of
  its terms that has no field.
* `term_agree`, `orderBySort_agree` — one term, and then all terms by induction on their list.
* `orderings_agree` — **the two orderings agree** for every sort text, on what they accept, on the
  order and the directions, and on the error they report.  They differ only on a text of blanks.
-/

set_option autoImplicit false
namespace ListQuery

variable {map : FieldMap} {mapping : ColumnMapping}

/-- A field map has a field for exactly those paths for whose keys a mapping has a column. -/
def SameKeys (map : FieldMap) (mapping : ColumnMapping) : Prop :=
  ∀ path, IsSortPath path →
    ((mapping.resolve? (Text.join '.' path)).isSome ↔ ∃ field, map.resolve path = .ok field)

/-- A term of a sort text with the field that its path leads to and the column of its key. -/
structure ResolvedTerm (map : FieldMap) (mapping : ColumnMapping) where
  term : SortTerm
  field : Field
  column : String
  field_eq : map.resolve term.path = .ok field
  column_eq : mapping.resolve? term.key = some column

namespace ResolvedTerm

/-- What a query is ordered by. -/
def orderKey (t : ResolvedTerm map mapping) : OrderKey :=
  ⟨t.field.column, t.term.direction⟩

/-- What is written in an ordering clause: the column, and `DESC` for descending order. -/
def piece (t : ResolvedTerm map mapping) : String :=
  orderPiece (t.column, t.term.direction)

theorem orderKey_eq (t : ResolvedTerm map mapping) :
    ListQuery.orderKey map t.term = .ok t.orderKey :=
  orderKey_eq_ok_iff.2 ⟨(t.field, t.term.direction), ⟨t.field_eq, rfl⟩, rfl⟩

theorem orderByPiece_eq (t : ResolvedTerm map mapping) :
    orderByPiece mapping t.term = .ok t.piece :=
  orderByPiece_eq_ok_iff.2 ⟨(t.column, t.term.direction), ⟨t.column_eq, rfl⟩, rfl⟩

end ResolvedTerm

/-- The error that the use of a sort text ends with. -/
inductive SortFailure (map : FieldMap) (sort : String) : QueryError → Prop
  /-- The text cannot be read. -/
  | unreadable {e : QueryError} (hparse : SortSpec.parse sort = .error e) : SortFailure map sort e
  /-- The first term without a field is reported under its key. -/
  | unresolved {spec : SortSpec} {before : List SortTerm} {term : SortTerm} {after : List SortTerm}
      (hparse : SortSpec.parse sort = .ok spec) (hterms : spec.terms = before ++ term :: after)
      (hbefore : ∀ t ∈ before, ∃ field, map.resolve t.path = .ok field)
      (hterm : map.resolve term.path = .error (.unresolvableField term.key)) :
      SortFailure map sort (.invalidSortField term.key (.unresolvableField term.key))

/-! ## One term -/

/-- **One term**: it has a field and a column, or it is refused twice for the same reason. -/
theorem term_agree (h : SameKeys map mapping) {term : SortTerm} (hpath : IsSortPath term.path) :
    (∃ r : ResolvedTerm map mapping, r.term = term ∧ orderKey map term = .ok r.orderKey ∧
        orderByPiece mapping term = .ok r.piece) ∨
      ∃ e, orderKey map term = .error e ∧ orderByPiece mapping term = .error e := by
  cases hfield : map.resolve term.path with
  | ok field =>
    obtain ⟨column, hcolumn⟩ := Option.isSome_iff_exists.1 ((h _ hpath).2 ⟨field, hfield⟩)
    let r : ResolvedTerm map mapping := ⟨term, field, column, hfield, hcolumn⟩
    exact Or.inl ⟨r, rfl, r.orderKey_eq, r.orderByPiece_eq⟩
  | error e =>
    obtain ⟨-, rfl⟩ := FieldMap.resolve_eq_error_iff.1 hfield
    have hcolumn : mapping.resolve? term.key = none := by
      rw [← Option.not_isSome_iff_eq_none]
      intro hsome
      obtain ⟨field, hok⟩ := (h _ hpath).1 hsome
      rw [hfield] at hok
      cases hok
    refine Or.inr ⟨_, orderKey_eq_error_iff.2 ⟨hfield, rfl⟩, ?_⟩
    rw [orderByPiece, hcolumn]

/-! ## All terms -/

/-- A sort text is followed as a whole, or refused as a whole for its first fault. -/
theorem orderBySort_agree (h : SameKeys map mapping) (q : Query) (sort : String) :
    (∃ spec, ∃ resolved : List (ResolvedTerm map mapping),
        SortSpec.parse sort = .ok spec ∧ resolved.map ResolvedTerm.term = spec.terms ∧
        q.orderByPath sort map = .ok { q with ordering := resolved.map ResolvedTerm.orderKey } ∧
        orderBySort mapping sort =
          .ok ("ORDER BY " ++ ", ".intercalate (resolved.map ResolvedTerm.piece))) ∨
      ∃ e, SortFailure map sort e ∧ q.orderByPath sort map = .error e ∧
        orderBySort mapping sort = .error e := by
  rw [q.orderByPath_eq_forTerms, orderBySort_eq_forTerms]
  cases hparse : SortSpec.parse sort with
  | error e =>
    exact Or.inr ⟨e, .unreadable hparse, SortSpec.forTerms_of_unreadable hparse,
      SortSpec.forTerms_of_unreadable hparse⟩
  | ok spec =>
    rw [SortSpec.forTerms_of_parse hparse, SortSpec.forTerms_of_parse hparse]
    have hterms := fun term (hterm : term ∈ spec.terms) =>
      term_agree h (SortSpec.isSortPath_of_parse hparse hterm)
    obtain ⟨resolved, horigin, hkeys, hpieces⟩ |
      ⟨before, term, after, e, hsplit, hbefore, hterm, hkeys, hpieces⟩ := mapM_together hterms
    · refine Or.inl ⟨spec, resolved, rfl, horigin, ?_, ?_⟩
      · rw [hkeys]
        rfl
      · rw [hpieces]
        rfl
    · obtain ⟨hresolve, rfl⟩ := orderKey_eq_error_iff.1 hterm
      have hearlier : ∀ t ∈ before, ∃ field, map.resolve t.path = .ok field := by
        intro t ht
        obtain ⟨key, hkey⟩ := hbefore t ht
        obtain ⟨chosen, ⟨hfield, -⟩, -⟩ := orderKey_eq_ok_iff.1 hkey
        exact ⟨chosen.1, hfield⟩
      refine Or.inr ⟨_, .unresolved hparse hsplit hearlier hresolve, ?_, ?_⟩
      · rw [hkeys]
        rfl
      · rw [hpieces]
        rfl

/-! ## Pages -/

theorem Query.applySorting_of_sort {page : Page} {sort : String} (hsort : page.sort = some sort)
    (hne : sort ≠ "") (q : Query) (map : FieldMap) (order : Option DefaultOrder) :
    q.applySorting (some page) map order = q.orderByPath sort map := by
  rw [applySorting, Option.bind_some, hsort]
  exact if_neg hne

/-- **The two orderings agree.**  Let a field map and a column mapping know the same paths.  A sort
text that says something either gives both of them one entry for each of its terms, in the order and
in the directions of the terms, or it is refused by both with the same error.  Without a sort text,
or with an empty one, both keep to their default order.  A text of blanks alone is none to the
clause, and refused for the query. -/
theorem orderings_agree (h : SameKeys map mapping) (q : Query) (order : Option DefaultOrder)
    (defaultSort : String) :
    (∀ (page : Page) (sort : String), page.sort = some sort → Text.isBlankText sort = false →
      (∃ spec, ∃ resolved : List (ResolvedTerm map mapping),
          SortSpec.parse sort = .ok spec ∧ resolved.map ResolvedTerm.term = spec.terms ∧
          q.orderByPath sort map = .ok { q with ordering := resolved.map ResolvedTerm.orderKey } ∧
          orderByClause mapping defaultSort (some page) =
            .ok ("ORDER BY " ++ ", ".intercalate (resolved.map ResolvedTerm.piece))) ∨
        ∃ e, SortFailure map sort e ∧ q.orderByPath sort map = .error e ∧
          orderByClause mapping defaultSort (some page) = .error e) ∧
    (∀ page : Option Page, page.bind Page.sort = none ∨ page.bind Page.sort = some "" →
      q.applySorting page map order = .ok (q.reordered (order.map DefaultOrder.keys)) ∧
        orderByClause mapping defaultSort page = .ok ("ORDER BY " ++ defaultSort)) ∧
    ∀ (page : Page) (sort : String), page.sort = some sort → sort ≠ "" →
      Text.isBlankText sort = true →
      q.applySorting (some page) map order = .error (.invalidSort .blank) ∧
        (QueryError.invalidSort .blank).message =
          "invalid sort specification: sort specification is empty" ∧
        orderByClause mapping defaultSort (some page) = .ok ("ORDER BY " ++ defaultSort) := by
  refine ⟨fun page sort hsort hblank => ?_, fun page hpage => ?_,
    fun page sort hsort hne hblank => ⟨?_, rfl, ?_⟩⟩
  · rw [orderByClause_of_sort hsort hblank]
    exact orderBySort_agree h q sort
  · rw [← q.applyDefault_eq order, Query.applySorting, orderByClause]
    obtain hnone | hempty := hpage
    · rw [hnone]
      exact ⟨rfl, rfl⟩
    · rw [hempty]
      exact ⟨if_pos rfl, if_pos rfl⟩
  · rw [q.applySorting_of_sort hsort hne, q.orderByPath_eq_forTerms]
    exact SortSpec.forTerms_of_unreadable (SortSpec.parse_of_isBlankText hblank)
  · rw [orderByClause, Option.bind_some, hsort]
    exact if_pos hblank

theorem orderings_agree_nested_and_resolved :
    let employees := FieldMap.ofEntity ⟨"employee", []⟩
    let departments := (FieldMap.ofEntity ⟨"department", []⟩).insert "code" ⟨"code", "code"⟩ .string
    let map := (employees.insert "name" ⟨"name", "full_name"⟩ .string).nest "department" departments
    let mapping := ((ColumnMapping.insert {} "name" "name").insert "department.code" "d.code")
      |>.withResolver fun property => if property = "name" then some "full_name" else none
    let page : Page := ⟨0, 10, some "-Department.code, name"⟩
    let q := Query.all (.select ⟨"employee", []⟩)
    SameKeys map mapping ∧ ∃ resolved : List (ResolvedTerm map mapping),
      resolved.map ResolvedTerm.term =
        [⟨["Department", "code"], .descending⟩, ⟨["name"], .ascending⟩] ∧
      q.orderByPath "-Department.code, name" map =
        .ok { q with ordering := resolved.map ResolvedTerm.orderKey } ∧
      orderByClause mapping "e.id" (some page) =
        .ok ("ORDER BY " ++ ", ".intercalate (resolved.map ResolvedTerm.piece)) := by
  intro employees departments map mapping page q
  have hkeys : SameKeys map mapping := by
    intro path hpath
    have hlower : Text.lower "department.code" = "department.code" ∧ Text.lower "name" = "name" ∧
        Text.lower "department" = "department" ∧ Text.lower "code" = "code" := by decide
    obtain ⟨hlong, hname, hdepartment, hcode⟩ := hlower
    have hkey : (mapping.resolve? (Text.join '.' path)).isSome ↔
        path.map Text.lower = ["department", "code"] ∨ path.map Text.lower = ["name"] := by
      have hpieces : ∀ key : String, 'σ' ∉ key.toList → 'ς' ∉ key.toList →
          (Text.lower (Text.join '.' path) = key ↔ path.map Text.lower = Text.pieces '.' key) :=
        fun _ hsmall hfinal => Text.lower_join_eq_iff hpath.ne_nil hpath.no_dot hsmall hfinal
      have htwo : Text.pieces '.' "department.code" = ["department", "code"] := by decide
      have hone : Text.pieces '.' "name" = ["name"] := by decide
      rw [← htwo, ← hone, ← hpieces _ (by decide) (by decide), ← hpieces _ (by decide) (by decide)]
      simp only [mapping, ColumnMapping.withResolver, ColumnMapping.resolve?, ColumnMapping.insert,
        Option.isSome_map, NameTable.get?_insert, hlong, hname]
      split
      · next h => exact iff_of_true rfl (Or.inl h)
      · next hne =>
        split
        · next h => exact iff_of_true rfl (Or.inr h)
        · next hne' => exact iff_of_false Bool.false_ne_true (not_or.2 ⟨hne, hne'⟩)
    have hfield : (∃ field, map.resolve path = .ok field) ↔
        path.map Text.lower = ["department", "code"] ∨ path.map Text.lower = ["name"] := by
      simp only [FieldMap.resolve_eq_ok_iff, ← Option.isSome_iff_exists]
      rcases path with _ | ⟨first, _ | ⟨second, rest⟩⟩
      · simp [FieldMap.find?]
      · simp only [map, employees, FieldMap.find?_nest_own, FieldMap.find?_insert,
          FieldMap.find?_ofEntity, hname]
        split <;> simp_all
      · simp only [map, employees, departments, FieldMap.find?_nest, FieldMap.find?_insert,
          FieldMap.find?_ofEntity, hname, hdepartment, hcode]
        split <;> simp_all
    rw [hkey, hfield]
  have hok : orderByClause mapping "e.id" (some page) = .ok "ORDER BY d.code DESC, full_name" := by
    decide
  refine ⟨hkeys, ?_⟩
  obtain ⟨spec, resolved, hparse, hterms, hquery, hclause⟩ | ⟨e, -, -, herror⟩ :=
    (orderings_agree hkeys q none "e.id").1 page "-Department.code, name" rfl (by decide)
  · rw [SortSpec.terms_of_parse hparse] at hterms
    exact ⟨resolved, hterms.trans (by decide), hquery, hclause⟩
  · rw [hok] at herror
    cases herror

end ListQuery
