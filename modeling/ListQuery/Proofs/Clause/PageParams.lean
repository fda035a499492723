import Mathlib.Algebra.Order.BigOperators.Group.List
import Mathlib.Algebra.Order.Group.Nat
import ListQuery.Proofs.Clause.Overwriting
import ListQuery.Proofs.Clause.Paging

/-!
# Filters under the names of the page

The parameters of filters are called after columns, and those of a page have two names of their own.
All of them are kept in one place, and nothing is reserved: if a column ends in the name of a
parameter of the page, the page replaces the value of its filter.  The text of the filters was
written before, so it is the number of the page that is bound there.

## What is here

* `values_boundFragments` — the values of filters are looked up under the names of their parameters.
* `bind_filterText` — the text of filters, bound with any values for their parameters.
* `flatMap_eq_iff` — lists that are put together from shorter parts are equal only if the parts are.
* `paging_keeps_values_iff` — **a page leaves the values of the filters as they were if and only if
  no filter has a name of the page**, apart from a list of the very number that replaces it.
-/

set_option autoImplicit false
namespace ListQuery

/-! ## What filters look up -/

section

variable {params others : Params} {filters : List (String × FilterValue)}

theorem boundFragments_congr (h : ∀ p ∈ filterParams filters, params.get? p.1 = others.get? p.1)
    (nullCheck : Bool) :
    filters.flatMap (boundFragments params nullCheck) =
      filters.flatMap (boundFragments others nullCheck) := by
  refine List.flatMap_congr fun f hf => ?_
  cases filterForm nullCheck f with
  | skipped hline _ _ | check _ _ hline _ _ => rw [boundFragments, boundFragments, hline]
  | comparison _ value _ hline hparam _ =>
    have hmem : (filterParam f.1, value) ∈ filterParams filters :=
      mem_filterParams_iff.2 ⟨f, hf, hparam, rfl⟩
    rw [boundFragments, boundFragments, hline, h _ hmem]

/-- **The values of filters are looked up** under the names of their parameters, one after the
other. -/
theorem values_boundFragments (params : Params) (nullCheck : Bool)
    (filters : List (String × FilterValue)) :
    Fragment.values (filters.flatMap (boundFragments params nullCheck)) =
      (filterParams filters).flatMap fun p =>
        ((params.get? p.1).map ParamValue.values).getD [] := by
  induction filters with
  | nil => rfl
  | cons filter filters ih =>
    rw [filterParams_cons, List.flatMap_append, List.flatMap_cons, Fragment.values_append, ih]
    congr 1
    cases filterForm nullCheck filter with
    | skipped hline hparam _ | check _ _ hline hparam _ =>
      simp [boundFragments, filterParams, hline, hparam, Fragment.values]
    | comparison _ value _ hline hparam _ =>
      have hone : filterParams [filter] = [(filterParam filter.1, value)] := by
        simp [filterParams, hparam]
      rw [boundFragments, hline, hone, List.flatMap_singleton]
      cases params.get? (filterParam filter.1) <;> simp [Fragment.values, values_expand]

/-- The text of filters is bound wherever their parameters have values, and to those values. -/
theorem bind_filterText {found : String × ParamValue → ParamValue}
    (hcolumns : ∀ f ∈ filters, IsPlainColumn f.1)
    (hfound : ∀ p ∈ filterParams filters, params.get? p.1 = some (found p))
    (initial : Params) (nullCheck : Bool) (backend : Backend) :
    let fragments := filters.flatMap (boundFragments params nullCheck)
    params.bind (appendFilters "" initial filters nullCheck).1 backend =
        .ok (Statement.ofFragments backend fragments) ∧
      Fragment.values fragments = (filterParams filters).flatMap fun p => (found p).values := by
  intro fragments
  obtain ⟨htext, -⟩ := appendFilters_eq "" initial filters nullCheck
  have hrenders : Renders params (appendFilters "" initial filters nullCheck).1.toList
      fragments := by
    rw [htext]
    refine .flatMap fun f hf =>
      renders_boundFragments (hcolumns f hf) (fun own hown => ?_) nullCheck
    have hmem : (filterParam f.1, own) ∈ filterParams filters :=
      mem_filterParams_iff.2 ⟨f, hf, hown, rfl⟩
    exact ⟨_, hfound _ hmem⟩
  refine ⟨hrenders.last.bind backend, ?_⟩
  rw [values_boundFragments]
  refine List.flatMap_congr fun p hp => ?_
  rw [hfound p hp]
  rfl

/-- With columns that end differently, each filter has its own parameter. -/
theorem get?_appendFilters_of_distinct (hdistinct : filters.Pairwise fun f g =>
      Text.sameAscii (filterParam f.1) (filterParam g.1) = false)
    (sql : String) (initial : Params) (nullCheck : Bool) {p : String × ParamValue}
    (hp : p ∈ filterParams filters) :
    (appendFilters sql initial filters nullCheck).2.get? p.1 = some p.2 := by
  have hnames : (filterParams filters).Pairwise fun p q => Text.sameAscii p.1 q.1 = false := by
    refine hdistinct.filterMap _ fun f g hfg p hp q hq => ?_
    obtain ⟨_, -, rfl⟩ := Option.map_eq_some_iff.1 hp
    obtain ⟨_, -, rfl⟩ := Option.map_eq_some_iff.1 hq
    exact hfg
  rw [(appendFilters_eq sql initial filters nullCheck).2]
  exact Params.get?_addAll_of_mem hnames initial hp

/-- A page does not bind more values in place of a filter than the filter has. -/
theorem length_values_getD_pageParam? (page : Option Page) {p : String × ParamValue}
    (hp : p ∈ filterParams filters) :
    ((pageParam? page p.1).getD p.2).values.length ≤ p.2.values.length := by
  cases hnumber : pageParam? page p.1 with
  | none => exact Nat.le_refl _
  | some number =>
    obtain ⟨f, -, hown, -⟩ := mem_filterParams_iff.1 hp
    rw [Option.getD_some, length_values_pageParam? hnumber]
    exact List.length_pos_iff.2 (p.2.values_ne_nil (FilterValue.param?_ne_empty hown))

end

/-! ## Equal lists of parts -/

/-- If no part is longer than its counterpart, none of them can make up for another. -/
theorem flatMap_eq_iff {α β : Type} {xs : List α} {f g : α → List β}
    (h : ∀ x ∈ xs, (f x).length ≤ (g x).length) :
    xs.flatMap f = xs.flatMap g ↔ ∀ x ∈ xs, f x = g x := by
  induction xs with
  | nil => exact ⟨fun _ => nofun, fun _ => rfl⟩
  | cons x xs ih =>
    have hx := h x List.mem_cons_self
    have hrest : ∀ y ∈ xs, (f y).length ≤ (g y).length := fun y hy =>
      h y (List.mem_cons_of_mem x hy)
    have hxs : (xs.flatMap f).length ≤ (xs.flatMap g).length := by
      rw [List.length_flatMap, List.length_flatMap]
      exact List.sum_le_sum hrest
    rw [List.forall_mem_cons, ← ih hrest, List.flatMap_cons, List.flatMap_cons]
    constructor
    · intro heq
      have hlength := congrArg List.length heq
      rw [List.length_append, List.length_append] at hlength
      exact List.append_inj heq (by omega)
    · rintro ⟨hfirst, hothers⟩
      rw [hfirst, hothers]

/-! ## Before and after -/

/-- **What a page does to filters.**  With plain columns that end differently, the text of the
filters is bound before there is a page and after.  Before, each parameter is bound to the values of
its filter.  After, those under a name of the page are bound to its number instead, and all others
are as before.  So the values stay as they were exactly if every filter under a name of the page is
a list of that number and nothing else, and without such filters the whole statement does. -/
theorem paging_keeps_values_iff {filters : List (String × FilterValue)}
    (hcolumns : ∀ f ∈ filters, IsPlainColumn f.1)
    (hdistinct : filters.Pairwise fun f g =>
      Text.sameAscii (filterParam f.1) (filterParam g.1) = false)
    (initial : Params) (nullCheck : Bool) (dialect : PagingDialect) (page : Option Page)
    (backend : Backend) :
    let appended := appendFilters "" initial filters nullCheck
    let paged := pagingClause dialect page appended.2
    ∃ before after : Statement,
      appended.2.bind appended.1 backend = .ok before ∧
      paged.2.bind appended.1 backend = .ok after ∧
      before.values = (filterParams filters).flatMap (fun p => p.2.values) ∧
      after.values =
        (filterParams filters).flatMap (fun p => ((pageParam? page p.1).getD p.2).values) ∧
      (after.values = before.values ↔ ∀ p ∈ filterParams filters,
        ∀ number, pageParam? page p.1 = some number → number.values = p.2.values) ∧
      ((∀ p ∈ filterParams filters, pageParam? page p.1 = none) → after = before) := by
  intro appended paged
  have hown : ∀ p ∈ filterParams filters, appended.2.get? p.1 = some p.2 := fun p hp =>
    get?_appendFilters_of_distinct hdistinct "" initial nullCheck hp
  have hpaged : ∀ p ∈ filterParams filters,
      paged.2.get? p.1 = some ((pageParam? page p.1).getD p.2) := fun p hp => by
    rw [get?_pagingClause, hown p hp]
    cases pageParam? page p.1 <;> rfl
  obtain ⟨hbefore, hbeforeValues⟩ := bind_filterText hcolumns hown initial nullCheck backend
  obtain ⟨hafter, hafterValues⟩ := bind_filterText hcolumns hpaged initial nullCheck backend
  refine ⟨_, _, hbefore, hafter, hbeforeValues, hafterValues, ?_, fun hnone => ?_⟩
  · show Fragment.values _ = Fragment.values _ ↔ _
    rw [hafterValues, hbeforeValues,
      flatMap_eq_iff fun p hp => length_values_getD_pageParam? page hp]
    refine forall₂_congr fun p _ => ?_
    cases pageParam? page p.1 <;> simp
  · refine congrArg (Statement.ofFragments backend)
      (boundFragments_congr (fun p hp => ?_) nullCheck)
    rw [hpaged p hp, hnone p hp, hown p hp, Option.getD_none]

/-- A list that is replaced by the number it consists of, behind a text under another name. -/
theorem paging_keeps_values_of_its_own_number :
    let filters : List (String × FilterValue) :=
      [("e.name", .text "Ada"), ("e.pagesize", .list [.int 10])]
    let appended := appendFilters "" {} filters false
    let paged := pagingClause .limitOffset (some ⟨0, 10, none⟩) appended.2
    ∃ before after : Statement,
      appended.2.bind appended.1 .postgres = .ok before ∧
      paged.2.bind appended.1 .postgres = .ok after ∧ after.values = before.values := by
  intro filters appended paged
  have hcolumns : ∀ f ∈ filters, IsPlainColumn f.1 := by decide +kernel
  have hdistinct : filters.Pairwise fun f g =>
      Text.sameAscii (filterParam f.1) (filterParam g.1) = false := by decide +kernel
  obtain ⟨before, after, hbefore, hafter, -, -, hiff, -⟩ := paging_keeps_values_iff hcolumns
    hdistinct {} false .limitOffset (some ⟨0, 10, none⟩) .postgres
  refine ⟨before, after, hbefore, hafter, hiff.2 fun p hp number hnumber => ?_⟩
  have hparams : filterParams filters =
      [("name", .scalar (.string "Ada")), ("pagesize", .list [.bigInt 10])] := rfl
  rw [hparams] at hp
  obtain rfl | rfl := List.mem_pair.1 hp
  · have hsize : Text.sameAscii pageSizeParam "name" = false := by
      rw [← Bool.not_eq_true, Text.sameAscii_iff_map]
      decide
    have hoffset : Text.sameAscii pageOffsetParam "name" = false := by
      rw [← Bool.not_eq_true, Text.sameAscii_iff_map]
      decide
    rw [pageParam?_of_others hsize hoffset] at hnumber
    cases hnumber
  · rw [pageParam?_of_size (Text.sameAscii_iff_map.2 (by decide))] at hnumber
    obtain rfl := Option.some.inj hnumber
    decide

/-- A text whose column ends in the name for the size of a page gives way to that size. -/
theorem page_size_replaces_text :
    let appended := appendFilters "" {} [("e.pagesize", .text "A4")] false
    let paged := pagingClause .limitOffset (some ⟨0, 10, none⟩) appended.2
    IsPlainColumn "e.pagesize" ∧
      (appended.2.bind appended.1 .sqlite).map Statement.values = .ok [.string "A4"] ∧
      (paged.2.bind appended.1 .sqlite).map Statement.values = .ok [.bigInt 10] := by
  intro appended paged
  refine ⟨by decide +kernel, by decide +kernel, ?_⟩
  have hcolumns : ∀ f ∈ [("e.pagesize", FilterValue.text "A4")], IsPlainColumn f.1 := by
    decide +kernel
  have hparams : filterParams [("e.pagesize", .text "A4")] =
      [("pagesize", .scalar (.string "A4"))] := rfl
  have hget : paged.2.get? "pagesize" = some (.scalar (.bigInt 10)) := by
    rw [get?_pagingClause, pageParam?_of_size (Text.sameAscii_iff_map.2 (by decide))]
    decide
  have hfound : ∀ p ∈ filterParams [("e.pagesize", .text "A4")],
      paged.2.get? p.1 = some (.scalar (.bigInt 10)) := by
    rw [hparams, List.forall_mem_singleton]
    exact hget
  obtain ⟨hbind, hvalues⟩ := bind_filterText hcolumns hfound {} false .sqlite
  rw [hbind]
  show Except.ok (Fragment.values _) = _
  rw [hvalues, hparams]
  rfl

end ListQuery
