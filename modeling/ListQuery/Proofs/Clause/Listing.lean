import ListQuery.Proofs.Clause.Filters
import ListQuery.Proofs.Clause.OrderBy
import ListQuery.Proofs.Clause.Paging

/-!
# The query of a listing

A listing is a page of the rows that a base query finds, filtered and ordered as the client asks.
Its text is written in four places that share nothing but the text itself and the names of the
parameters.

## What is here

* `Listing` — all that a listing is made from.  `Listing.text` and `Listing.params` are the text
  and the parameters that come of it.
* `Listing.Sound` — what the base text, the columns and the names of the parameters must be like.
* `Listing.fragments`, `Listing.values` — the statement of a listing, written down directly.
* `Listing.bind_text` — **the text of a sound listing is bound to that statement** on every
  database.
-/

set_option autoImplicit false
namespace ListQuery

/-- All that a listing is made from. -/
structure Listing where
  base : String
  filters : List (String × FilterValue)
  nullCheck : Bool
  mapping : ColumnMapping
  defaultSort : String
  page : Option Page
  dialect : PagingDialect

namespace Listing

/-! ## What is written -/

/-- The base text with the filters, and their parameters. -/
def filtered (l : Listing) : String × Params :=
  appendFilters l.base {} l.filters l.nullCheck

/-- The paging clause, and all parameters. -/
def paging (l : Listing) : String × Params :=
  pagingClause l.dialect l.page l.filtered.2

/-- The text of a listing whose ordering clause is `order`. -/
def text (l : Listing) (order : String) : String :=
  l.filtered.1 ++ order ++ "\n" ++ l.paging.1

/-- The parameters of a listing. -/
def params (l : Listing) : Params :=
  l.paging.2

/-- The base text is complete, no text that is taken over has a special character, and the
parameters have names of their own. -/
structure Sound (l : Listing) : Prop where
  line : l.base.toList.getLast? = some '\n'
  /-- Every quoted run and every block comment is closed. -/
  closed : (Region.after (.code .none) l.base.toList).isOpen = false
  unmentioned : ∀ name, .reference name ∉ atoms l.base
  columns : ∀ f ∈ l.filters, QuietText f.1
  mapping : l.mapping.IsQuiet
  defaultSort : QuietText l.defaultSort
  names : ∀ p ∈ filterParams l.filters, IsName p.1
  distinct : (filterParams l.filters).Pairwise fun p q => Text.sameAscii p.1 q.1 = false
  /-- No parameter of a filter has the name of one of the page. -/
  reserved : ∀ p ∈ filterParams l.filters,
    Text.sameAscii p.1 pageOffsetParam = false ∧ Text.sameAscii p.1 pageSizeParam = false

/-! ## What comes of it -/

/-- The statement of a listing in fragments. -/
def fragments (l : Listing) (order : String) : List Fragment :=
  .text l.base :: l.filters.flatMap (filterFragments l.nullCheck) ++
    ([.text order, .text "\n"] ++ (l.page.map l.dialect.fragments).getD [])

/-- The values of the filters, and those of the page. -/
def values (l : Listing) : List SqlValue :=
  l.filters.flatMap (fun f => f.2.bound) ++ (l.page.map l.dialect.values).getD []

theorem values_fragments (l : Listing) (order : String) :
    Fragment.values (l.fragments order) = l.values := by
  have hfilters : Fragment.values (l.filters.flatMap (filterFragments l.nullCheck)) =
      l.filters.flatMap fun f => f.2.bound := by
    rw [Fragment.values_flatMap]
    simp only [values_filterFragments]
  have hpage : Fragment.values ((l.page.map l.dialect.fragments).getD []) =
      (l.page.map l.dialect.values).getD [] := by
    cases l.page with
    | none => rfl
    | some page => exact l.dialect.values_fragments page
  rw [fragments, values, Fragment.values_append, Fragment.values, hfilters, Fragment.values_append,
    hpage]
  rfl

/-! ## Parameters -/

variable {l : Listing}

theorem filtered_eq (l : Listing) :
    l.filtered.1.toList =
        l.base.toList ++ l.filters.flatMap (fun f => (filterText l.nullCheck f).toList) ∧
      l.filtered.2 = Params.addAll {} (filterParams l.filters) :=
  appendFilters_eq l.base {} l.filters l.nullCheck

/-- The parameters of the page do not get in the way of those of the filters. -/
theorem get?_params (h : l.Sound) {p : String × ParamValue} (hp : p ∈ filterParams l.filters) :
    l.params.get? p.1 = some p.2 := by
  have hfilter : l.filtered.2.get? p.1 = some p.2 := by
    rw [(filtered_eq l).2]
    exact Params.get?_addAll_of_mem h.distinct {} hp
  obtain ⟨hoffset, hsize⟩ := h.reserved p hp
  rw [Text.sameAscii_comm] at hoffset hsize
  rw [params, paging, get?_pagingClause, pageParam?_of_others hsize hoffset, hfilter,
    Option.none_or]

/-! ## The pieces of the text -/

theorem renders_filters (h : l.Sound) :
    Renders l.params (l.filters.flatMap fun f => (filterText l.nullCheck f).toList)
      (l.filters.flatMap (filterFragments l.nullCheck)) := by
  refine Renders.flatMap fun f hf => ?_
  refine renders_filter (h.columns f hf) (fun value hvalue => ?_) l.nullCheck
  have hmem : (filterParam f.1, value) ∈ filterParams l.filters :=
    List.mem_filterMap.2 ⟨f, hf, by rw [hvalue]; rfl⟩
  have hname := h.names (filterParam f.1, value) hmem
  have hfound := get?_params h hmem
  exact ⟨hname, hfound⟩

theorem rendersLast_paging (l : Listing) :
    RendersLast l.params l.paging.1.toList ((l.page.map l.dialect.fragments).getD []) := by
  rw [params, paging]
  cases l.page with
  | none => exact Renders.nil.last
  | some page =>
    rw [pagingClause]
    refine renders_clause ?_ (Params.get?_add_self _ _ _) l.dialect
    rw [Params.get?_add_of_other pageSizeParam_ne_pageOffsetParam, Params.get?_add_self]

/-- **The text of a listing is bound to its statement.**  The text is put together from a base
query, filters, an ordering and a page, and binding takes it apart again without a mistake: it
succeeds on every database, the SQL is that of the fragments, and the values are those of the
filters in their order with the numbers of the page behind them. -/
theorem bind_text (h : l.Sound) {order : String}
    (horder : orderByClause l.mapping l.defaultSort l.page = .ok order) (backend : Backend) :
    l.params.bind (l.text order) backend =
        .ok ⟨String.join (Fragment.texts backend 0 (l.fragments order)), l.values, backend⟩ ∧
      ∀ n : UInt64, (saturate n).toInt = min (n.toNat : Int) Int64.maxValue.toInt := by
  refine ⟨?_, toInt_saturate⟩
  have hbase : Renders l.params l.base.toList [.text l.base] :=
    renders_closed h.line h.closed h.unmentioned
  have hsorted : Renders l.params order.toList [.text order] :=
    renders_text (quietText_orderByClause h.mapping h.defaultSort horder)
  have hnewline : Renders l.params "\n".toList [.text "\n"] := renders_text (by decide)
  have hlast := (hbase.append (renders_filters h)).append_last
    ((hsorted.append hnewline).append_last (rendersLast_paging l))
  have htext : (l.text order).toList =
      l.base.toList ++ l.filters.flatMap (fun f => (filterText l.nullCheck f).toList) ++
        (order.toList ++ "\n".toList ++ l.paging.1.toList) := by
    rw [text, String.toList_append, String.toList_append, String.toList_append, (filtered_eq l).1]
    simp only [List.append_assoc]
  rw [← htext] at hlast
  rw [hlast.bind backend, Statement.ofFragments, ← values_fragments l order]
  rfl

theorem bind_text_page_of_names :
    let l : Listing := ⟨"SELECT '@x'\n",
      [("e.name", .text " Ada"), ("code", .list [.text "a", .int 2]), ("e.left", .flag false)],
      true, ColumnMapping.insert {} "id" "e.id", "e.id", some ⟨20, 10, some "-id"⟩, .limitOffset⟩
    l.params.bind (l.text "ORDER BY e.id DESC") .postgres =
      .ok ⟨String.join (Fragment.texts .postgres 0 (l.fragments "ORDER BY e.id DESC")),
        [.string " Ada", .string "a", .bigInt 2, .bigInt 10, .bigInt 20], .postgres⟩ := by
  intro l
  have hparams : filterParams l.filters =
      [("name", .scalar (.string " Ada")), ("code", .list [.string "a", .bigInt 2])] := rfl
  have hatoms : atoms "SELECT '@x'\n" = "SELECT ".toList.map (.copied · false) ++
      [.copied '\'' false, .copied '@' true, .copied 'x' true, .copied '\'' true,
        .copied '\n' false] := by decide
  have hline : "SELECT '@x'\n".toList.getLast? = some '\n' := by decide
  have hclosed : (Region.after (.code .none) "SELECT '@x'\n".toList).isOpen = false := by decide
  have hunmentioned : ∀ name, .reference name ∉ atoms "SELECT '@x'\n" := by
    rw [hatoms]
    simp
  have hmapping : (ColumnMapping.insert {} "id" "e.id").IsQuiet := by
    intro key column h
    rw [ColumnMapping.resolve?, ColumnMapping.insert, NameTable.get?_insert] at h
    split at h
    · cases h
      decide
    · cases h
  have hsound : l.Sound := by
    refine ⟨hline, hclosed, hunmentioned, by decide, hmapping, by decide, ?_, ?_, ?_⟩
    · rw [hparams]
      decide
    · rw [hparams, List.pairwise_pair]
      decide +kernel
    · rw [hparams]
      intro p hp
      obtain rfl | rfl := List.mem_pair.1 hp
      · decide +kernel
      · decide +kernel
  have horder : orderByClause l.mapping l.defaultSort l.page = .ok "ORDER BY e.id DESC" := by
    decide
  exact (bind_text hsound horder .postgres).1

end Listing
end ListQuery
