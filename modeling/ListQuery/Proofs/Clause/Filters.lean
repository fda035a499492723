import ListQuery.Clause.Filters
import ListQuery.Proofs.Params.History
import ListQuery.Proofs.Scanning.Rendering

/-!
# Filters in a statement

A filter is written twice: its value goes into the parameters, and a line that mentions the name of
the parameter goes into the text.  Binding has to bring the two together again.

## What is here

* `FilterValue.param?`, `filterParams` — the parameters of filters: texts as they were given, lists
  element by element, and nothing for the others.
* `filterFragments` — what a filter becomes in a statement.
* `FilterForm` — a filter is skipped, or written as a check, or as a comparison with a parameter.
* `appendFilters_eq` — what is appended, as a text and a list of parameters.
* `renders_filter` — **the line of a filter is bound to the value of the filter**, as long as its
  parameter is still there.
-/

set_option autoImplicit false
namespace ListQuery

/-! ## What is appended -/

/-- The parameter of a filter value: texts and lists have one if they are active. -/
def FilterValue.param? : FilterValue → Option ParamValue
  | .text s => if Text.isBlankText s then none else some (.scalar (.string s))
  | .list items => if items.isEmpty then none else some (.list (items.map Scalar.value))
  | .null | .flag _ => none

/-- The parameters of filters, in order. -/
def filterParams (filters : List (String × FilterValue)) : List (String × ParamValue) :=
  filters.filterMap fun f => f.2.param?.map fun value => (filterParam f.1, value)

/-- The text that a filter adds. -/
def filterText (nullCheck : Bool) (filter : String × FilterValue) : String :=
  ((filterLine nullCheck filter.1 filter.2).map Prod.fst).getD ""

theorem filterText_of_inactive {filter : String × FilterValue} (h : filter.2.isActive = false)
    (nullCheck : Bool) : filterText nullCheck filter = "" := by
  rw [filterText, filterLine.eq_def, h]
  rfl

theorem FilterValue.param?_of_inactive {value : FilterValue} (h : value.isActive = false) :
    value.param? = none := by
  cases value with
  | null => rfl
  | flag present => rfl
  | text s =>
    rw [isActive, Bool.not_eq_false'] at h
    exact if_pos h
  | list items =>
    rw [isActive, Bool.not_eq_false'] at h
    exact if_pos h

theorem FilterValue.isActive_list {items : List Scalar} (h : items.length ≠ 0) :
    (FilterValue.list items).isActive = true := by
  cases items with
  | nil => exact absurd rfl h
  | cons item items => rfl

/-- An active text is its parameter as it was given. -/
theorem FilterValue.param?_text {s : String} (h : (FilterValue.text s).isActive = true) :
    (FilterValue.text s).param? = some (.scalar (.string s)) := by
  rw [isActive, Bool.not_eq_true'] at h
  exact if_neg (by rw [h]; exact Bool.false_ne_true)

theorem FilterValue.param?_list {items : List Scalar}
    (h : (FilterValue.list items).isActive = true) :
    (FilterValue.list items).param? = some (.list (items.map Scalar.value)) := by
  rw [isActive, Bool.not_eq_true'] at h
  exact if_neg (by rw [h]; exact Bool.false_ne_true)

/-- What a filter becomes in a statement. -/
def filterFragments (nullCheck : Bool) (filter : String × FilterValue) : List Fragment :=
  if filter.2.isActive then
    match filter.2 with
    | .null => []
    | .text s => [.text ("  AND " ++ filter.1 ++ " = "), .value (.string s), .text "\n"]
    | .list items =>
      .text ("  AND " ++ filter.1 ++ " IN ") ::
        (Fragment.parenthesised (items.map Scalar.value) ++ [.text "\n"])
    | .flag present =>
      if nullCheck then
        [.text ("  AND " ++ filter.1 ++ (if present then " IS NOT NULL" else " IS NULL") ++ "\n")]
      else []
  else []

/-- The ways in which a filter can be written. -/
inductive FilterForm (nullCheck : Bool) (filter : String × FilterValue) : Prop
  /-- Not at all. -/
  | skipped (hline : filterLine nullCheck filter.1 filter.2 = none)
      (hparam : filter.2.param? = none) (hfragments : filterFragments nullCheck filter = [])
  /-- As a line without a parameter. -/
  | check (test : String) (htest : QuietText test)
      (hline : filterLine nullCheck filter.1 filter.2 = some ("  AND " ++ filter.1 ++ test, none))
      (hparam : filter.2.param? = none)
      (hfragments : filterFragments nullCheck filter = [.text ("  AND " ++ filter.1 ++ test)])
  /-- As a line that compares the column with a parameter. -/
  | comparison (operator : String) (value : ParamValue) (hoperator : QuietText operator)
      (hline : filterLine nullCheck filter.1 filter.2 =
        some ("  AND " ++ filter.1 ++ operator ++ "@" ++ filterParam filter.1 ++ "\n", some value))
      (hparam : filter.2.param? = some value)
      (hfragments : filterFragments nullCheck filter =
        .text ("  AND " ++ filter.1 ++ operator) :: (Params.expand value ++ [.text "\n"]))

theorem filterForm (nullCheck : Bool) (filter : String × FilterValue) :
    FilterForm nullCheck filter := by
  obtain ⟨column, value⟩ := filter
  cases value with
  | null => exact .skipped rfl rfl rfl
  | text s =>
    by_cases h : Text.isBlankText s
    · exact .skipped (by simp [filterLine, FilterValue.isActive, h])
        (by simp [FilterValue.param?, h]) (by simp [filterFragments, FilterValue.isActive, h])
    · refine .comparison " = " (.scalar (.string s)) (by decide) ?_
        (by simp [FilterValue.param?, h])
        (by simp [filterFragments, FilterValue.isActive, h, Params.expand])
      simp [filterLine, FilterValue.isActive, h, String.append_assoc]
  | flag present =>
    cases nullCheck with
    | false => exact .skipped rfl rfl rfl
    | true =>
      have htest : QuietText ((if present then " IS NOT NULL" else " IS NULL") ++ "\n") := by
        cases present <;> decide
      refine .check _ htest ?_ rfl ?_
      · simp [filterLine, FilterValue.isActive, String.append_assoc]
      · simp [filterFragments, FilterValue.isActive, String.append_assoc]
  | list items =>
    cases items with
    | nil => exact .skipped rfl rfl rfl
    | cons item items =>
      refine .comparison " IN " (.list ((item :: items).map Scalar.value)) (by decide) ?_ rfl rfl
      simp [filterLine, FilterValue.isActive, String.append_assoc]

theorem appendFilter_eq (nullCheck : Bool) (state : String × Params)
    (filter : String × FilterValue) :
    appendFilter nullCheck state filter =
      (state.1 ++ filterText nullCheck filter, state.2.addAll (filterParams [filter])) := by
  cases filterForm nullCheck filter with
  | skipped hline hparam _ =>
    simp [appendFilter, filterText, filterParams, Params.addAll, hline, hparam]
  | check _ _ hline hparam _ =>
    simp [appendFilter, filterText, filterParams, Params.addAll, hline, hparam]
  | comparison _ _ _ hline hparam _ =>
    simp [appendFilter, filterText, filterParams, Params.addAll, hline, hparam]

theorem filterParams_cons (filter : String × FilterValue)
    (filters : List (String × FilterValue)) :
    filterParams (filter :: filters) = filterParams [filter] ++ filterParams filters := by
  rw [← List.singleton_append, filterParams, List.filterMap_append]
  rfl

/-- **What filters append**: their lines to the text and their values to the parameters. -/
theorem appendFilters_eq (sql : String) (params : Params) (filters : List (String × FilterValue))
    (nullCheck : Bool) :
    (appendFilters sql params filters nullCheck).1.toList =
        sql.toList ++ filters.flatMap (fun f => (filterText nullCheck f).toList) ∧
      (appendFilters sql params filters nullCheck).2 = params.addAll (filterParams filters) := by
  induction filters generalizing sql params with
  | nil => exact ⟨(List.append_nil _).symm, rfl⟩
  | cons filter filters ih =>
    obtain ⟨htext, hparams⟩ :=
      ih (sql ++ filterText nullCheck filter) (params.addAll (filterParams [filter]))
    have hstep : appendFilters sql params (filter :: filters) nullCheck =
        appendFilters (sql ++ filterText nullCheck filter)
          (params.addAll (filterParams [filter])) filters nullCheck := by
      rw [appendFilters, List.foldl_cons, appendFilter_eq]
      rfl
    rw [hstep, htext, hparams, filterParams_cons filter filters, Params.addAll_append,
      String.toList_append, List.flatMap_cons, List.append_assoc]
    exact ⟨rfl, rfl⟩

/-! ## What filters become -/

/-- The values that a filter binds. -/
def FilterValue.bound (value : FilterValue) : List SqlValue :=
  (value.param?.map ParamValue.values).getD []

theorem values_filterFragments (nullCheck : Bool) (filter : String × FilterValue) :
    Fragment.values (filterFragments nullCheck filter) = filter.2.bound := by
  cases filterForm nullCheck filter with
  | skipped _ hparam hfragments | check _ _ _ hparam hfragments =>
    rw [FilterValue.bound, hfragments, hparam]
    rfl
  | comparison _ _ _ _ hparam hfragments =>
    rw [FilterValue.bound, hfragments, hparam, Fragment.values, Fragment.values_append,
      values_expand]
    exact List.append_nil _

/-- The end of a line ends a name. -/
theorem Renders.reference_line {params : Params} {lead name : String} {value : ParamValue}
    (hlead : Renders params lead.toList [.text lead]) (hname : IsName name)
    (hvalue : params.get? name = some value) :
    Renders params (lead ++ "@" ++ name ++ "\n").toList
      (.text lead :: (Params.expand value ++ [.text "\n"])) := by
  have hline : Renders params ('@' :: name.toList ++ "\n".toList)
      (Params.expand value ++ [.text "\n"]) :=
    renders_reference hname hvalue "\n" (by decide) ⟨'\n', [], rfl, by decide⟩
  have htext : (lead ++ "@" ++ name ++ "\n").toList =
      lead.toList ++ ('@' :: name.toList ++ "\n".toList) := by
    simp only [String.toList_append, List.append_assoc]
    rfl
  rw [htext]
  exact hlead.append hline

/-- **The line of a filter is bound to the value of the filter**, which is looked up under the last
part of the column. -/
theorem renders_filter {params : Params} {filter : String × FilterValue}
    (hcolumn : QuietText filter.1)
    (hparam : ∀ value, filter.2.param? = some value →
      IsName (filterParam filter.1) ∧ params.get? (filterParam filter.1) = some value)
    (nullCheck : Bool) :
    Renders params (filterText nullCheck filter).toList (filterFragments nullCheck filter) := by
  have hlead : QuietText ("  AND " ++ filter.1) := .append (by decide) hcolumn
  cases filterForm nullCheck filter with
  | skipped hline _ hfragments =>
    rw [filterText, hline, hfragments]
    exact .nil
  | check _ htest hline _ hfragments =>
    rw [filterText, hline, hfragments]
    exact renders_text (hlead.append htest)
  | comparison _ _ hoperator hline hsome hfragments =>
    obtain ⟨hname, hvalue⟩ := hparam _ hsome
    rw [filterText, hline, hfragments]
    exact (renders_text (hlead.append hoperator)).reference_line hname hvalue

end ListQuery
