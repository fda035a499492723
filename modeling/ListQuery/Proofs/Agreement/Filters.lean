import ListQuery.Proofs.Clause.Filters
import ListQuery.Proofs.Query.Conditions

/-!
# Conditions and lines say the same

A filter can become conditions of a query, or lines of SQL text with parameters.  On columns that
hold texts the two are one filter, written in two ways.

## What is here

* `Condition.line`, `Condition.param?` — a condition as a line of SQL text, and the parameter that
  the line is about.
* `Asks` — what a filter value asks of a column that holds texts: texts as they were given, blanks
  around them included, and lists in their order.
* `valueCondition_of_asks`, `filterText_of_asks`, `param?_of_asks` — a condition, a line and a
  parameter are all made from what is asked.
* `filters_agree` — **there is one line for each condition**, and its parameter has the values of
  the condition.
-/

set_option autoImplicit false
namespace ListQuery

/-! ## Conditions as text -/

namespace Condition

/-- A condition as a line of SQL text that calls the column `name`. -/
def line (name : String) : Condition → String
  | equals _ _ => "  AND " ++ name ++ " = @" ++ filterParam name ++ "\n"
  | oneOf _ _ => "  AND " ++ name ++ " IN @" ++ filterParam name ++ "\n"
  | present _ => "  AND " ++ name ++ " IS NOT NULL" ++ "\n"
  | absent _ => "  AND " ++ name ++ " IS NULL" ++ "\n"

/-- The parameter with the values of a condition. -/
def param? : Condition → Option ParamValue
  | equals _ v => some (.scalar v)
  | oneOf _ vs => some (.list vs)
  | present _ | absent _ => none

theorem line_ne_empty (name : String) (condition : Condition) : condition.line name ≠ "" := by
  cases condition <;> simp [line, String.append_eq_empty_iff]

end Condition

/-! ## What is asked -/

/-- What a filter value asks of a column that holds texts. -/
inductive Asks (column : ColumnRef) : FilterValue → Condition → Prop
  | text (s : String) : Asks column (.text s) (.equals column (.string s))
  | list (texts : List String) :
      Asks column (.list (texts.map .text)) (.oneOf column (texts.map .string))
  | present : Asks column (.flag true) (.present column)
  | absent : Asks column (.flag false) (.absent column)

variable {column : ColumnRef} {value : FilterValue} {condition : Condition}

theorem Asks.column_eq (h : Asks column value condition) : condition.column = column := by
  cases h <;> rfl

/-- All that is needed is that the elements of lists are texts. -/
theorem exists_asks (hactive : value.isActive = true)
    (htexts : ∀ items, value = .list items → ∀ item ∈ items, ∃ s, item = .text s) :
    ∃ condition, Asks column value condition := by
  cases value with
  | null => cases hactive
  | text s => exact ⟨_, .text s⟩
  | flag present =>
    cases present with
    | true => exact ⟨_, .present⟩
    | false => exact ⟨_, .absent⟩
  | list items =>
    obtain ⟨texts, htexts⟩ := exists_forall₂ (htexts items rfl)
    have hitems : items = texts.map .text := by
      rw [← List.forall₂_eq_eq_eq, List.forall₂_map_right_iff]
      exact htexts
    rw [hitems]
    exact ⟨_, .list texts⟩

theorem mapM_coerceScalar_texts (name : String) (texts : List String) :
    (texts.map Scalar.text).mapM (coerceScalar name .string) = .ok (texts.map SqlValue.string) := by
  rw [mapM_eq_ok_iff, List.forall₂_map_left_iff, List.forall₂_map_right_iff]
  exact List.forall₂_same.2 fun _ _ => rfl

/-- A query asks it by a condition. -/
theorem valueCondition_of_asks {field : Field} (hkind : field.kind = .string)
    (h : Asks field.column value condition) (name : String) :
    valueCondition name field value = .ok (some condition) := by
  obtain ⟨column, kind⟩ := field
  obtain rfl : kind = .string := hkind
  cases h with
  | text s => rfl
  | list texts =>
    rw [valueCondition_list, mapM_coerceScalar_texts]
    rfl
  | present => rfl
  | absent => rfl

/-- SQL text asks it by a line. -/
theorem filterText_of_asks (hactive : value.isActive = true) (h : Asks column value condition)
    (name : String) : filterText true (name, value) = condition.line name := by
  have hactive : (!value.isActive) = false := by rw [hactive]; rfl
  cases h with
  | text s | list texts | present | absent =>
    rw [filterText, filterLine, hactive]
    rfl

theorem param?_of_asks (hactive : value.isActive = true) (h : Asks column value condition) :
    value.param? = condition.param? := by
  cases h with
  | text s => exact FilterValue.param?_text hactive
  | list texts =>
    rw [FilterValue.param?_list hactive, List.map_map]
    rfl
  | present => rfl
  | absent => rfl

/-! ## All filters -/

variable {map : FieldMap} {filters : List (String × FilterValue)}

/-- Filters on columns that hold texts: the names of active filters lead to such columns, and all
elements of lists are texts. -/
structure OnTexts (map : FieldMap) (filters : List (String × FilterValue)) : Prop where
  fields : ∀ filter ∈ filters, filter.2.isActive = true →
    ∃ field, map.resolveName filter.1 = .ok field ∧ field.kind = .string
  items : ∀ filter ∈ filters, ∀ items, filter.2 = .list items → ∀ item ∈ items, ∃ s, item = .text s

/-- A filter asks a condition of the column that its name leads to. -/
structure AsksUnder (map : FieldMap) (filter : String × FilterValue) (asked : String × Condition) :
    Prop where
  name : asked.1 = filter.1
  condition : ∃ field, map.resolveName filter.1 = .ok field ∧ field.kind = .string ∧
    Asks field.column filter.2 asked.2

theorem AsksUnder.isConditionOf {filter : String × FilterValue} {asked : String × Condition}
    (h : AsksUnder map filter asked) : IsConditionOf map filter asked.2 := by
  obtain ⟨field, hfield, hkind, hasks⟩ := h.condition
  exact ⟨field, hfield, hasks.column_eq, valueCondition_of_asks hkind hasks filter.1⟩

theorem OnTexts.exists_asked (h : OnTexts map filters) :
    ∃ asked, List.Forall₂ (AsksUnder map) (filters.filter fun f => f.2.isActive) asked := by
  refine exists_forall₂ fun filter hfilter => ?_
  obtain ⟨hmem, hactive⟩ := List.mem_filter.1 hfilter
  obtain ⟨field, hfield, hkind⟩ := h.fields filter hmem hactive
  obtain ⟨condition, hasks⟩ : ∃ condition, Asks field.column filter.2 condition :=
    exists_asks hactive (h.items filter hmem)
  exact ⟨(filter.1, condition), rfl, field, hfield, hkind, hasks⟩

/-- The text of filters is that of the active ones. -/
theorem flatMap_filterText (nullCheck : Bool) (filters : List (String × FilterValue)) :
    filters.flatMap (fun f => (filterText nullCheck f).toList) =
      (filters.filter fun f => f.2.isActive).flatMap fun f => (filterText nullCheck f).toList := by
  induction filters with
  | nil => rfl
  | cons filter filters ih =>
    cases hactive : filter.2.isActive with
    | true =>
      rw [List.filter_cons, if_pos hactive, List.flatMap_cons, List.flatMap_cons, ih]
    | false =>
      rw [List.filter_cons, hactive, List.flatMap_cons, filterText_of_inactive hactive, ih]
      rfl

/-- One line for each condition. -/
theorem text_appendFilters_of_asked {asked : List (String × Condition)}
    (h : List.Forall₂ (AsksUnder map) (filters.filter fun f => f.2.isActive) asked) :
    (appendFilters "" {} filters true).1 = String.join (asked.map fun a => a.2.line a.1) := by
  apply String.toList_injective
  rw [(appendFilters_eq "" {} filters true).1, flatMap_filterText, String.toList_join]
  -- From here on only the active filters count: the others have no lines.
  have hactive : ∀ f ∈ filters.filter (fun f => f.2.isActive), f.2.isActive = true :=
    fun f hf => (List.mem_filter.1 hf).2
  generalize filters.filter (fun f => f.2.isActive) = active at h hactive
  show active.flatMap _ = _
  induction h with
  | nil => rfl
  | @cons filter a active asked hasked _ ih =>
    obtain ⟨hname, field, -, -, hasks⟩ := hasked
    rw [List.flatMap_cons, List.map_cons, List.flatMap_cons, hname,
      ← filterText_of_asks (hactive filter List.mem_cons_self) hasks filter.1,
      ih fun f hf => hactive f (List.mem_cons_of_mem filter hf)]

/-- The parameter of a line has the values of the condition. -/
theorem get?_appendFilters_of_asked {asked : List (String × Condition)}
    (h : List.Forall₂ (AsksUnder map) (filters.filter fun f => f.2.isActive) asked)
    (hdistinct : (filterParams filters).Pairwise fun p q => Text.sameAscii p.1 q.1 = false)
    {a : String × Condition} (ha : a ∈ asked) {value : ParamValue}
    (hvalue : a.2.param? = some value) :
    (appendFilters "" {} filters true).2.get? (filterParam a.1) = some value := by
  obtain ⟨filter, hfilter, hname, field, -, -, hasks⟩ := exists_right_of_mem h.flip ha
  obtain ⟨hmem, hactive⟩ := List.mem_filter.1 hfilter
  rw [← param?_of_asks hactive hasks] at hvalue
  have hparam : (filterParam a.1, value) ∈ filterParams filters := by
    refine List.mem_filterMap.2 ⟨filter, hmem, ?_⟩
    rw [hvalue, hname]
    rfl
  rw [(appendFilters_eq "" {} filters true).2]
  exact Params.get?_addAll_of_mem hdistinct {} hparam

/-- **Conditions and lines say the same.**  Let the active filters be on columns that hold texts.
Then each of them asks one condition: texts and lists are compared as they were given, and flags
test for presence.  These are the conditions of a query, and these conditions, in this order, are
the lines of SQL text, which is empty if and only if the query has no conditions.  Where no two
filters share a parameter, the parameter of each line has the values of its condition. -/
theorem filters_agree (h : OnTexts map filters) :
    ∃ asked : List (String × Condition),
      List.Forall₂ (AsksUnder map) (filters.filter fun f => f.2.isActive) asked ∧
      filterCondition filters map [] = .ok (conjunction (asked.map Prod.snd)) ∧
      (appendFilters "" {} filters true).1 = String.join (asked.map fun a => a.2.line a.1) ∧
      ((appendFilters "" {} filters true).1 = "" ↔ filterCondition filters map [] = .ok none) ∧
      ((filterParams filters).Pairwise (fun p q => Text.sameAscii p.1 q.1 = false) →
        ∀ a ∈ asked, ∀ value, a.2.param? = some value →
          (appendFilters "" {} filters true).2.get? (filterParam a.1) = some value) := by
  obtain ⟨asked, hasked⟩ := h.exists_asked
  have hconditions : filterCondition filters map [] =
      .ok (conjunction (asked.map Prod.snd)) := by
    refine filterCondition_eq_ok_iff.2 ⟨asked.map Prod.snd, ?_, rfl⟩
    exact List.forall₂_map_right_iff.2 (hasked.imp fun _ _ => AsksUnder.isConditionOf)
  have htext := text_appendFilters_of_asked hasked
  refine ⟨asked, hasked, hconditions, htext, ?_, fun hdistinct a ha value hvalue =>
    get?_appendFilters_of_asked hasked hdistinct ha hvalue⟩
  rw [htext, hconditions]
  cases asked with
  | nil => exact iff_of_true rfl rfl
  | cons a asked =>
    refine iff_of_false (fun hempty => ?_) nofun
    rw [List.map_cons, String.join_cons, String.append_eq_empty_iff] at hempty
    exact a.2.line_ne_empty a.1 hempty.1

theorem filters_agree_blank_and_nested :
    let departments := ((FieldMap.ofEntity ⟨"department", []⟩).insert
      "code" ⟨"code", "code"⟩ .string).insert "name" ⟨"name", "name"⟩ .string
    let map := ((FieldMap.ofEntity ⟨"employee", []⟩).insert
      "name" ⟨"name", "full_name"⟩ .string).nest "department" departments
    let filters : List (String × FilterValue) := [("name", .text " Ann "), ("salary", .text " \t"),
      ("department.code", .list [.text "b", .text "a"]), ("rank", .list []), ("id", .null),
      ("Department.Name", .flag false)]
    OnTexts map filters ∧
      ((filterParams filters).Pairwise fun p q => Text.sameAscii p.1 q.1 = false) ∧
      ∃ asked : List (String × Condition), asked.length = 3 ∧
        filterCondition filters map [] = .ok (conjunction (asked.map Prod.snd)) ∧
        (appendFilters "" {} filters true).1 = String.join (asked.map fun a => a.2.line a.1) ∧
        ∀ a ∈ asked, ∀ value, a.2.param? = some value →
          (appendFilters "" {} filters true).2.get? (filterParam a.1) = some value := by
  intro departments map filters
  have htexts : OnTexts map filters := by
    refine ⟨?_, ?_⟩
    · simp only [filters, List.forall_mem_cons]
      refine ⟨fun _ => ⟨⟨⟨"employee", "full_name"⟩, .string⟩, by decide, rfl⟩,
        fun hblank => absurd hblank (by decide),
        fun _ => ⟨⟨⟨"department", "code"⟩, .string⟩, by decide, rfl⟩, nofun, nofun,
        fun _ => ⟨⟨⟨"department", "name"⟩, .string⟩, by decide, rfl⟩, nofun⟩
    · simp [filters]
  have hdistinct : (filterParams filters).Pairwise fun p q => Text.sameAscii p.1 q.1 = false := by
    have hparams : filterParams filters =
        [("name", .scalar (.string " Ann ")), ("code", .list [.string "b", .string "a"])] := rfl
    rw [hparams, List.pairwise_pair]
    decide +kernel
  obtain ⟨asked, hasked, hconditions, htext, -, hparams⟩ := filters_agree htexts
  exact ⟨htexts, hdistinct, asked, hasked.length_eq.symm.trans (by decide), hconditions, htext,
    hparams hdistinct⟩

end ListQuery
