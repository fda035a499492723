import ListQuery.Proofs.Coercion
import ListQuery.Proofs.Query.Conditions

/-!
# What becomes of a filter

Some terms of a filter count and others do not.  Those that count each become one condition, or the
first of them that cannot is reported.  Those that do not count may be as malformed as they like.

## What is here

* `appliedTerms` — the terms that count: they ask for something, and their names are not excluded.
* `Tests`, `Answers` — the condition that a value puts on a field, and the condition for a term.
* `Unreadable`, `Refused` — the values that no condition can be made of, and the reasons why a term
  has no condition, with what is reported.
* `isConditionOf_iff`, `termCondition_eq_error_iff` — **one term**: it has a condition or it is
  refused, and never both.
* `Query.applyFilters_eq_ok_iff` — a query with a filter has the conditions of its terms added.
* `filterCondition_outcome` — **a whole filter**: one condition for each term that counts, or the
  error of the first one that is refused.
-/

set_option autoImplicit false
namespace ListQuery

/-- The terms of a filter that ask for something under a name that is not excluded. -/
def appliedTerms {α : Type} [FilterObject α] (excluded : List String) (filter : α) :
    List (String × FilterValue) :=
  (FilterObject.terms filter).filter fun term =>
    term.2.isActive = true ∧ ∀ x ∈ excluded, Text.sameAscii x term.1 = false

theorem isApplied_iff {excluded : List String} {term : String × FilterValue} :
    isApplied excluded term = true ↔
      term.2.isActive = true ∧ ∀ x ∈ excluded, Text.sameAscii x term.1 = false := by
  rw [isApplied, Bool.and_eq_true, Bool.not_eq_true', List.any_eq_false, and_comm]
  simp only [Bool.not_eq_true]

theorem appliedTerms_eq {α : Type} [FilterObject α] (excluded : List String) (filter : α) :
    appliedTerms excluded filter = (FilterObject.terms filter).filter (isApplied excluded) := by
  refine List.filter_congr fun term _ => ?_
  rw [Bool.eq_iff_iff, decide_eq_true_iff, isApplied_iff]

theorem isActive_of_mem_appliedTerms {α : Type} [FilterObject α] {excluded : List String}
    {filter : α} {term : String × FilterValue} (h : term ∈ appliedTerms excluded filter) :
    term.2.isActive = true :=
  (of_decide_eq_true (List.mem_filter.1 h).2).1

/-! ## Values -/

section

variable {name : String} {field : Field} {value : FilterValue}

/-- The condition that a value puts on a field which a client calls `name`. -/
inductive Tests (name : String) (field : Field) : FilterValue → Condition → Prop
  | text {s : String} {v : SqlValue} (hv : coerceText name field.kind s = .ok v) :
      Tests name field (.text s) (.equals field.column v)
  | list {items : List Scalar} {vs : List SqlValue} (hne : items ≠ [])
      (hvs : List.Forall₂ (fun item v => coerceScalar name field.kind item = .ok v) items vs) :
      Tests name field (.list items) (.oneOf field.column vs)
  | present : Tests name field (.flag true) (.present field.column)
  | absent : Tests name field (.flag false) (.absent field.column)

/-- The values that cannot be read for fields of a kind. -/
inductive Unreadable (name : String) (kind : FieldKind) : FilterValue → Prop
  | text {s : String} (h : ∀ v, coerceText name kind s ≠ .ok v) : Unreadable name kind (.text s)
  | list {items : List Scalar} {item : Scalar} (hitem : item ∈ items)
      (h : ∀ v, coerceScalar name kind item ≠ .ok v) : Unreadable name kind (.list items)

theorem Tests.column_eq {condition : Condition} (h : Tests name field value condition) :
    condition.column = field.column := by
  cases h <;> rfl

/-- Whatever is compared with a column belongs to its field. -/
theorem Tests.isOfKind {condition : Condition} (h : Tests name field value condition) :
    ∀ v ∈ condition.values, v.IsOfKind field.kind := by
  intro v hv
  cases h with
  | @text s w hw =>
    obtain rfl : v = w := List.mem_singleton.1 hv
    exact of_eq_ok (coerceText_cases name field.kind s) hw
  | @list items vs hne hvs =>
    exact of_eq_ok (mapM_coerceScalar_cases name field.kind items) (mapM_eq_ok_iff.2 hvs) v hv
  | present | absent => cases hv

theorem valueCondition_eq_ok_iff (hactive : value.isActive = true) {condition : Condition} :
    valueCondition name field value = .ok (some condition) ↔ Tests name field value condition := by
  cases value with
  | null => cases hactive
  | text s =>
    rw [valueCondition_text, map_eq_ok_iff]
    constructor
    · rintro ⟨v, hv, ⟨⟩⟩
      exact .text hv
    · rintro ⟨hv⟩
      exact ⟨_, hv, rfl⟩
  | list items =>
    have hne : items ≠ [] := by
      rintro rfl
      cases hactive
    rw [valueCondition_list, map_eq_ok_iff]
    constructor
    · rintro ⟨vs, hvs, ⟨⟩⟩
      exact .list hne (mapM_eq_ok_iff.1 hvs)
    · rintro (_ | ⟨-, hvs⟩)
      exact ⟨_, mapM_eq_ok_iff.2 hvs, rfl⟩
  | flag present =>
    cases present with
    | true =>
      constructor
      · rintro ⟨⟩
        exact .present
      · rintro ⟨⟩
        rfl
    | false =>
      constructor
      · rintro ⟨⟩
        exact .absent
      · rintro ⟨⟩
        rfl

/-- The name is reported with the kind that was expected, whichever element of a list it was. -/
theorem valueCondition_eq_error_iff {e : QueryError} :
    valueCondition name field value = .error e ↔
      Unreadable name field.kind value ∧ e = .invalidFilterValue name field.kind := by
  cases value with
  | null => exact ⟨nofun, nofun⟩
  | flag present => cases present <;> exact ⟨nofun, nofun⟩
  | text s =>
    rw [valueCondition_text, map_eq_error_iff]
    obtain ⟨v, hok, -⟩ | herror := coerceText_cases name field.kind s
    · rw [hok]
      refine ⟨nofun, ?_⟩
      rintro ⟨⟨h⟩, -⟩
      exact absurd hok (h v)
    · rw [herror, Except.error.injEq, eq_comm]
      refine (and_iff_right (.text fun v hok => ?_)).symm
      rw [herror] at hok
      cases hok
  | list items =>
    rw [valueCondition_list, map_eq_error_iff]
    obtain ⟨vs, hok, -⟩ | herror := mapM_coerceScalar_cases name field.kind items
    · rw [hok]
      refine ⟨nofun, ?_⟩
      rintro ⟨_ | ⟨hitem, h⟩, -⟩
      obtain ⟨v, -, hv⟩ := exists_right_of_mem (mapM_eq_ok_iff.1 hok) hitem
      exact absurd hv (h v)
    · obtain ⟨before, item, after, rfl, -, hitem⟩ := mapM_eq_error_iff.1 herror
      rw [herror, Except.error.injEq, eq_comm]
      refine (and_iff_right (.list (List.mem_append_cons_self) fun v hok => ?_)).symm
      rw [hitem] at hok
      cases hok

end

/-! ## Terms -/

variable {map : FieldMap} {term : String × FilterValue}

/-- The condition for a term: its value is compared with the column that its name leads to, and what
it is compared with belongs to the field. -/
def Answers (map : FieldMap) (term : String × FilterValue) (condition : Condition) : Prop :=
  ∃ field, map.find? (Text.pieces '.' term.1) = some field ∧
    Tests term.1 field term.2 condition ∧ ∀ v ∈ condition.values, v.IsOfKind field.kind

/-- What is reported for a term without a condition.  Its value is not looked at if its name leads
to no field. -/
inductive Refused (map : FieldMap) (term : String × FilterValue) : QueryError → Prop
  | unresolvable (h : map.find? (Text.pieces '.' term.1) = none) :
      Refused map term (.unresolvableField term.1)
  | unreadable {field : Field} (hfield : map.find? (Text.pieces '.' term.1) = some field)
      (h : Unreadable term.1 field.kind term.2) :
      Refused map term (.invalidFilterValue term.1 field.kind)

theorem Tests.answers {field : Field} {condition : Condition}
    (h : Tests term.1 field term.2 condition)
    (hfield : map.find? (Text.pieces '.' term.1) = some field) : Answers map term condition :=
  ⟨field, hfield, h, h.isOfKind⟩

theorem isConditionOf_iff (hactive : term.2.isActive = true) {condition : Condition} :
    IsConditionOf map term condition ↔ Answers map term condition := by
  constructor
  · rintro ⟨field, hfield, -, hvalue⟩
    have htests := (valueCondition_eq_ok_iff hactive).1 hvalue
    exact htests.answers (FieldMap.resolveName_eq_ok_iff.1 hfield)
  · rintro ⟨field, hfield, htests, -⟩
    exact ⟨field, FieldMap.resolveName_eq_ok_iff.2 hfield, htests.column_eq,
      (valueCondition_eq_ok_iff hactive).2 htests⟩

/-- The name is looked up before the value is read. -/
theorem termCondition_eq_error_iff {e : QueryError} :
    termCondition map term = .error e ↔ Refused map term e := by
  cases hfield : map.resolveName term.1 with
  | error e' =>
    obtain ⟨hnone, rfl⟩ := FieldMap.resolveName_eq_error_iff.1 hfield
    simp only [termCondition, hfield, bind, Except.bind, Except.error.injEq]
    constructor
    · rintro rfl
      exact .unresolvable hnone
    · rintro (_ | ⟨hsome, -⟩)
      · rfl
      · rw [hnone] at hsome
        cases hsome
  | ok field =>
    have hsome := FieldMap.resolveName_eq_ok_iff.1 hfield
    simp only [termCondition, hfield, bind, Except.bind]
    rw [valueCondition_eq_error_iff]
    constructor
    · rintro ⟨hunreadable, rfl⟩
      exact .unreadable hsome hunreadable
    · rintro (hnone | ⟨hother, hunreadable⟩)
      · rw [hnone] at hsome
        cases hsome
      · rw [hsome, Option.some.injEq] at hother
        subst hother
        exact ⟨hunreadable, rfl⟩

/-- A term that is not refused has a condition. -/
theorem exists_ok_iff_not_refused :
    (∃ result, termCondition map term = .ok result) ↔ ∀ e, ¬ Refused map term e := by
  simp only [← termCondition_eq_error_iff]
  cases termCondition map term with
  | error e => exact ⟨nofun, fun h => absurd rfl (h e)⟩
  | ok result => exact ⟨fun _ => nofun, fun _ => ⟨result, rfl⟩⟩

/-! ## Filters -/

variable {α : Type} [FilterObject α] {filter : α} {excluded : List String}

/-- One condition for each term that counts, in the order of the terms. -/
theorem filterCondition_eq_ok_iff_answers {result : Option (List Condition)} :
    filterCondition filter map excluded = .ok result ↔
      ∃ conditions, List.Forall₂ (Answers map) (appliedTerms excluded filter) conditions ∧
        result = conjunction conditions := by
  rw [filterCondition_eq_ok_iff, ← appliedTerms_eq]
  have hactive : ∀ term ∈ appliedTerms excluded filter, term.2.isActive = true :=
    fun term => isActive_of_mem_appliedTerms
  refine exists_congr fun conditions => and_congr_left' ⟨fun h => ?_, fun h => ?_⟩
  · have hboth := (List.forall₂_and_left _ _).2 ⟨hactive, h⟩
    exact hboth.imp fun _ _ hterm => (isConditionOf_iff hterm.1).1 hterm.2
  · have hboth := (List.forall₂_and_left _ _).2 ⟨hactive, h⟩
    exact hboth.imp fun _ _ hterm => (isConditionOf_iff hterm.1).2 hterm.2

/-- The first term that is refused decides the error. -/
theorem filterCondition_eq_error_iff {e : QueryError} :
    filterCondition filter map excluded = .error e ↔
      ∃ before term after, appliedTerms excluded filter = before ++ term :: after ∧
        (∀ t ∈ before, ∀ e', ¬ Refused map t e') ∧ Refused map term e := by
  rw [filterCondition_eq, map_eq_error_iff, ← appliedTerms_eq, mapM_eq_error_iff]
  simp only [exists_ok_iff_not_refused, termCondition_eq_error_iff]

theorem exists_filterCondition_error_iff :
    (∃ e, filterCondition filter map excluded = .error e) ↔
      ∃ term ∈ appliedTerms excluded filter, ∃ e, Refused map term e := by
  constructor
  · rintro ⟨e, he⟩
    obtain ⟨before, term, after, hterms, -, hterm⟩ := filterCondition_eq_error_iff.1 he
    exact ⟨term, hterms ▸ List.mem_append_cons_self, e, hterm⟩
  · rintro ⟨term, hterm, e, he⟩
    cases h : filterCondition filter map excluded with
    | error e' => exact ⟨e', rfl⟩
    | ok result =>
      obtain ⟨conditions, hconditions, -⟩ := filterCondition_eq_ok_iff_answers.1 h
      obtain ⟨condition, -, hcondition⟩ := exists_right_of_mem hconditions hterm
      have hactive := isActive_of_mem_appliedTerms hterm
      have hok := (termCondition_eq_ok_iff hactive).2
        ⟨condition, (isConditionOf_iff hactive).2 hcondition, rfl⟩
      exact absurd he (exists_ok_iff_not_refused.1 ⟨_, hok⟩ e)

theorem filterCondition_eq_none_iff :
    filterCondition filter map excluded = .ok none ↔ appliedTerms excluded filter = [] := by
  rw [filterCondition_eq_ok_iff_answers]
  constructor
  · rintro ⟨conditions, hconditions, hnone⟩
    cases conditions with
    | nil => exact List.forall₂_nil_right_iff.1 hconditions
    | cons condition conditions => simp [conjunction] at hnone
  · intro hnil
    exact ⟨[], hnil ▸ .nil, rfl⟩

theorem Query.applyFilters_eq (q : Query) (filter : α) (map : FieldMap) (excluded : List String) :
    q.applyFilters (some filter) map excluded =
      (filterCondition filter map excluded).map fun result => q.filter (result.getD []) := by
  have hnone : q.filter [] = q := by rw [Query.filter, List.append_nil]
  rw [applyFilters]
  cases filterCondition filter map excluded with
  | error e => rfl
  | ok result =>
    cases result with
    | none => exact congrArg Except.ok hnone.symm
    | some conditions => rfl

/-- A filter that is accepted adds one condition for each term that counts. -/
theorem Query.applyFilters_eq_ok_iff {q filtered : Query} :
    q.applyFilters (some filter) map excluded = .ok filtered ↔
      ∃ conditions, List.Forall₂ (Answers map) (appliedTerms excluded filter) conditions ∧
        filtered = q.filter conditions := by
  rw [applyFilters_eq, map_eq_ok_iff]
  constructor
  · rintro ⟨result, hresult, rfl⟩
    obtain ⟨conditions, hconditions, rfl⟩ := filterCondition_eq_ok_iff_answers.1 hresult
    exact ⟨conditions, hconditions, by rw [getD_conjunction]⟩
  · rintro ⟨conditions, hconditions, rfl⟩
    refine ⟨_, filterCondition_eq_ok_iff_answers.2 ⟨conditions, hconditions, rfl⟩, ?_⟩
    rw [getD_conjunction]

/-- **What becomes of a filter.**  It is refused if and only if one of the terms that count is, and
then for the first of them: under its name if that leads to no field, and otherwise under its name
and the kind of its field, because its value cannot be read.  If none is refused, there is one
condition for each of them, in their order, on the column that the name leads to: to equal one
value, to be one of the values of a list that is not empty, or to be there or not.  All values are
present and of the type of their field.  There are no conditions if and only if no term counts, and
a filter in which the same terms count has the same outcome. -/
theorem filterCondition_outcome {α : Type} [FilterObject α] (filter : α) (map : FieldMap)
    (excluded : List String) :
    (∀ e, filterCondition filter map excluded = .error e ↔
      ∃ before term after, appliedTerms excluded filter = before ++ term :: after ∧
        (∀ t ∈ before, ∀ e', ¬ Refused map t e') ∧ Refused map term e) ∧
    ((∃ e, filterCondition filter map excluded = .error e) ↔
      ∃ term ∈ appliedTerms excluded filter, ∃ e, Refused map term e) ∧
    (∀ result, filterCondition filter map excluded = .ok result ↔
      ∃ conditions, List.Forall₂ (Answers map) (appliedTerms excluded filter) conditions ∧
        result = conjunction conditions) ∧
    (filterCondition filter map excluded = .ok none ↔ appliedTerms excluded filter = []) ∧
    ∀ {β : Type} [FilterObject β] (other : β),
      appliedTerms excluded other = appliedTerms excluded filter →
        filterCondition other map excluded = filterCondition filter map excluded := by
  refine ⟨fun e => filterCondition_eq_error_iff, exists_filterCondition_error_iff,
    fun result => filterCondition_eq_ok_iff_answers, filterCondition_eq_none_iff, ?_⟩
  intro β _ other h
  rw [filterCondition_eq, filterCondition_eq, ← appliedTerms_eq, ← appliedTerms_eq, h]

end ListQuery
