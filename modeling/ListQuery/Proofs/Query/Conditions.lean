import ListQuery.Proofs.FieldMap.History
import ListQuery.Proofs.Outcome
import ListQuery.Query.Shaping

/-!
# The conditions of filter terms

* `conjunction` — conditions to be met together; none at all are no conjunction.
* `termCondition_eq_ok_iff` — an active term becomes one condition on the column that its name
  leads to.
* `filterCondition_eq_ok_iff` — **a filter becomes one condition for each applied term**, in the
  order of the terms.
-/

set_option autoImplicit false
namespace ListQuery

variable {map : FieldMap}

/-- Conditions to be met together. -/
def conjunction (conditions : List Condition) : Option (List Condition) :=
  if conditions = [] then none else some conditions

theorem conjunction_eq_some {conditions found : List Condition}
    (h : conjunction conditions = some found) : conditions = found := by
  unfold conjunction at h
  split at h
  · cases h
  · exact Option.some.inj h

theorem getD_conjunction (conditions : List Condition) :
    (conjunction conditions).getD [] = conditions := by
  unfold conjunction
  split
  · next h => exact h.symm
  · rfl

theorem valueCondition_text (name : String) (field : Field) (s : String) :
    valueCondition name field (.text s) =
      (coerceText name field.kind s).map fun v => some (.equals field.column v) := by
  rw [valueCondition]
  cases coerceText name field.kind s <;> rfl

theorem valueCondition_list (name : String) (field : Field) (items : List Scalar) :
    valueCondition name field (.list items) =
      (items.mapM (coerceScalar name field.kind)).map fun vs => some (.oneOf field.column vs) := by
  rw [valueCondition]
  cases items.mapM (coerceScalar name field.kind) <;> rfl

/-- The condition of an active value. -/
theorem valueCondition_of_isActive {name : String} {field : Field} {value : FilterValue}
    (hactive : value.isActive = true) {result : Option Condition}
    (h : valueCondition name field value = .ok result) :
    ∃ condition, result = some condition ∧ condition.column = field.column := by
  cases value with
  | null => cases hactive
  | text s =>
    rw [valueCondition_text] at h
    obtain ⟨v, -, rfl⟩ := map_eq_ok_iff.1 h
    exact ⟨.equals field.column v, rfl, rfl⟩
  | list items =>
    rw [valueCondition_list] at h
    obtain ⟨vs, -, rfl⟩ := map_eq_ok_iff.1 h
    exact ⟨.oneOf field.column vs, rfl, rfl⟩
  | flag present =>
    cases present with
    | true =>
      cases h
      exact ⟨_, rfl, rfl⟩
    | false =>
      cases h
      exact ⟨_, rfl, rfl⟩

/-- The condition that an applied term puts on the field of its name. -/
def IsConditionOf (map : FieldMap) (term : String × FilterValue) (condition : Condition) : Prop :=
  ∃ field, map.resolveName term.1 = .ok field ∧ condition.column = field.column ∧
    valueCondition term.1 field term.2 = .ok (some condition)

theorem termCondition_eq_ok_iff {term : String × FilterValue} (hactive : term.2.isActive = true)
    {result : Option Condition} :
    termCondition map term = .ok result ↔
      ∃ condition, IsConditionOf map term condition ∧ result = some condition := by
  cases hfield : map.resolveName term.1 with
  | error e =>
    constructor
    · intro h
      simp only [termCondition, hfield, bind, Except.bind] at h
      cases h
    · rintro ⟨condition, ⟨field, hok, -⟩, -⟩
      rw [hfield] at hok
      cases hok
  | ok field =>
    have hterm : termCondition map term = valueCondition term.1 field term.2 := by
      simp only [termCondition, hfield, bind, Except.bind]
    rw [hterm]
    constructor
    · intro h
      obtain ⟨condition, rfl, hcolumn⟩ := valueCondition_of_isActive hactive h
      exact ⟨condition, ⟨field, hfield, hcolumn, h⟩, rfl⟩
    · rintro ⟨condition, ⟨other, hok, -, hvalue⟩, rfl⟩
      rw [hfield] at hok
      cases hok
      exact hvalue

theorem isActive_of_isApplied {excluded : List String} {term : String × FilterValue}
    (h : isApplied excluded term = true) : term.2.isActive = true := by
  rw [isApplied, Bool.and_eq_true] at h
  exact h.2

theorem filterCondition_eq {α : Type} [FilterObject α] (filter : α) (map : FieldMap)
    (excluded : List String) :
    filterCondition filter map excluded =
      (((FilterObject.terms filter).filter (isApplied excluded)).mapM (termCondition map)).map
        fun found => conjunction (found.filterMap id) := by
  unfold filterCondition
  generalize (FilterObject.terms filter).filter (isApplied excluded) = terms
  cases hfound : terms.mapM (termCondition map) with
  | error e =>
    simp only [hfound, bind, Except.bind]
    rfl
  | ok found =>
    simp only [hfound, bind, Except.bind, Except.map]
    cases found.filterMap id <;> rfl

/-- **A filter becomes one condition for each applied term**, in the order of the terms, and it is
refused if there is none for one of them. -/
theorem filterCondition_eq_ok_iff {α : Type} [FilterObject α] {filter : α}
    {excluded : List String} {result : Option (List Condition)} :
    filterCondition filter map excluded = .ok result ↔
      ∃ conditions, List.Forall₂ (IsConditionOf map)
          ((FilterObject.terms filter).filter (isApplied excluded)) conditions ∧
        result = conjunction conditions := by
  rw [filterCondition_eq]
  have hactive : ∀ term ∈ (FilterObject.terms filter).filter (isApplied excluded),
      term.2.isActive = true :=
    fun term hterm => isActive_of_isApplied (List.mem_filter.1 hterm).2
  generalize (FilterObject.terms filter).filter (isApplied excluded) = terms at hactive
  have hterms : ∀ found, terms.mapM (termCondition map) = .ok found ↔
      ∃ conditions, List.Forall₂ (IsConditionOf map) terms conditions ∧
        found = conditions.map some :=
    fun found => mapM_eq_ok_iff_map fun term hterm _ => termCondition_eq_ok_iff (hactive term hterm)
  have hsome : ∀ conditions : List Condition,
      (conditions.map some).filterMap id = conditions := by
    intro conditions
    rw [List.filterMap_map, Function.id_comp, List.filterMap_some]
  constructor
  · intro h
    obtain ⟨found, hfound, rfl⟩ := map_eq_ok_iff.1 h
    obtain ⟨conditions, hconditions, rfl⟩ := (hterms found).1 hfound
    exact ⟨conditions, hconditions, congrArg conjunction (hsome conditions)⟩
  · rintro ⟨conditions, hconditions, rfl⟩
    rw [(hterms _).2 ⟨conditions, hconditions, rfl⟩]
    exact congrArg (Except.ok ∘ conjunction) (hsome conditions)

end ListQuery
