import ListQuery.Coerce
import ListQuery.Proofs.Outcome

/-!
# Values of a kind

* `SqlValue.IsOfKind` — the values that belong to the fields of a kind: present, and of the kind's
  SQL type.
* `coerceText_eq_ok_iff`, `coerceText_eq_error_iff` — a kind other than text reads what stands
  between the blanks around a text.
* `coerceText_cases`, `coerceScalar_cases`, `mapM_coerceScalar_cases` — whatever is read for a field
  belongs to it, and what cannot be read is reported under the name of the field, with the kind that
  was expected.
-/

set_option autoImplicit false
namespace ListQuery

/-- A value that is not missing and has the type of a kind. -/
structure SqlValue.IsOfKind (v : SqlValue) (kind : FieldKind) : Prop where
  present : v.isNull = false
  type_eq : v.type = kind.sqlType

theorem isOfKind_of_parseValue? {kind : FieldKind} {s : String} {v : SqlValue}
    (h : parseValue? kind s = some v) : v.IsOfKind kind := by
  cases kind with
  | string =>
    cases h
    exact ⟨rfl, rfl⟩
  | integer | double | boolean | uuid | dateTimeUtc | date | time | decimal =>
    obtain ⟨x, -, rfl⟩ := Option.map_eq_some_iff.1 h
    exact ⟨rfl, rfl⟩

section

variable {field : String} {kind : FieldKind} {s : String}

theorem coerceText_eq_ok_iff (hkind : kind ≠ .string) {v : SqlValue} :
    coerceText field kind s = .ok v ↔ parseValue? kind (Text.trim s) = some v := by
  rw [coerceText, if_neg hkind]
  split
  · rename_i x hx
    rw [hx, Except.ok.injEq, Option.some_inj]
  · rename_i hnone
    rw [hnone]
    exact ⟨nofun, nofun⟩

theorem coerceText_eq_error_iff (hkind : kind ≠ .string) :
    coerceText field kind s = .error (.invalidFilterValue field kind) ↔
      parseValue? kind (Text.trim s) = none := by
  rw [coerceText, if_neg hkind]
  split
  · rename_i x hx
    rw [hx]
    exact ⟨nofun, nofun⟩
  · rename_i hnone
    simp [hnone]

end

variable (field : String) (kind : FieldKind)

theorem coerceText_cases (s : String) :
    (∃ v, coerceText field kind s = .ok v ∧ v.IsOfKind kind) ∨
      coerceText field kind s = .error (.invalidFilterValue field kind) := by
  unfold coerceText
  split
  · next v hv => exact Or.inl ⟨v, rfl, isOfKind_of_parseValue? hv⟩
  · exact Or.inr rfl

/-- Numbers and identifiers are not read: they serve the kinds that hold them and no others. -/
theorem coerceScalar_cases (item : Scalar) :
    (∃ v, coerceScalar field kind item = .ok v ∧ v.IsOfKind kind) ∨
      coerceScalar field kind item = .error (.invalidFilterValue field kind) := by
  cases item with
  | text s => exact coerceText_cases field kind s
  | int n =>
    cases kind with
    | integer | double | decimal => exact Or.inl ⟨_, rfl, rfl, rfl⟩
    | string | boolean | uuid | dateTimeUtc | date | time => exact Or.inr rfl
  | uuid u =>
    cases kind with
    | uuid => exact Or.inl ⟨_, rfl, rfl, rfl⟩
    | string | integer | double | boolean | dateTimeUtc | date | time | decimal => exact Or.inr rfl

/-- In a list it does not matter which of the elements cannot be read. -/
theorem mapM_coerceScalar_cases (items : List Scalar) :
    (∃ vs, items.mapM (coerceScalar field kind) = .ok vs ∧ ∀ v ∈ vs, v.IsOfKind kind) ∨
      items.mapM (coerceScalar field kind) = .error (.invalidFilterValue field kind) := by
  cases h : items.mapM (coerceScalar field kind) with
  | error e =>
    obtain ⟨-, item, -, -, -, herror⟩ := mapM_eq_error_iff.1 h
    obtain ⟨v, hok, -⟩ | herror' := coerceScalar_cases field kind item
    · rw [herror] at hok
      cases hok
    · exact Or.inr (congrArg Except.error (Except.error.inj (herror.symm.trans herror')))
  | ok vs =>
    refine Or.inl ⟨vs, rfl, fun v hv => ?_⟩
    obtain ⟨item, -, hitem⟩ := exists_right_of_mem (mapM_eq_ok_iff.1 h).flip hv
    exact of_eq_ok (coerceScalar_cases field kind item) hitem

end ListQuery
