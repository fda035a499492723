import ListQuery.Proofs.FieldMap.History
import ListQuery.Proofs.Query.Runs
import ListQuery.Proofs.Sort.Terms

/-!
# Ordering a query by a sort text

* `orderKey_eq_ok_iff`, `orderKey_eq_error_iff` — what becomes of one term.
* `Query.orderByPath_eq_ok_iff` — **a query is ordered by one field for each term**, in their order
  and in their directions, or not at all.
-/

set_option autoImplicit false
namespace ListQuery

variable {map : FieldMap} {term : SortTerm}

/-- A field in a direction, as a query is ordered by it. -/
def OrderKey.ofField (chosen : Field × Direction) : OrderKey :=
  ⟨chosen.1.column, chosen.2⟩

theorem orderKey_eq_ok_iff {key : OrderKey} :
    orderKey map term = .ok key ↔
      ∃ chosen : Field × Direction,
        (map.resolve term.path = .ok chosen.1 ∧ chosen.2 = term.direction) ∧
          key = .ofField chosen := by
  constructor
  · intro h
    cases hfield : map.resolve term.path with
    | error e =>
      rw [orderKey, hfield] at h
      cases h
    | ok field =>
      rw [orderKey, hfield] at h
      cases h
      exact ⟨(field, term.direction), ⟨rfl, rfl⟩, rfl⟩
  · rintro ⟨⟨field, direction⟩, ⟨hfield, rfl⟩, rfl⟩
    rw [orderKey, hfield]
    rfl

/-- A term is refused only because its path has no field, which is reported under its key. -/
theorem orderKey_eq_error_iff {e : QueryError} :
    orderKey map term = .error e ↔
      map.resolve term.path = .error (.unresolvableField term.key) ∧
        e = .invalidSortField term.key (.unresolvableField term.key) := by
  constructor
  · intro h
    cases hfield : map.resolve term.path with
    | ok field =>
      rw [orderKey, hfield] at h
      cases h
    | error cause =>
      obtain ⟨-, rfl⟩ := FieldMap.resolve_eq_error_iff.1 hfield
      rw [orderKey, hfield] at h
      cases h
      exact ⟨rfl, rfl⟩
  · rintro ⟨hfield, rfl⟩
    rw [orderKey, hfield]

namespace Query

variable {sort : String}

theorem orderByPath_eq_forTerms (q : Query) (sort : String) (map : FieldMap) :
    q.orderByPath sort map =
      SortSpec.forTerms sort (orderKey map) fun keys => { q with ordering := keys } := by
  unfold orderByPath SortSpec.forTerms
  cases SortSpec.parse sort with
  | error e => rfl
  | ok spec =>
    show (spec.terms.mapM (orderKey map)).bind (fun keys => .ok (q.replaceOrder keys)) =
      (spec.terms.mapM (orderKey map)).map _
    cases spec.terms.mapM (orderKey map) with
    | error e => rfl
    | ok keys => exact congrArg Except.ok (q.replaceOrder_eq keys)

/-- **A query is ordered by one field for each term** of a sort text, in the order and in the
directions of the terms; all else in it stays as it was. -/
theorem orderByPath_eq_ok_iff {q q' : Query} :
    q.orderByPath sort map = .ok q' ↔
      ∃ spec, SortSpec.parse sort = .ok spec ∧ ∃ chosen : List (Field × Direction),
        List.Forall₂ (fun term c => map.resolve term.path = .ok c.1 ∧ c.2 = term.direction)
          spec.terms chosen ∧
        q' = { q with ordering := chosen.map .ofField } := by
  rw [orderByPath_eq_forTerms]
  exact SortSpec.forTerms_eq_ok_iff fun _ _ => orderKey_eq_ok_iff

end Query
end ListQuery
