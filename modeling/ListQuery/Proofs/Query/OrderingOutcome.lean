import ListQuery.Proofs.Agreement.Orderings
import ListQuery.Proofs.Sort.Grammar

/-!
# What becomes of a sort text

A query is ordered by a sort text in three steps: the text is read, the paths of its terms are
resolved one after the other, and the keys that come of it take the place of the order that the
query had.  The first step that fails decides what is reported, and then the query is not touched.

## What is here

* `SortSpec.exists_fault_of_parse` — a text that cannot be read is refused for a fault of its own,
  without a cause.
* `SortSpec.exists_part_of_term` — a term stands in the text of the client, at its own place among
  the parts, as it is reported.
* `Query.orderByPath_eq_error_iff` — the errors are those of `SortFailure`, and there are no others.
* `Query.orderByPath_outcome` — **the whole outcome**: one key for each term, or the error of the
  first fault.
-/

set_option autoImplicit false
namespace ListQuery

variable {sort : String} {map : FieldMap}

/-! ## Reading -/

namespace SortSpec

theorem exists_fault_of_parse {e : QueryError} (h : parse sort = .error e) :
    ∃ fault, e = .invalidSort fault := by
  have houtcome := outcome_parse sort
  rw [h] at houtcome
  obtain ⟨fault, hfault, -⟩ := houtcome.exists_fault
  exact ⟨fault, hfault⟩

theorem readsAs_of_parse {spec : SortSpec} (h : parse sort = .ok spec) :
    List.Forall₂ SortTerm.ReadsAs (segments sort) spec.terms :=
  terms_of_parse h ▸ readsAs_terms sort

/-- A term is asked for by the part of the text at its own place. -/
theorem exists_part_of_term {spec : SortSpec} (h : parse sort = .ok spec)
    {before after : List SortTerm} {term : SortTerm}
    (hterms : spec.terms = before ++ term :: after) :
    ∃ part, (segments sort)[before.length]? = some part ∧ SortTerm.ReadsAs part term := by
  have hterm : spec.terms[before.length]? = some term := by
    rw [hterms, List.getElem?_append_right (Nat.le_refl _), Nat.sub_self, List.getElem?_cons_zero]
  exact exists_right_of_getElem? (readsAs_of_parse h).flip hterm

end SortSpec

/-! ## Resolving -/

/-- A key of an ordering for a term: the column of the field that the path of the term resolves to,
in the direction of the term. -/
def SortTerm.Orders (map : FieldMap) (term : SortTerm) (key : OrderKey) : Prop :=
  ∃ field, map.resolve term.path = .ok field ∧ key = ⟨field.column, term.direction⟩

theorem orderKey_eq_ok_iff_orders {term : SortTerm} {key : OrderKey} :
    orderKey map term = .ok key ↔ term.Orders map key := by
  rw [orderKey_eq_ok_iff]
  constructor
  · rintro ⟨⟨field, direction⟩, ⟨hfield, rfl⟩, rfl⟩
    exact ⟨field, hfield, rfl⟩
  · rintro ⟨field, hfield, rfl⟩
    exact ⟨(field, term.direction), ⟨hfield, rfl⟩, rfl⟩

theorem exists_orderKey_iff {term : SortTerm} :
    (∃ key, orderKey map term = .ok key) ↔ ∃ field, map.resolve term.path = .ok field := by
  simp only [orderKey_eq_ok_iff_orders]
  constructor
  · rintro ⟨key, field, hfield, -⟩
    exact ⟨field, hfield⟩
  · rintro ⟨field, hfield⟩
    exact ⟨_, field, hfield, rfl⟩

namespace Query

variable {q : Query}

/-- A query is ordered by one key for each term, and nothing else in it changes. -/
theorem orderByPath_eq_ok_iff_orders {q' : Query} :
    q.orderByPath sort map = .ok q' ↔
      ∃ spec, SortSpec.parse sort = .ok spec ∧ ∃ keys,
        List.Forall₂ (SortTerm.Orders map) spec.terms keys ∧ q' = { q with ordering := keys } := by
  have hstep : ∀ term key, orderKey map term = .ok key ↔
      ∃ found, SortTerm.Orders map term found ∧ key = id found := by
    simp [orderKey_eq_ok_iff_orders]
  rw [orderByPath_eq_forTerms, SortSpec.forTerms_eq_ok_iff hstep]
  simp only [List.map_id]

/-- The fault that is met first is the one that is reported. -/
theorem orderByPath_eq_error_iff {e : QueryError} :
    q.orderByPath sort map = .error e ↔ SortFailure map sort e := by
  rw [orderByPath_eq_forTerms]
  constructor
  · intro h
    cases hparse : SortSpec.parse sort with
    | error e' =>
      rw [SortSpec.forTerms_of_unreadable hparse, Except.error.injEq] at h
      exact .unreadable (h ▸ hparse)
    | ok spec =>
      rw [SortSpec.forTerms_of_parse hparse, map_eq_error_iff] at h
      obtain ⟨before, term, after, hterms, hbefore, hterm⟩ := mapM_eq_error_iff.1 h
      obtain ⟨hresolve, rfl⟩ := orderKey_eq_error_iff.1 hterm
      exact .unresolved hparse hterms (fun t ht => exists_orderKey_iff.1 (hbefore t ht)) hresolve
  · rintro (hparse | ⟨hparse, hterms, hbefore, hresolve⟩)
    · exact SortSpec.forTerms_of_unreadable hparse
    · rw [SortSpec.forTerms_of_parse hparse, map_eq_error_iff, mapM_eq_error_iff]
      exact ⟨_, _, _, hterms, fun t ht => exists_orderKey_iff.2 (hbefore t ht),
        orderKey_eq_error_iff.2 ⟨hresolve, rfl⟩⟩

theorem exists_orderByPath_ok_iff :
    (∃ q', q.orderByPath sort map = .ok q') ↔
      ∃ spec, SortSpec.parse sort = .ok spec ∧
        ∀ term ∈ spec.terms, ∃ field, map.resolve term.path = .ok field := by
  simp only [orderByPath_eq_ok_iff_orders]
  constructor
  · rintro ⟨_, spec, hparse, keys, hkeys, rfl⟩
    refine ⟨spec, hparse, fun term hterm => ?_⟩
    obtain ⟨key, -, field, hfield, -⟩ := exists_right_of_mem hkeys hterm
    exact ⟨field, hfield⟩
  · rintro ⟨spec, hparse, hresolve⟩
    have horders : ∀ term ∈ spec.terms, ∃ key, term.Orders map key := by
      intro term hterm
      obtain ⟨field, hfield⟩ := hresolve term hterm
      exact ⟨_, field, hfield, rfl⟩
    obtain ⟨keys, hkeys⟩ := exists_forall₂ horders
    exact ⟨_, spec, hparse, keys, hkeys, rfl⟩

/-! ## The outcome -/

/-- **What becomes of a query that is ordered by a sort text.**  It is ordered if and only if the
text can be read and the paths of all its terms resolve.  Then it has one key for each term, in the
order of the terms: the column of the field, in the direction of the term.  Of the order that it had
nothing is left, and all else in it is as it was.

A text that cannot be read is refused as it is by itself, and this has no cause.  If a path does not
resolve, the first term with such a path is reported, whatever the terms behind it are: the message
quotes its key as the client has spelled it at this place of the text, and the only cause is that
this same key does not resolve. -/
theorem orderByPath_outcome (q : Query) (sort : String) (map : FieldMap) :
    ((∃ q', q.orderByPath sort map = .ok q') ↔
      ∃ spec, SortSpec.parse sort = .ok spec ∧
        ∀ term ∈ spec.terms, ∃ field, map.resolve term.path = .ok field) ∧
    (∀ q', q.orderByPath sort map = .ok q' →
      ∃ spec, SortSpec.parse sort = .ok spec ∧
        List.Forall₂ (SortTerm.Orders map) spec.terms q'.ordering ∧
        q'.source = q.source ∧ q'.conditions = q.conditions ∧ q'.window = q.window) ∧
    (∀ e, SortSpec.parse sort = .error e →
      q.orderByPath sort map = .error e ∧ e.code = "INVALID_SORT_SPECIFICATION" ∧
        e.cause? = none ∧ e.sources = []) ∧
    ∀ spec, SortSpec.parse sort = .ok spec →
      (∃ term ∈ spec.terms, ∀ field, map.resolve term.path ≠ .ok field) →
      ∃ before term after e, spec.terms = before ++ term :: after ∧
        (∀ t ∈ before, ∃ field, map.resolve t.path = .ok field) ∧
        (∀ field, map.resolve term.path ≠ .ok field) ∧
        (∃ part, (SortSpec.segments sort)[before.length]? = some part ∧
          SortTerm.ReadsAs part term) ∧
        q.orderByPath sort map = .error e ∧ e.code = "INVALID_SORT_SPECIFICATION" ∧
        e.message = "invalid sort specification: invalid field in sort path '" ++ term.key ++ "'" ∧
        e.cause? = some (.unresolvableField term.key) ∧
        e.sources = ["unresolvable field: " ++ term.key] ∧ e.unresolved? = some term.key := by
  refine ⟨exists_orderByPath_ok_iff, fun q' hq' => ?_, fun e hparse => ?_,
    fun spec hparse hterm => ?_⟩
  · obtain ⟨spec, hparse, keys, hkeys, rfl⟩ := orderByPath_eq_ok_iff_orders.1 hq'
    exact ⟨spec, hparse, hkeys, rfl, rfl, rfl⟩
  · obtain ⟨fault, rfl⟩ := SortSpec.exists_fault_of_parse hparse
    exact ⟨orderByPath_eq_error_iff.2 (.unreadable hparse), rfl, rfl, rfl⟩
  · cases houtcome : q.orderByPath sort map with
    | ok q' =>
      obtain ⟨spec', hparse', hresolve⟩ := exists_orderByPath_ok_iff.1 ⟨q', houtcome⟩
      obtain rfl : spec = spec' := Except.ok.inj (hparse.symm.trans hparse')
      obtain ⟨term, hmem, hnone⟩ := hterm
      obtain ⟨field, hfield⟩ := hresolve term hmem
      exact absurd hfield (hnone field)
    | error e =>
      obtain hparse' | ⟨hparse', hterms, hbefore, hresolve⟩ := orderByPath_eq_error_iff.1 houtcome
      · rw [hparse] at hparse'
        cases hparse'
      · obtain rfl := Except.ok.inj (hparse.symm.trans hparse')
        refine ⟨_, _, _, _, hterms, hbefore, fun field hfield => ?_,
          SortSpec.exists_part_of_term hparse hterms, rfl, rfl, rfl, rfl, rfl, rfl⟩
        rw [hresolve] at hfield
        cases hfield

/-- An order of two terms takes the place of the one that the query had, and of three terms the
second is reported. -/
theorem orderByPath_outcome_nested_and_refused :
    let departments := (FieldMap.ofEntity ⟨"department", []⟩).insert "code" ⟨"code", "code"⟩ .string
    let map := ((FieldMap.ofEntity ⟨"employee", []⟩).insert "name" ⟨"name", "full_name"⟩ .string)
      |>.nest "department" departments
    let q : Query := ⟨.select ⟨"employee", []⟩, [], [⟨⟨"employee", "id"⟩, .descending⟩], none⟩
    let terms : List SortTerm :=
      [⟨["name"], .ascending⟩, ⟨["Nope", "X"], .descending⟩, ⟨["y"], .ascending⟩]
    (∃ q', q.orderByPath "-Department.code,name" map = .ok q' ∧ q'.ordering.length = 2 ∧
      q'.source = q.source ∧ q'.conditions = q.conditions ∧ q'.window = q.window) ∧
    (∃ e, q.orderByPath " " map = .error e ∧ e.cause? = none) ∧
    ∃ before term after e, terms = before ++ term :: after ∧
      (∀ field, map.resolve term.path ≠ .ok field) ∧
      q.orderByPath "name,-Nope.X,y" map = .error e ∧ e.unresolved? = some term.key := by
  intro departments map q terms
  refine ⟨?_, ?_, ?_⟩
  · let read : SortSpec := ⟨[⟨["Department", "code"], .descending⟩, ⟨["name"], .ascending⟩], nofun⟩
    have hparse : SortSpec.parse "-Department.code,name" = .ok read := by decide
    have hresolve : ∀ term ∈ read.terms, ∃ field, map.resolve term.path = .ok field := by
      rintro _ (_ | ⟨_, _ | ⟨_, ⟨⟩⟩⟩)
      · exact ⟨⟨⟨"department", "code"⟩, .string⟩, by decide⟩
      · exact ⟨⟨⟨"employee", "full_name"⟩, .string⟩, by decide⟩
    obtain ⟨hordered, hkeys, -⟩ := orderByPath_outcome q "-Department.code,name" map
    obtain ⟨q', hq'⟩ := hordered.2 ⟨read, hparse, hresolve⟩
    obtain ⟨spec, hspec, hterms, hrest⟩ := hkeys q' hq'
    obtain rfl := Except.ok.inj (hparse.symm.trans hspec)
    exact ⟨q', hq', hterms.length_eq.symm, hrest⟩
  · obtain ⟨-, -, hunreadable, -⟩ := orderByPath_outcome q " " map
    have hblank : SortSpec.parse " " = .error (.invalidSort .blank) := by decide
    exact ⟨_, (hunreadable _ hblank).1, rfl⟩
  · obtain ⟨-, -, -, hunresolved⟩ := orderByPath_outcome q "name,-Nope.X,y" map
    have hparse : SortSpec.parse "name,-Nope.X,y" = .ok ⟨terms, nofun⟩ := by decide
    have hnope : map.resolve ["Nope", "X"] = .error (.unresolvableField "Nope.X") := by decide
    obtain ⟨before, term, after, e, hterms, -, hnone, -, herror, -, -, -, -, hkey⟩ :=
      hunresolved _ hparse ⟨⟨["Nope", "X"], .descending⟩, by simp [terms], by simp [hnope]⟩
    exact ⟨before, term, after, e, hterms, hnone, herror, hkey⟩

end Query
end ListQuery
