import ListQuery.Proofs.FieldMap.Calls
import ListQuery.Proofs.Query.FilterOutcome
import ListQuery.Proofs.Query.OrderingOutcome

/-!
# Using a registered name

A field map keeps its own fields under whole names, while clients reach fields by paths.  A name
without a dot is a path of one name, so that both come to the same.  A name with a dot is a path
through nested maps, and a field that is registered under such a name as a whole is out of reach.

## What is here

* `IsSortName` — the names that stand for themselves in a sort text.
* `FieldMap.FiltersBy`, `FieldMap.SortsBy` — filters and sort texts can use a name for a field.
* `FieldMap.filtersBy`, `FieldMap.sortsBy` — a name without a dot can be used for the field that the
  map has under it.
* `FieldMap.find?_of_dot` — a name with a dot is looked up in nested maps, and nowhere else.
* `FieldMap.History.registered_name_is_usable` — **every registered name without a dot can be
  used**, and one with a dot resolves to its field only if nested maps happen to lead there.
* `FieldMap.History.dotted_name_is_out_of_reach` — a name with a dot that cannot be used.
-/

set_option autoImplicit false
namespace ListQuery

/-! ## Names in sort texts -/

/-- A name that a sort text can hold as a term, and which then stands for itself, in ascending
order. -/
structure IsSortName (name : String) : Prop where
  ne_empty : name ≠ ""
  no_comma : ',' ∉ name.toList
  trimmed : Text.IsTrimmed name
  no_minus : name.toList.head? ≠ some '-'

namespace IsSortName

variable {name : String}

theorem trim_eq (h : IsSortName name) : Text.trim name = name := by
  have htrims : Text.Trims name name := ⟨⟨[], [], by simp, nofun, nofun⟩, h.trimmed⟩
  exact htrims.trim_eq

theorem ofText_eq (h : IsSortName name) (hdot : '.' ∉ name.toList) :
    SortTerm.ofText name = ⟨[name], .ascending⟩ := by
  rw [SortTerm.ofText_of_plain h.no_minus, Text.pieces_of_not_mem hdot]

theorem parts_eq (h : IsSortName name) : SortSpec.parts name = [name] := by
  simp [SortSpec.parts, Text.pieces_of_not_mem h.no_comma, h.trim_eq, h.ne_empty]

/-- By itself, such a name is a sort text of one term. -/
theorem parse_eq (h : IsSortName name) (hdot : '.' ∉ name.toList)
    (hshort : name.utf8ByteSize ≤ 1024) :
    SortSpec.parse name = .ok ⟨[⟨[name], .ascending⟩], List.cons_ne_nil _ _⟩ := by
  have hblank : Text.isBlankText name = false := by
    rw [Text.isBlankText_eq_false_iff, ← Text.trim_ne_empty_iff, h.trim_eq]
    exact h.ne_empty
  have hlong : ¬ name.utf8ByteSize > SortSpec.maxBytes := Nat.not_lt.2 hshort
  simp [SortSpec.parse, hblank, hlong, h.parts_eq, h.ofText_eq hdot]

end IsSortName

namespace FieldMap

variable {map : FieldMap} {name : String} {field : Field}

/-! ## What a name can be used for -/

/-- Filters can use a name for a field. -/
structure FiltersBy (map : FieldMap) (name : String) (field : Field) : Prop where
  /-- By itself, an active value under the name adds the condition that it puts on the field. -/
  alone : ∀ (q : Query) (value : FilterValue) (condition : Condition), value.isActive = true →
    Tests name field value condition →
    q.applyFilters (some [(name, value)]) map [] = .ok (q.filter [condition])
  /-- Among other terms it adds such a condition at its own place. -/
  among : ∀ {α : Type} [FilterObject α] (filter : α) (excluded : List String) (q q' : Query)
    (i : Nat) (value : FilterValue), q.applyFilters (some filter) map excluded = .ok q' →
    (appliedTerms excluded filter)[i]? = some (name, value) →
    ∃ condition, q'.conditions[q.conditions.length + i]? = some condition ∧
      Tests name field value condition
  /-- No filter is refused because the name does not resolve. -/
  resolvable : ∀ {α : Type} [FilterObject α] (filter : α) (excluded : List String) (q : Query),
    q.applyFilters (some filter) map excluded ≠ .error (.unresolvableField name)

/-- Sort texts can use a name for a field, in ascending order. -/
structure SortsBy (map : FieldMap) (name : String) (field : Field) : Prop where
  /-- By itself, the name orders a query by the field. -/
  alone : ∀ q : Query,
    q.orderByPath name map = .ok { q with ordering := [⟨field.column, .ascending⟩] }
  /-- Among other terms it gives such a key at its own place. -/
  among : ∀ (q q' : Query) (sort : String) (i : Nat), q.orderByPath sort map = .ok q' →
    (SortSpec.parts sort)[i]? = some name →
    q'.ordering[i]? = some ⟨field.column, .ascending⟩

/-! ## Names without a dot -/

theorem find?_of_no_dot (hdot : '.' ∉ name.toList) :
    map.find? (Text.pieces '.' name) = map.get? name := by
  rw [Text.pieces_of_not_mem hdot, find?]

theorem filtersBy (hdot : '.' ∉ name.toList) (hfield : map.get? name = some field) :
    map.FiltersBy name field := by
  have hfind : map.find? (Text.pieces '.' name) = some field := (find?_of_no_dot hdot).trans hfield
  refine ⟨fun q value condition hactive htests => ?_,
    fun filter excluded q q' i value hfiltered hterm => ?_, fun filter excluded q herror => ?_⟩
  · have hterms : appliedTerms [] [(name, value)] = [(name, value)] := by
      simp [appliedTerms, FilterObject.terms, hactive]
    refine Query.applyFilters_eq_ok_iff.2 ⟨[condition], ?_, rfl⟩
    rw [hterms]
    exact .cons (htests.answers hfind) .nil
  · obtain ⟨conditions, hconditions, rfl⟩ := Query.applyFilters_eq_ok_iff.1 hfiltered
    obtain ⟨condition, hcondition, other, hother, htests, -⟩ :=
      exists_right_of_getElem? hconditions hterm
    rw [hfind, Option.some.injEq] at hother
    refine ⟨condition, ?_, hother ▸ htests⟩
    rw [Query.filter, List.getElem?_append_right (Nat.le_add_right _ _), Nat.add_sub_cancel_left,
      hcondition]
  · rw [Query.applyFilters_eq, map_eq_error_iff] at herror
    obtain ⟨-, term, -, -, -, hrefused⟩ := filterCondition_eq_error_iff.1 herror
    rcases hrefused with hnone | _
    rw [hfind] at hnone
    cases hnone

theorem sortsBy (hdot : '.' ∉ name.toList) (hfield : map.get? name = some field)
    (hname : IsSortName name) (hshort : name.utf8ByteSize ≤ 1024) : map.SortsBy name field := by
  have hresolve : map.resolve [name] = .ok field := by
    rw [resolve_eq_ok_iff, find?, hfield]
  refine ⟨fun q => ?_, fun q q' sort i hordered hpart => ?_⟩
  · exact Query.orderByPath_eq_ok_iff_orders.2
      ⟨_, hname.parse_eq hdot hshort, _, .cons ⟨field, hresolve, rfl⟩ .nil, rfl⟩
  · obtain ⟨spec, hparse, keys, hkeys, rfl⟩ := Query.orderByPath_eq_ok_iff_orders.1 hordered
    have hterm : spec.terms[i]? = some ⟨[name], .ascending⟩ := by
      rw [SortSpec.terms_of_parse hparse, List.getElem?_map, hpart, Option.map_some,
        hname.ofText_eq hdot]
    obtain ⟨key, hkey, other, hother, rfl⟩ := exists_right_of_getElem? hkeys hterm
    rw [hresolve, Except.ok.injEq] at hother
    rw [hkey, hother]

/-! ## Names with a dot -/

/-- A name with a dot begins with a relation, and the field is one of the map nested under it. -/
theorem find?_of_dot (hdot : '.' ∈ name.toList) :
    map.find? (Text.pieces '.' name) = some field ↔
      ∃ relation rest below, Text.pieces '.' name = relation :: rest ∧ rest ≠ [] ∧
        map.nested.get? relation = some below ∧ below.find? rest = some field := by
  obtain ⟨relation, rest, hpieces, hne⟩ := Text.exists_pieces_of_mem hdot
  rw [hpieces, find?_cons map relation hne, Option.bind_eq_some_iff]
  constructor
  · rintro ⟨below, hbelow, hfind⟩
    exact ⟨relation, rest, below, rfl, hne, hbelow, hfind⟩
  · rintro ⟨_, _, below, ⟨⟩, -, hbelow, hfind⟩
    exact ⟨below, hbelow, hfind⟩

namespace History

/-- A name that was registered has a field, that of the last call for it. -/
theorem exists_get?_of_mem_calls {h : History} {name : String} {column : Column} {kind : FieldKind}
    (hcall : .insert name column kind ∈ h.calls) : ∃ field, h.map.get? name = some field := by
  rw [get?_map, inserted?_eq_findSome?]
  refine Option.isSome_iff_exists.1 (List.findSome?_isSome_iff.2 ⟨_, List.mem_reverse.2 hcall, ?_⟩)
  rw [Call.field?, if_pos rfl, Option.isSome_some]

/-- **Which registered names can be used.**  Let a field map have come about in any way.  Every name
that was registered has a field in it.  Whatever name has a field in it resolves to this field, and
can be used for it by filters and, if it stands for itself there and is not too long, by sort texts,
as long as there is no dot in it.

A name with a dot is a path, and resolves to the field if and only if the nested maps, for
themselves, lead to this same field. -/
theorem registered_name_is_usable (h : History) :
    (∀ name column kind, .insert name column kind ∈ h.calls →
      ∃ field, h.map.get? name = some field) ∧
    ∀ name field, h.map.get? name = some field →
      ('.' ∉ name.toList → h.map.resolveName name = .ok field ∧ h.map.FiltersBy name field ∧
        (IsSortName name → name.utf8ByteSize ≤ 1024 → h.map.SortsBy name field)) ∧
      ('.' ∈ name.toList → (h.map.resolveName name = .ok field ↔
        ∃ relation rest below, Text.pieces '.' name = relation :: rest ∧ rest ≠ [] ∧
          h.nested? relation = some below ∧ below.Registers rest field)) := by
  refine ⟨fun name column kind => exists_get?_of_mem_calls,
    fun name field hfield => ⟨fun hdot => ⟨?_, filtersBy hdot hfield, sortsBy hdot hfield⟩,
      fun hdot => ?_⟩⟩
  · rw [resolveName_eq_ok_iff, find?_of_no_dot hdot, hfield]
  · rw [resolveName_eq_ok_iff, find?_of_dot hdot]
    simp only [nested_map, Option.map_eq_some_iff]
    constructor
    · rintro ⟨relation, rest, _, hpieces, hne, ⟨below, hbelow, rfl⟩, hfind⟩
      exact ⟨relation, rest, below, hpieces, hne, hbelow, find?_map.1 hfind⟩
    · rintro ⟨relation, rest, below, hpieces, hne, hbelow, hregisters⟩
      exact ⟨relation, rest, _, hpieces, hne, ⟨below, hbelow, rfl⟩, find?_map.2 hregisters⟩

/-- A name without a dot, and one with a dot under which the nested map has the same field. -/
theorem registered_name_is_usable_plain_and_dotted :
    let managers := (ofEntity ⟨"employee", []⟩).insert "ID" ⟨"id", "id"⟩ .integer
    let h := (((ofEntity ⟨"employee", []⟩).insert "Name" ⟨"name", "full_name"⟩ .string).insert
      "manager.id" ⟨"id", "id"⟩ .integer).nest "Manager" managers
    (∃ field, h.map.get? "Name" = some field) ∧
    h.map.FiltersBy "NAME" ⟨⟨"employee", "full_name"⟩, .string⟩ ∧
    h.map.SortsBy "NAME" ⟨⟨"employee", "full_name"⟩, .string⟩ ∧
    h.map.resolveName "manager.id" = .ok ⟨⟨"employee", "id"⟩, .integer⟩ := by
  intro managers h
  obtain ⟨hregistered, husable⟩ := registered_name_is_usable h
  have hname : h.map.get? "NAME" = some ⟨⟨"employee", "full_name"⟩, .string⟩ := by decide
  have hdotted : h.map.get? "manager.id" = some ⟨⟨"employee", "id"⟩, .integer⟩ := by decide
  obtain ⟨-, hfilters, hsorts⟩ := (husable "NAME" _ hname).1 (by decide)
  refine ⟨hregistered "Name" ⟨"name", "full_name"⟩ .string (.head _), hfilters,
    hsorts ?_ (by decide), ((husable "manager.id" _ hdotted).2 (by decide)).2 ?_⟩
  · exact ⟨by decide, by decide, ⟨by rintro c ⟨⟩; decide, by rintro c ⟨⟩; decide⟩, by decide⟩
  · exact ⟨"manager", ["id"], managers, by decide, by decide, if_pos (by decide), .own (by decide)⟩

/-- A name with a dot has a field in the map, but clients cannot use it. -/
theorem dotted_name_is_out_of_reach :
    let h := (ofEntity ⟨"employee", []⟩).insert "department.id" ⟨"department_id", "department_id"⟩
      .integer
    let q := Query.all (.select ⟨"employee", []⟩)
    h.map.get? "department.id" = some ⟨⟨"employee", "department_id"⟩, .integer⟩ ∧
    h.map.resolveName "department.id" = .error (.unresolvableField "department.id") ∧
    q.applyFilters (some [("department.id", FilterValue.flag true)]) h.map [] =
      .error (.unresolvableField "department.id") ∧
    q.orderByPath "department.id" h.map =
      .error (.invalidSortField "department.id" (.unresolvableField "department.id")) := by
  decide

end History
end FieldMap
end ListQuery
