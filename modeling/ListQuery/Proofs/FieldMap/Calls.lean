import ListQuery.Proofs.FieldMap.History
import ListQuery.Proofs.Outcome
import ListQuery.Proofs.Sort.Terms

/-!
# Paths through the calls of a history

A path is followed from map to map.  At each of them one call decides: the last one that nests a map
under the next name of the path, or, at its end, the last one that registers a field under its last
name.  Calls for other names do not matter, wherever they stand among the calls, and however deep
the map is nested that they are made for.

## What is here

* `History.Call`, `History.calls` — one call in the making of a map, and all of them in their order.
* `History.LeadsTo` — a path leads to a field by the last calls for its names.
  `History.leadsTo_iff_registers` says that these are the fields that a history registers.
* `History.Adds`, `History.Call.IsPassed` — one more call somewhere in a history, and the paths that
  come across what it registers.  `History.resolve_of_adds` says that **no other path is affected**,
  by induction on the place of the call.
* `History.resolve_follows_last_calls` — **what a path resolves to**, and what is reported for a
  path that leads nowhere.
-/

set_option autoImplicit false
namespace ListQuery

namespace FieldMap
namespace History

/-! ## Calls -/

/-- A call in the making of a map. -/
inductive Call where
  /-- A column of the entity is registered under a name. -/
  | insert (name : String) (column : Column) (kind : FieldKind)
  /-- The map of a related entity is nested under a relation. -/
  | nest (relation : String) (related : History)

/-- One call more. -/
def add (h : History) : Call → History
  | .insert name column kind => h.insert name column kind
  | .nest relation related => h.nest relation related

/-- The calls that a map was made with, in their order. -/
def calls : History → List Call
  | ofEntity _ => []
  | insert before name column kind => before.calls ++ [.insert name column kind]
  | nest before relation related => before.calls ++ [.nest relation related]

namespace Call

/-- What a call for the map of an entity registers as the field with a name, in whatever case. -/
def field? (table name : String) : Call → Option Field
  | insert other column kind =>
    if Text.lower name = Text.lower other then some ⟨⟨table, column.name⟩, kind⟩ else none
  | nest _ _ => none

/-- The map that a call nests under a relation, in whatever case. -/
def related? (relation : String) : Call → Option History
  | insert _ _ _ => none
  | nest other related => if Text.lower relation = Text.lower other then some related else none

end Call

theorem inserted?_eq_findSome? (h : History) (name : String) :
    h.inserted? name = h.calls.reverse.findSome? (Call.field? h.table name) := by
  induction h with
  | ofEntity entity => rfl
  | insert before other column kind ih =>
    rw [inserted?, calls, List.reverse_append, List.reverse_singleton, List.singleton_append,
      List.findSome?_cons, Call.field?, ih]
    split <;> rfl
  | nest before relation related ih =>
    rw [inserted?, calls, List.reverse_append, List.reverse_singleton, List.singleton_append,
      List.findSome?_cons, Call.field?, ih]
    rfl

theorem nested?_eq_findSome? (h : History) (relation : String) :
    h.nested? relation = h.calls.reverse.findSome? (Call.related? relation) := by
  induction h with
  | ofEntity entity => rfl
  | insert before name column kind ih =>
    rw [nested?, calls, List.reverse_append, List.reverse_singleton, List.singleton_append,
      List.findSome?_cons, Call.related?, ih]
  | nest before other related ih =>
    rw [nested?, calls, List.reverse_append, List.reverse_singleton, List.singleton_append,
      List.findSome?_cons, Call.related?, ih]
    split <;> rfl

/-- The field that a path leads to: every name but the last leads into the map that the last call
for it has nested, and the last name to the field that the last call for it has registered. -/
inductive LeadsTo : History → (path : List String) → Field → Prop
  | field {h : History} {name : String} {field : Field} {before : List Call} {call : Call}
      {after : List Call} (hcalls : h.calls = before ++ call :: after)
      (hcall : call.field? h.table name = some field)
      (hlast : ∀ later ∈ after, later.field? h.table name = none) :
      LeadsTo h [name] field
  | related {h below : History} {relation : String} {path : List String} {field : Field}
      {before : List Call} {call : Call} {after : List Call}
      (hcalls : h.calls = before ++ call :: after) (hcall : call.related? relation = some below)
      (hlast : ∀ later ∈ after, later.related? relation = none) (hpath : LeadsTo below path field) :
      LeadsTo h (relation :: path) field

/-- The last calls decide what a history registers. -/
theorem leadsTo_iff_registers {h : History} {path : List String} {field : Field} :
    h.LeadsTo path field ↔ h.Registers path field := by
  constructor
  · intro hleads
    induction hleads with
    | field hcalls hcall hlast =>
      refine .own ?_
      rw [inserted?_eq_findSome?]
      exact findSome?_reverse_eq_some_iff.2 ⟨_, _, _, hcalls, hcall, hlast⟩
    | related hcalls hcall hlast _ ih =>
      refine .related ?_ ih
      rw [nested?_eq_findSome?]
      exact findSome?_reverse_eq_some_iff.2 ⟨_, _, _, hcalls, hcall, hlast⟩
  · intro hregisters
    induction hregisters with
    | own hfield =>
      rw [inserted?_eq_findSome?] at hfield
      obtain ⟨before, call, after, hcalls, hcall, hlast⟩ := findSome?_reverse_eq_some_iff.1 hfield
      exact .field hcalls hcall hlast
    | related hbelow _ ih =>
      rw [nested?_eq_findSome?] at hbelow
      obtain ⟨before, call, after, hcalls, hcall, hlast⟩ := findSome?_reverse_eq_some_iff.1 hbelow
      exact .related hcalls hcall hlast ih

/-! ## One call more -/

/-- `h'` comes about as `h` does, but with one call more.  It may stand anywhere among the calls for
the map itself, or for a map that is nested in it; `place` holds the relations that lead there. -/
inductive Adds (call : Call) : (place : List String) → History → History → Prop
  | here (h : History) : Adds call [] h (h.add call)
  | before {place : List String} {h h' : History} (hadds : Adds call place h h') (later : Call) :
      Adds call place (h.add later) (h'.add later)
  | inside {place : List String} {related related' : History}
      (hadds : Adds call place related related') (h : History) (relation : String) :
      Adds call (relation :: place) (h.nest relation related) (h.nest relation related')

/-- A path that comes across what a call registers for the map that `place` leads to: it ends at the
field, or goes on behind the relation. -/
inductive Call.IsPassed : Call → (place path : List String) → Prop
  | field {name other : String} (hname : Text.lower other = Text.lower name) (column : Column)
      (kind : FieldKind) : IsPassed (.insert name column kind) [] [other]
  | related {relation other : String} (hrelation : Text.lower other = Text.lower relation)
      (related : History) {path : List String} (hne : path ≠ []) :
      IsPassed (.nest relation related) [] (other :: path)
  | inside {call : Call} {place path : List String} (hpassed : IsPassed call place path)
      {relation other : String} (hrelation : Text.lower other = Text.lower relation) :
      IsPassed call (relation :: place) (other :: path)

theorem table_add (h : History) (call : Call) : (h.add call).table = h.table := by
  cases call <;> rfl

theorem table_of_adds {call : Call} {place : List String} {h h' : History}
    (hadds : Adds call place h h') : h'.table = h.table := by
  induction hadds with
  | here h => exact h.table_add call
  | before _ later ih => rw [table_add, table_add, ih]
  | inside _ h relation _ => rfl

/-- A call matters to no path that does not come across what it registers. -/
theorem find?_add_of_not_isPassed (h : History) {call : Call} {path : List String}
    (hpath : ¬ call.IsPassed [] path) : (h.add call).map.find? path = h.map.find? path := by
  cases call with
  | insert name column kind =>
    rw [add, map, FieldMap.find?_insert, if_neg]
    intro hnames
    obtain ⟨other, rfl⟩ := List.length_eq_one_iff.1 (by simpa using congrArg List.length hnames)
    exact hpath (.field (List.head_eq_of_cons_eq hnames) column kind)
  | nest relation related =>
    rcases path with _ | ⟨first, _ | ⟨second, rest⟩⟩
    · rfl
    · rfl
    · rw [add, map, FieldMap.find?_nest, if_neg]
      exact fun hrelation => hpath (.related hrelation related (List.cons_ne_nil second rest))

/-- A call does not tell apart two maps of one table that find the same, and so do the maps after
it. -/
theorem find?_add_congr {h h' : History} (htable : h'.table = h.table) {path : List String}
    (hfind : h'.map.find? path = h.map.find? path) (call : Call) :
    (h'.add call).map.find? path = (h.add call).map.find? path := by
  cases call with
  | insert name column kind =>
    rw [add, add, map, map, FieldMap.find?_insert, FieldMap.find?_insert, table_map, table_map,
      htable, hfind]
  | nest relation related =>
    rcases path with _ | ⟨first, _ | ⟨second, rest⟩⟩
    · rfl
    · exact hfind
    · rw [add, add, map, map, FieldMap.find?_nest, FieldMap.find?_nest, hfind]

theorem find?_of_adds {call : Call} {place : List String} {h h' : History}
    (hadds : Adds call place h h') {path : List String} (hpath : ¬ call.IsPassed place path) :
    h'.map.find? path = h.map.find? path := by
  induction hadds generalizing path with
  | here h => exact h.find?_add_of_not_isPassed hpath
  | before hadds later ih => exact find?_add_congr (table_of_adds hadds) (ih hpath) later
  | inside _ h relation ih =>
    rcases path with _ | ⟨first, _ | ⟨second, rest⟩⟩
    · rfl
    · rfl
    · rw [map, map, FieldMap.find?_nest, FieldMap.find?_nest]
      split
      · next hrelation => exact ih fun hpassed => hpath (.inside hpassed hrelation)
      · rfl

/-- **A call affects only the paths that come across what it registers**, wherever it is made. -/
theorem resolve_of_adds {call : Call} {place : List String} {h h' : History}
    (hadds : Adds call place h h') {path : List String} (hpath : ¬ call.IsPassed place path) :
    h'.map.resolve path = h.map.resolve path := by
  rw [resolve, resolve, find?_of_adds hadds hpath]

/-! ## What is resolved -/

/-- A term of a parsed sort text resolves alike by its path and by its key. -/
theorem resolveName_key (m : FieldMap) {raw : String} {spec : SortSpec}
    (hparse : SortSpec.parse raw = .ok spec) {term : SortTerm} (hterm : term ∈ spec.terms) :
    m.resolveName term.key = m.resolve term.path := by
  rw [resolveName, SortTerm.key, (SortSpec.isSortPath_of_parse hparse hterm).pieces_join]

/-- **What a path resolves to.**  A path resolves to the field that the last calls for its names
lead to, which belongs to the table of the entity whose map it was registered in.  A path for which
there is none, such as the empty one, is reported with dots between its names, as they were spelled.

A map that is nested takes the place of an earlier one as a whole.  A field and a relation of one
name do not hide each other, since a call that registers a field matters only to paths of one name,
and a call that nests a map only to longer ones.  Wherever a call is made, in the map or in one that
is nested in it, nothing changes for a path that does not come across what the call registers.  And
for the terms of a sort text it makes no difference whether their paths or their keys are
resolved. -/
theorem resolve_follows_last_calls (h : History) :
    (∀ path field, h.map.resolve path = .ok field ↔ h.LeadsTo path field) ∧
    (∀ path e, h.map.resolve path = .error e ↔
      (∀ field, ¬ h.LeadsTo path field) ∧ e = .unresolvableField (Text.join '.' path)) ∧
    (∀ relation related first rest field, rest ≠ [] → Text.lower first = Text.lower relation →
      ((h.nest relation related).map.resolve (first :: rest) = .ok field ↔
        related.map.resolve rest = .ok field)) ∧
    (∀ name column kind path, path.length ≠ 1 →
      (h.insert name column kind).map.resolve path = h.map.resolve path) ∧
    (∀ relation related name,
      (h.nest relation related).map.resolve [name] = h.map.resolve [name]) ∧
    (∀ call place h', Adds call place h h' → ∀ path, ¬ call.IsPassed place path →
      h'.map.resolve path = h.map.resolve path) ∧
    ∀ raw spec, SortSpec.parse raw = .ok spec → ∀ term ∈ spec.terms,
      h.map.resolveName term.key = h.map.resolve term.path := by
  refine ⟨fun path field => ?_, fun path e => ?_, ?_, ?_, ?_,
    fun call place h' hadds path hpath => resolve_of_adds hadds hpath,
    fun raw spec hparse term hterm => resolveName_key h.map hparse hterm⟩
  · rw [resolve_eq_ok_iff, find?_map, leadsTo_iff_registers]
  · simp only [resolve_eq_error_iff, leadsTo_iff_registers, ← find?_map,
      Option.eq_none_iff_forall_ne_some]
  · intro relation related first rest field hne hrelation
    obtain ⟨second, rest, rfl⟩ := List.exists_cons_of_ne_nil hne
    rw [resolve_eq_ok_iff, resolve_eq_ok_iff, map, FieldMap.find?_nest, if_pos hrelation]
  · intro name column kind path hlength
    have hadds : Adds (.insert name column kind) [] h (h.insert name column kind) := .here h
    refine resolve_of_adds hadds ?_
    rintro ⟨⟩
    exact hlength rfl
  · intro relation related name
    have hadds : Adds (.nest relation related) [] h (h.nest relation related) := .here h
    refine resolve_of_adds hadds ?_
    rintro (_ | ⟨-, -, hne⟩)
    exact hne rfl

theorem resolve_follows_last_calls_replaced_and_deep :
    let units := (ofEntity ⟨"unit", []⟩).insert "name" ⟨"name", "name"⟩ .string
    let departments := (ofEntity ⟨"department", []⟩).insert "CODE" ⟨"code", "short_code"⟩ .string
    let employees := ((ofEntity ⟨"employee", []⟩).nest "Department" units).insert
      "department" ⟨"department_id", "department_id"⟩ .integer
    let h := employees.nest "DEPARTMENT" departments
    let deeper := employees.nest "DEPARTMENT" (departments.insert "name" ⟨"name", "title"⟩ .string)
    h.map.resolve ["department", "Code"] = .ok ⟨⟨"department", "short_code"⟩, .string⟩ ∧
    h.map.resolve ["Department"] = .ok ⟨⟨"employee", "department_id"⟩, .integer⟩ ∧
    h.map.resolve ["Department", "name"] = .error (.unresolvableField "Department.name") ∧
    h.map.resolve [] = .error (.unresolvableField "") ∧
    deeper.map.resolve ["Department", "code"] = h.map.resolve ["Department", "code"] := by
  intro units departments employees h deeper
  obtain ⟨hok, herror, -, -, -, hadds, -⟩ := resolve_follows_last_calls h
  have hunder : departments.calls = [] ++ [.insert "CODE" ⟨"code", "short_code"⟩ .string] := rfl
  have hlast : h.calls = employees.calls ++ [.nest "DEPARTMENT" departments] := rfl
  have hown : h.calls = [.nest "Department" units] ++
      .insert "department" ⟨"department_id", "department_id"⟩ .integer ::
        [.nest "DEPARTMENT" departments] := rfl
  have hdepartments : Call.related? "department" (.nest "DEPARTMENT" departments) =
      some departments := by
    rw [Call.related?, if_pos (by decide)]
  refine ⟨(hok _ _).2 ?_, (hok _ _).2 ?_, (herror _ _).2 ⟨?_, by decide⟩,
    (herror _ _).2 ⟨nofun, by decide⟩, ?_⟩
  · exact .related hlast hdepartments nofun (.field hunder (by decide) nofun)
  · exact .field hown (by decide) (by decide)
  · intro field hleads
    have hnone : h.map.find? ["Department", "name"] = none := by decide
    rw [leadsTo_iff_registers, ← find?_map, hnone] at hleads
    cases hleads
  · refine hadds (.insert "name" ⟨"name", "title"⟩ .string) ["DEPARTMENT"] deeper
      (.inside (.here departments) employees "DEPARTMENT") ["Department", "code"] ?_
    rintro (_ | _ | ⟨⟨hname⟩, -⟩)
    exact absurd hname (by decide)

end History
end FieldMap
end ListQuery
