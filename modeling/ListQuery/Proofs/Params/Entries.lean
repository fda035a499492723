import ListQuery.Proofs.Params.History

/-!
# The entries of parameters

Registering a value searches the entries from the front.  The first one with the name, in whatever
case, has its value replaced; if there is none, a new entry is put behind all others.  Nothing else
happens to the entries.

* `Params.names` — the names of the entries, as they are spelled and in their order.
* `Params.names_add` — **a name is added if it is not found**, and no other name changes.
* `Params.getElem?_add` — **an entry under another name stays in its place**, with its value.
* `Params.Distinct`, `Params.Distinct.add` — no two entries have one name, and registering a value
  keeps it so.  Nothing but this says that an entry is the one that is found under its name
  (`Params.Distinct.get?_of_mem`), or that its value is the one that is replaced
  (`Params.Distinct.getElem?_add_of_same`).
-/

set_option autoImplicit false
namespace ListQuery
namespace Params

/-- The names of the entries, as they are spelled and in their order. -/
def names (params : Params) : List String :=
  params.entries.map Prod.fst

theorem length_names (params : Params) : params.names.length = params.size := by
  rw [names, List.length_map, size]

theorem map_fst_addEntry (name : String) (value : ParamValue)
    (entries : List (String × ParamValue)) :
    (addEntry name value entries).map Prod.fst =
      entries.map Prod.fst ++
        if (entries.find? fun e => Text.sameAscii e.1 name).isSome then [] else [name] := by
  induction entries with
  | nil => rfl
  | cons e rest ih =>
    rcases e with ⟨n, v⟩
    by_cases hn : Text.sameAscii n name = true
    · simp [addEntry, hn]
    · have hfind : ((n, v) :: rest).find? (fun e => Text.sameAscii e.1 name) =
          rest.find? fun e => Text.sameAscii e.1 name := List.find?_cons_of_neg hn
      rw [addEntry, if_neg hn, hfind, List.map_cons, ih]
      rfl

/-- **A name is added if it is not found**, behind all others.  If it is found, the names stay as
they are. -/
theorem names_add (params : Params) (name : String) (value : ParamValue) :
    (params.add name value).names =
      params.names ++ if (params.get? name).isSome then [] else [name] := by
  rw [names, add, map_fst_addEntry, get?, Option.isSome_map]
  rfl

theorem names_add_of_isSome {params : Params} {name : String} (h : (params.get? name).isSome = true)
    (value : ParamValue) : (params.add name value).names = params.names := by
  rw [names_add, if_pos h, List.append_nil]

theorem names_add_of_eq_none {params : Params} {name : String} (h : params.get? name = none)
    (value : ParamValue) : (params.add name value).names = params.names ++ [name] := by
  rw [names_add, h]
  rfl

theorem getElem?_addEntry {name n : String} (hn : Text.sameAscii n name = false)
    (value v : ParamValue) {entries : List (String × ParamValue)} {i : Nat}
    (h : entries[i]? = some (n, v)) : (addEntry name value entries)[i]? = some (n, v) := by
  induction entries generalizing i with
  | nil => simp at h
  | cons e rest ih =>
    rcases e with ⟨m, w⟩
    rw [addEntry]
    rcases i with _ | i
    · obtain ⟨rfl, rfl⟩ : m = n ∧ w = v := by simpa using h
      simp [hn]
    · rw [List.getElem?_cons_succ] at h
      split
      · exact h
      · exact ih h

/-- **An entry under another name stays in its place**, with its spelling and its value. -/
theorem getElem?_add {params : Params} {name n : String} {v : ParamValue} {i : Nat}
    (h : params.entries[i]? = some (n, v)) (hn : Text.sameAscii n name = false)
    (value : ParamValue) : (params.add name value).entries[i]? = some (n, v) :=
  getElem?_addEntry hn value v h

/-! ## Distinct names -/

/-- No two entries have one name, in whatever case. -/
def Distinct (params : Params) : Prop :=
  params.names.Pairwise fun m n => Text.sameAscii m n = false

theorem get?_eq_none_iff {params : Params} {name : String} :
    params.get? name = none ↔ ∀ n ∈ params.names, Text.sameAscii n name = false := by
  rw [get?, Option.map_eq_none_iff, List.find?_eq_none, names, List.forall_mem_map]
  simp only [Bool.not_eq_true]

theorem get?_cons (e : String × ParamValue) (rest : List (String × ParamValue)) (name : String) :
    get? ⟨e :: rest⟩ name = if Text.sameAscii e.1 name then some e.2 else get? ⟨rest⟩ name := by
  rw [get?, get?, List.find?_cons]
  cases Text.sameAscii e.1 name <;> rfl

theorem distinct_empty : empty.Distinct :=
  List.Pairwise.nil

/-- A name that is added is not found before, so that it is different from all others. -/
theorem Distinct.add {params : Params} (h : params.Distinct) (name : String) (value : ParamValue) :
    (params.add name value).Distinct := by
  cases hfound : params.get? name with
  | some found => rwa [Distinct, names_add_of_isSome (Option.isSome_of_eq_some hfound)]
  | none =>
    rw [Distinct, names_add_of_eq_none hfound, List.pairwise_append]
    refine ⟨h, List.pairwise_singleton _ _, fun n hn other hother => ?_⟩
    obtain rfl := List.mem_singleton.1 hother
    exact get?_eq_none_iff.1 hfound n hn

/-- An entry is the one that is found under its name. -/
theorem Distinct.get?_of_mem {params : Params} (h : params.Distinct) {name : String}
    {value : ParamValue} (hmem : (name, value) ∈ params.entries) :
    params.get? name = some value := by
  obtain ⟨entries⟩ := params
  induction entries with
  | nil => cases hmem
  | cons e rest ih =>
    obtain ⟨hfirst, hrest⟩ := List.pairwise_cons.1 h
    rw [get?_cons]
    obtain rfl | hmem := List.mem_cons.1 hmem
    · exact if_pos (Text.sameAscii_self name)
    · have hother : Text.sameAscii e.1 name = false := hfirst name (List.mem_map_of_mem hmem)
      rw [if_neg (Bool.eq_false_iff.1 hother)]
      exact ih hrest hmem

/-- **The entry under a name stays in its place**, with its spelling, and has its value replaced. -/
theorem Distinct.getElem?_add_of_same {params : Params} (h : params.Distinct) {name n : String}
    {v : ParamValue} {i : Nat} (hi : params.entries[i]? = some (n, v))
    (hn : Text.sameAscii n name = true) (value : ParamValue) :
    (params.add name value).entries[i]? = some (n, value) := by
  have hfound : (params.get? name).isSome = true := by
    rw [← get?_congr hn, h.get?_of_mem (List.mem_of_getElem? hi), Option.isSome_some]
  have hspelling : ((params.add name value).entries[i]?).map Prod.fst = some n := by
    rw [← List.getElem?_map]
    change (params.add name value).names[i]? = some n
    rw [names_add_of_isSome hfound, names, List.getElem?_map, hi, Option.map_some]
  obtain ⟨⟨_, w⟩, hafter, rfl⟩ := Option.map_eq_some_iff.1 hspelling
  -- What stands there is found under the name, and so is the value that has been registered.
  have hw := (h.add name value).get?_of_mem (List.mem_of_getElem? hafter)
  rw [get?_add, Text.sameAscii_comm, if_pos hn] at hw
  rw [hafter, Option.some.inj hw]

end Params
end ListQuery
