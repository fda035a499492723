import Mathlib.Logic.Relation
import ListQuery.Sql.Params

/-!
# Histories of parameters

Parameters come about by registering values under names, one after the other.  Of such a history
only one thing shows when a name is looked up: the value that was registered last under this name,
in whatever case.

## What is here

* `Text.sameAscii_self`, `Text.sameAscii_comm`, `Text.sameAscii_congr` — names that differ at most
  in the case of ASCII letters.
* `Params.addAll` — registering values one after the other.
* `Params.get?_addAll` — of all values under one name the last one is found.
* `Params.get?_addAll_of_mem` — parameters under different names do not disturb each other.
* `Params.Retold` — two histories that differ in one point which no look-up of certain names shows:
  in the order of two names, in the case of one, or in a value that is replaced or not asked for.
* `Params.get?_addAll_of_retold` — **any number of such differences does not show either**.
-/

set_option autoImplicit false
namespace ListQuery

/-! ## Names -/

namespace Text

theorem sameAscii_self (s : String) : sameAscii s s = true :=
  beq_self_eq_true _

theorem sameAscii_comm (s t : String) : sameAscii s t = sameAscii t s :=
  Bool.beq_comm

theorem sameAscii_congr {s t : String} (h : sameAscii s t = true) (name : String) :
    sameAscii name s = sameAscii name t := by
  rw [sameAscii_iff] at h
  rw [sameAscii, sameAscii, h]

/-- Two texts that are not the same cannot both be the same as a third one. -/
theorem sameAscii_of_other {s t name : String} (h : sameAscii s t = false)
    (hs : sameAscii s name = true) : sameAscii t name = false := by
  rw [← sameAscii_congr hs, sameAscii_comm]
  exact h

end Text

namespace Params

/-! ## Registering and looking up -/

/-- The case in which a name is asked for does not matter. -/
theorem get?_congr {s t : String} (h : Text.sameAscii s t = true) (params : Params) :
    params.get? s = params.get? t := by
  simp only [get?, Text.sameAscii_congr h]

theorem get?_add_self (params : Params) (name : String) (value : ParamValue) :
    (params.add name value).get? name = some value := by
  rw [get?_add, if_pos (Text.sameAscii_self name)]

theorem get?_add_of_other {name other : String} (h : Text.sameAscii name other = false)
    (params : Params) (value : ParamValue) :
    (params.add name value).get? other = params.get? other := by
  rw [get?_add, if_neg (by rw [h]; exact Bool.false_ne_true)]

/-- Registers values one after the other. -/
def addAll (params : Params) (values : List (String × ParamValue)) : Params :=
  values.foldl (fun p v => p.add v.1 v.2) params

theorem addAll_cons (params : Params) (v : String × ParamValue)
    (values : List (String × ParamValue)) :
    params.addAll (v :: values) = (params.add v.1 v.2).addAll values := rfl

theorem addAll_append (params : Params) (vs ws : List (String × ParamValue)) :
    params.addAll (vs ++ ws) = (params.addAll vs).addAll ws :=
  List.foldl_append

/-- **The last value that was registered under a name is found**, or else the one that was there
before. -/
theorem get?_addAll (params : Params) (values : List (String × ParamValue)) (name : String) :
    (params.addAll values).get? name =
      ((values.reverse.find? fun v => Text.sameAscii v.1 name).map Prod.snd).or
        (params.get? name) := by
  induction values generalizing params with
  | nil => rfl
  | cons v values ih =>
    rw [addAll_cons, ih, get?_add, List.reverse_cons, List.find?_append, Option.map_or,
      Option.or_assoc]
    by_cases hv : Text.sameAscii v.1 name = true
    · rw [if_pos hv, List.find?_singleton, if_pos hv]
      rfl
    · rw [if_neg hv, List.find?_singleton, if_neg hv]
      rfl

theorem get?_addAll_of_others {name : String} {values : List (String × ParamValue)}
    (h : ∀ v ∈ values, Text.sameAscii v.1 name = false) (params : Params) :
    (params.addAll values).get? name = params.get? name := by
  induction values generalizing params with
  | nil => rfl
  | cons v values ih =>
    rw [addAll_cons, ih fun w hw => h w (List.mem_cons_of_mem v hw),
      get?_add_of_other (h v List.mem_cons_self)]

/-- Of values under different names each one is found under its own. -/
theorem get?_addAll_of_mem {values : List (String × ParamValue)}
    (h : values.Pairwise fun v w => Text.sameAscii v.1 w.1 = false) (params : Params)
    {v : String × ParamValue} (hv : v ∈ values) :
    (params.addAll values).get? v.1 = some v.2 := by
  induction values generalizing params with
  | nil => cases hv
  | cons w values ih =>
    obtain ⟨hw, hrest⟩ := List.pairwise_cons.1 h
    rw [addAll_cons]
    obtain rfl | hv := List.mem_cons.1 hv
    · have hothers : ∀ u ∈ values, Text.sameAscii u.1 v.1 = false := fun u hu =>
        (Text.sameAscii_comm u.1 v.1).trans (hw u hu)
      rw [get?_addAll_of_others hothers, get?_add_self]
    · exact ih hrest _ hv

/-- What is registered later hides a difference or keeps it, and makes none. -/
theorem get?_addAll_congr {params others : Params} {name : String}
    (h : params.get? name = others.get? name) (values : List (String × ParamValue)) :
    (params.addAll values).get? name = (others.addAll values).get? name := by
  rw [get?_addAll, get?_addAll, h]

/-! ## Histories that cannot be told apart -/

variable {asked : String → Prop}

/-- Two histories that differ in one point which no look-up of the names `asked` for shows. -/
inductive Retold (asked : String → Prop) :
    (history other : List (String × ParamValue)) → Prop
  /-- Values under two names, in either order. -/
  | swapped (before : List (String × ParamValue)) {v w : String × ParamValue}
      (h : Text.sameAscii v.1 w.1 = false) (after : List (String × ParamValue)) :
      Retold asked (before ++ v :: w :: after) (before ++ w :: v :: after)
  /-- A value under a name that is not asked for. -/
  | unasked (before : List (String × ParamValue)) {v : String × ParamValue}
      (h : ∀ name, asked name → Text.sameAscii v.1 name = false)
      (after : List (String × ParamValue)) :
      Retold asked (before ++ v :: after) (before ++ after)
  /-- A value under two spellings of its name. -/
  | respelled (before : List (String × ParamValue)) {m n : String}
      (h : Text.sameAscii m n = true) (value : ParamValue)
      (after : List (String × ParamValue)) :
      Retold asked (before ++ (m, value) :: after) (before ++ (n, value) :: after)
  /-- A value that is replaced later, at once or after others. -/
  | replaced (before : List (String × ParamValue)) {v w : String × ParamValue}
      (h : Text.sameAscii v.1 w.1 = true) (between after : List (String × ParamValue)) :
      Retold asked (before ++ v :: (between ++ w :: after)) (before ++ (between ++ w :: after))

theorem Retold.get?_addAll {history other : List (String × ParamValue)}
    (h : Retold asked history other) (params : Params) {name : String} (hname : asked name) :
    (params.addAll history).get? name = (params.addAll other).get? name := by
  cases h with
  | @swapped before v w h after =>
    simp only [addAll_append, addAll_cons]
    refine get?_addAll_congr ?_ after
    by_cases hv : Text.sameAscii v.1 name = true
    · have hw := Text.sameAscii_of_other h hv
      rw [get?_add_of_other hw, get?_add, if_pos hv, get?_add, if_pos hv]
    · rw [Bool.not_eq_true] at hv
      rw [get?_add_of_other hv, get?_add, get?_add_of_other hv, get?_add]
  | @unasked before v h after =>
    simp only [addAll_append, addAll_cons]
    exact get?_addAll_congr (get?_add_of_other (h name hname) _ _) after
  | @respelled before m n h value after =>
    simp only [addAll_append, addAll_cons]
    refine get?_addAll_congr ?_ after
    rw [get?_add, get?_add, Text.sameAscii_comm m, Text.sameAscii_comm n, Text.sameAscii_congr h]
  | @replaced before v w h between after =>
    simp only [addAll_append, addAll_cons]
    refine get?_addAll_congr ?_ after
    rw [get?_add, get?_add]
    by_cases hw : Text.sameAscii w.1 name = true
    · rw [if_pos hw, if_pos hw]
    · have hv : Text.sameAscii v.1 name = false := by
        rw [Text.sameAscii_comm, Text.sameAscii_congr h, Text.sameAscii_comm]
        exact Bool.eq_false_iff.2 hw
      rw [if_neg hw, if_neg hw]
      exact get?_addAll_congr (get?_add_of_other hv _ _) between

/-- **Histories that differ in any number of such points** leave the same value under every name
that is asked for. -/
theorem get?_addAll_of_retold {history other : List (String × ParamValue)}
    (h : Relation.EqvGen (Retold asked) history other) (params : Params) {name : String}
    (hname : asked name) : (params.addAll history).get? name = (params.addAll other).get? name := by
  induction h with
  | rel _ _ h => exact h.get?_addAll params hname
  | refl _ => rfl
  | symm _ _ _ ih => exact ih.symm
  | trans _ _ _ _ _ ih ih' => exact ih.trans ih'

end Params
end ListQuery
