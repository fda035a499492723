import Mathlib.Data.Finset.Card
import ListQuery.Proofs.Outcome
import ListQuery.Proofs.Params.Entries

/-!
# The calls that make parameters

Parameters are made by calls, starting from none.  The entries are a plain list, and all that keeps
two of them from having one name is the search that comes before an entry is added.  What an entry
is depends on two of the calls: the first one for its name decides its place and its spelling, and
the last one decides its value.

## What is here

* `Text.SameLetter`, `Text.sameAscii_iff_forall₂` — two names are one if they agree character by
  character, up to the case of the letters A–Z.  No other letter has two cases here
  (`Text.DifferBeyondAscii`).
* `Params.Call`, `Params.ofCalls` — calls, and the parameters that a sequence of them makes.
* `Params.OpensAt`, `Params.LastGives` — the first call for a name, and the last one.
* `Params.get?_ofCalls_eq_some_iff` — what is found is what the last call gives.
* `Params.exists_places` — the entries stand for the first calls, in their order, by induction on
  the calls.
* `Params.Reflects`, `Params.Call.Changes` — what the parameters are after a sequence of calls, and
  what one more call does to them.
* `Params.entries_follow_calls` — **both hold of every sequence of calls**.
-/

set_option autoImplicit false
namespace ListQuery

/-! ## Names, character by character -/

namespace Text

/-- A capital letter A–Z and the small letter that belongs to it. -/
def IsCapitalOf (c d : Char) : Prop :=
  'A' ≤ c ∧ c ≤ 'Z' ∧ d.toNat = c.toNat + 32

/-- One character, or one of the letters A–Z in two cases. -/
def SameLetter (c d : Char) : Prop :=
  c = d ∨ IsCapitalOf c d ∨ IsCapitalOf d c

theorem toNat_toLower (c : Char) :
    c.toLower.toNat = if 'A' ≤ c ∧ c ≤ 'Z' then c.toNat + 32 else c.toNat := by
  by_cases h : 'A' ≤ c ∧ c ≤ 'Z'
  · have hle : c.val.toNat ≤ 90 := UInt32.le_iff_toNat_le.1 h.2
    have hupper : c.val ≥ 'A'.val ∧ c.val ≤ 'Z'.val := h
    have hlower : c.toLower.val = c.val + 32 := congrArg Char.val (dif_pos hupper)
    rw [if_pos h, Char.toNat, hlower, UInt32.toNat_add]
    exact Nat.mod_eq_of_lt (Nat.lt_of_le_of_lt (Nat.add_le_add_right hle 32) (by decide))
  · have hlower : c.toLower = c := dif_neg h
    rw [if_neg h, hlower]

theorem le_capitals_iff (c : Char) : 'A' ≤ c ∧ c ≤ 'Z' ↔ 65 ≤ c.toNat ∧ c.toNat ≤ 90 :=
  and_congr UInt32.le_iff_toNat_le UInt32.le_iff_toNat_le

theorem toLower_eq_toLower_iff {c d : Char} : c.toLower = d.toLower ↔ SameLetter c d := by
  rw [SameLetter, ← Char.toNat_inj, ← Char.toNat_inj, toNat_toLower, toNat_toLower]
  simp only [IsCapitalOf, ← and_assoc, le_capitals_iff]
  split <;> split <;> omega

/-- Two names are one if they agree character by character, up to the case of the letters A–Z. -/
theorem sameAscii_iff_forall₂ {s t : String} :
    sameAscii s t = true ↔ List.Forall₂ SameLetter s.toList t.toList := by
  rw [sameAscii_iff_map, ← List.forall₂_eq_eq_eq, List.forall₂_map_left_iff,
    List.forall₂_map_right_iff]
  simp only [toLower_eq_toLower_iff]

theorem SameLetter.eq_of_not_ascii {c d : Char} (h : SameLetter c d)
    (hascii : 0x80 ≤ c.toNat ∨ 0x80 ≤ d.toNat) : c = d := by
  simp only [SameLetter, IsCapitalOf, ← and_assoc, le_capitals_iff] at h
  obtain rfl | h := h
  · rfl
  · omega

/-- At one place there are different characters of which one is not ASCII, as there are in two names
that differ in the case of a letter outside A–Z. -/
def DifferBeyondAscii (s t : String) : Prop :=
  ∃ (i : Nat) (c d : Char), s.toList[i]? = some c ∧ t.toList[i]? = some d ∧ c ≠ d ∧
    (0x80 ≤ c.toNat ∨ 0x80 ≤ d.toNat)

theorem DifferBeyondAscii.sameAscii_eq_false {s t : String} (h : DifferBeyondAscii s t) :
    sameAscii s t = false := by
  obtain ⟨i, c, d, hc, hd, hne, hascii⟩ := h
  refine Bool.eq_false_iff.2 fun hsame => hne ?_
  obtain ⟨d', hd', hletter⟩ := exists_right_of_getElem? (sameAscii_iff_forall₂.1 hsame) hc
  obtain rfl : d' = d := Option.some.inj (hd'.symm.trans hd)
  exact hletter.eq_of_not_ascii hascii

end Text

namespace Params

/-! ## Calls -/

/-- A call in the making of parameters. -/
inductive Call where
  /-- A value is registered under a name. -/
  | add (name : String) (value : ParamValue)
  /-- A single value is registered under a name. -/
  | addScalar (name : String) (v : SqlValue)

namespace Call

/-- The name that a call is for. -/
def name : Call → String
  | add name _ => name
  | addScalar name _ => name

/-- The value that a call gives to its name. -/
def value : Call → ParamValue
  | add _ value => value
  | addScalar _ v => .scalar v

/-- The value that a call gives to a name, in whatever case. -/
def value? (name : String) (call : Call) : Option ParamValue :=
  if Text.sameAscii call.name name then some call.value else none

theorem value?_eq_some_iff {name : String} {call : Call} {value : ParamValue} :
    call.value? name = some value ↔ Text.sameAscii call.name name = true ∧ call.value = value := by
  rw [value?]
  split <;> simp [*]

theorem value?_eq_none_iff {name : String} {call : Call} :
    call.value? name = none ↔ Text.sameAscii call.name name = false := by
  rw [value?]
  split <;> simp [*]

end Call

/-- What a call does. -/
def perform (params : Params) : Call → Params
  | .add name value => params.add name value
  | .addScalar name v => params.addScalar name v

/-- The parameters that calls make, one after the other, where there were none. -/
def ofCalls (calls : List Call) : Params :=
  calls.foldl perform empty

theorem perform_eq (params : Params) (call : Call) :
    params.perform call = params.add call.name call.value := by
  cases call <;> rfl

theorem ofCalls_concat (calls : List Call) (call : Call) :
    ofCalls (calls ++ [call]) = (ofCalls calls).add call.name call.value := by
  rw [ofCalls, List.foldl_append, List.foldl_cons, List.foldl_nil, perform_eq, ofCalls]

variable {calls : List Call}

/-! ## Last calls -/

/-- The last call for a name, in whatever case, gives it a value. -/
def LastGives (calls : List Call) (name : String) (value : ParamValue) : Prop :=
  ∃ before call after, calls = before ++ call :: after ∧ Text.sameAscii call.name name = true ∧
    call.value = value ∧ ∀ later ∈ after, Text.sameAscii later.name name = false

theorem get?_ofCalls (calls : List Call) (name : String) :
    (ofCalls calls).get? name = calls.reverse.findSome? (Call.value? name) := by
  induction calls using List.reverseRecOn with
  | nil => rfl
  | append_singleton calls call ih =>
    rw [ofCalls_concat, get?_add, List.reverse_append, List.reverse_singleton,
      List.singleton_append, List.findSome?_cons, Call.value?, ih]
    split <;> rfl

/-- **What is found under a name is what the last call for it gives.** -/
theorem get?_ofCalls_eq_some_iff {name : String} {value : ParamValue} :
    (ofCalls calls).get? name = some value ↔ LastGives calls name value := by
  rw [get?_ofCalls, findSome?_reverse_eq_some_iff]
  simp only [Call.value?_eq_some_iff, Call.value?_eq_none_iff, and_assoc, LastGives]

theorem get?_ofCalls_eq_none_iff {name : String} :
    (ofCalls calls).get? name = none ↔ ∀ call ∈ calls, Text.sameAscii call.name name = false := by
  rw [get?_ofCalls, List.findSome?_eq_none_iff]
  simp only [List.mem_reverse, Call.value?_eq_none_iff]

/-- The entries have the names that there are calls for. -/
theorem exists_name_iff {name : String} :
    (∃ n ∈ (ofCalls calls).names, Text.sameAscii n name = true) ↔
      ∃ call ∈ calls, Text.sameAscii call.name name = true := by
  have hnone : (∀ n ∈ (ofCalls calls).names, Text.sameAscii n name = false) ↔
      ∀ call ∈ calls, Text.sameAscii call.name name = false := by
    rw [← get?_eq_none_iff, get?_ofCalls_eq_none_iff]
  rw [← not_iff_not]
  simpa only [not_exists, not_and, Bool.not_eq_true] using hnone

/-! ## First calls -/

/-- The first call for a name stands at a place among all calls, and spells it in this way. -/
def OpensAt (calls : List Call) (place : Nat) (name : String) : Prop :=
  (calls[place]?).map Call.name = some name ∧
    ∀ earlier ∈ calls.take place, Text.sameAscii earlier.name name = false

theorem OpensAt.lt_length {place : Nat} {name : String} (h : OpensAt calls place name) :
    place < calls.length := by
  obtain ⟨call, hcall, -⟩ := Option.map_eq_some_iff.1 h.1
  exact (List.getElem?_eq_some_iff.1 hcall).1

theorem opensAt_concat {call : Call} {place : Nat} {name : String} :
    OpensAt (calls ++ [call]) place name ↔ OpensAt calls place name ∨
      place = calls.length ∧ call.name = name ∧
        ∀ earlier ∈ calls, Text.sameAscii earlier.name name = false := by
  obtain hlt | rfl | hgt := Nat.lt_trichotomy place calls.length
  · have hcall : (calls ++ [call])[place]? = calls[place]? := List.getElem?_append_left hlt
    have htake : (calls ++ [call]).take place = calls.take place :=
      List.take_append_of_le_length hlt.le
    rw [OpensAt, hcall, htake, or_iff_left fun h => hlt.ne h.1, OpensAt]
  · have hcall : (calls ++ [call])[calls.length]? = some call := List.getElem?_concat_length
    have htake : (calls ++ [call]).take calls.length = calls := List.take_left
    have hnew : ¬ OpensAt calls calls.length name := fun h => Nat.lt_irrefl _ h.lt_length
    rw [OpensAt, hcall, htake, or_iff_right hnew, Option.map_some, Option.some.injEq,
      and_iff_right rfl]
  · refine iff_of_false (fun h => ?_) ?_
    · have hlt := h.lt_length
      rw [List.length_append, List.length_singleton] at hlt
      omega
    · rintro (h | ⟨hplace, -⟩)
      · exact Nat.lt_asymm hgt h.lt_length
      · exact hgt.ne' hplace

/-- **The entries stand for the first calls**, in their order and under their spellings. -/
theorem exists_places (calls : List Call) :
    ∃ places : List Nat, places.Pairwise (· < ·) ∧
      (∀ place, place ∈ places ↔ ∃ name, OpensAt calls place name) ∧
      List.Forall₂ (OpensAt calls) places (ofCalls calls).names := by
  induction calls using List.reverseRecOn with
  | nil =>
    refine ⟨[], .nil, fun place => ⟨nofun, ?_⟩, .nil⟩
    rintro ⟨name, hopens⟩
    exact absurd hopens.lt_length (Nat.not_lt_zero place)
  | append_singleton calls call ih =>
    obtain ⟨places, hascending, hplaces, hnames⟩ := ih
    rw [ofCalls_concat]
    cases hfound : (ofCalls calls).get? call.name with
    | some found =>
      -- The call is not the first one for its name, so that the first calls stay the same.
      have hold : ∀ {place name}, OpensAt (calls ++ [call]) place name ↔
          OpensAt calls place name := by
        intro place name
        rw [opensAt_concat, or_iff_left]
        rintro ⟨-, rfl, hfirst⟩
        rw [get?_ofCalls_eq_none_iff.2 hfirst] at hfound
        cases hfound
      rw [names_add_of_isSome (Option.isSome_of_eq_some hfound)]
      exact ⟨places, hascending, by simpa only [hold] using hplaces,
        hnames.imp fun _ _ => hold.2⟩
    | none =>
      have hfirst := get?_ofCalls_eq_none_iff.1 hfound
      rw [names_add_of_eq_none hfound]
      refine ⟨places ++ [calls.length], ?_, fun place => ?_, ?_⟩
      · refine List.pairwise_append.2 ⟨hascending, List.pairwise_singleton _ _, ?_⟩
        intro place hplace last hlast
        obtain rfl := List.mem_singleton.1 hlast
        obtain ⟨name, hopens⟩ := (hplaces place).1 hplace
        exact hopens.lt_length
      · simp only [List.mem_append, List.mem_singleton, hplaces, opensAt_concat, exists_or]
        refine or_congr_right ⟨fun hplace => ⟨_, hplace, rfl, hfirst⟩, ?_⟩
        rintro ⟨name, hplace, -⟩
        exact hplace
      · refine List.rel_append (hnames.imp fun _ _ hopens => opensAt_concat.2 (.inl hopens)) ?_
        exact .cons (opensAt_concat.2 (.inr ⟨rfl, rfl, hfirst⟩)) .nil

/-! ## Entries after calls -/

theorem distinct_ofCalls (calls : List Call) : (ofCalls calls).Distinct := by
  induction calls using List.reverseRecOn with
  | nil => exact distinct_empty
  | append_singleton calls call ih =>
    rw [ofCalls_concat]
    exact ih.add call.name call.value

/-- There are as many entries as names that are different when A–Z are put in lower case. -/
theorem size_ofCalls (calls : List Call) :
    (ofCalls calls).size = (calls.map fun call => Text.lowerAscii call.name).toFinset.card := by
  have hnodup : ((ofCalls calls).names.map Text.lowerAscii).Nodup := by
    refine List.pairwise_map.2 ((distinct_ofCalls calls).imp fun hother hsame => ?_)
    rw [Text.sameAscii_iff.2 hsame] at hother
    cases hother
  have hkeys : ((ofCalls calls).names.map Text.lowerAscii).toFinset =
      (calls.map fun call => Text.lowerAscii call.name).toFinset := by
    ext key
    simp only [List.mem_toFinset, List.mem_map]
    constructor
    · rintro ⟨n, hn, rfl⟩
      obtain ⟨call, hcall, hsame⟩ := exists_name_iff.1 ⟨n, hn, Text.sameAscii_self n⟩
      exact ⟨call, hcall, Text.sameAscii_iff.1 hsame⟩
    · rintro ⟨call, hcall, rfl⟩
      obtain ⟨n, hn, hsame⟩ := exists_name_iff.2 ⟨call, hcall, Text.sameAscii_self call.name⟩
      exact ⟨n, hn, Text.sameAscii_iff.1 hsame⟩
  rw [← hkeys, List.toFinset_card_of_nodup hnodup, List.length_map, length_names]

theorem lastGives_of_mem {e : String × ParamValue} (he : e ∈ (ofCalls calls).entries) :
    LastGives calls e.1 e.2 :=
  get?_ofCalls_eq_some_iff.1 ((distinct_ofCalls calls).get?_of_mem he)

/-- Two calls are for one entry if and only if their names agree up to the case of A–Z. -/
theorem exists_common_name_iff {a b : Call} (ha : a ∈ calls) :
    (∃ n ∈ (ofCalls calls).names, Text.sameAscii n a.name = true ∧
        Text.sameAscii n b.name = true) ↔
      List.Forall₂ Text.SameLetter a.name.toList b.name.toList := by
  rw [← Text.sameAscii_iff_forall₂]
  constructor
  · rintro ⟨n, -, hna, hnb⟩
    rwa [Text.sameAscii_comm, Text.sameAscii_congr hna, Text.sameAscii_comm] at hnb
  · intro hsame
    obtain ⟨n, hn, hna⟩ := exists_name_iff.2 ⟨a, ha, Text.sameAscii_self a.name⟩
    exact ⟨n, hn, hna, by rwa [← Text.sameAscii_congr hsame]⟩

/-- Calls for names that differ beyond ASCII are for two entries. -/
theorem exists_names_of_differ {a b : Call} (ha : a ∈ calls) (hb : b ∈ calls)
    (h : Text.DifferBeyondAscii a.name b.name) :
    ∃ m ∈ (ofCalls calls).names, ∃ n ∈ (ofCalls calls).names, m ≠ n ∧
      Text.sameAscii m a.name = true ∧ Text.sameAscii n b.name = true := by
  obtain ⟨m, hm, hma⟩ := exists_name_iff.2 ⟨a, ha, Text.sameAscii_self a.name⟩
  obtain ⟨n, hn, hnb⟩ := exists_name_iff.2 ⟨b, hb, Text.sameAscii_self b.name⟩
  refine ⟨m, hm, n, hn, ?_, hma, hnb⟩
  rintro rfl
  have hsame := exists_common_name_iff (b := b) ha |>.1 ⟨m, hm, hma, hnb⟩
  rw [← Text.sameAscii_iff_forall₂, h.sameAscii_eq_false] at hsame
  cases hsame

/-- What parameters are after a sequence of calls. -/
structure Reflects (calls : List Call) (params : Params) : Prop where
  /-- No two entries have one name. -/
  distinct : params.Distinct
  /-- What is found under a name, in whatever case, is what the last call for it gives. -/
  found : ∀ name value, params.get? name = some value ↔ LastGives calls name value
  /-- Nothing is found under a name that there is no call for. -/
  missing : ∀ name, params.get? name = none ↔
    ∀ call ∈ calls, Text.sameAscii call.name name = false
  /-- There is one entry for each of the first calls, in the order of these, and it keeps the
  spelling of its name. -/
  opened : ∃ places : List Nat, places.Pairwise (· < ·) ∧
    (∀ place, place ∈ places ↔ ∃ name, OpensAt calls place name) ∧
    List.Forall₂ (OpensAt calls) places params.names
  /-- An entry has the value that the last call for its name gives. -/
  latest : ∀ e ∈ params.entries, LastGives calls e.1 e.2
  /-- There are as many entries as names that are different when A–Z are put in lower case. -/
  size_eq : params.size = (calls.map fun call => Text.lowerAscii call.name).toFinset.card
  /-- Two calls are for one entry if and only if their names agree up to the case of A–Z. -/
  together : ∀ a ∈ calls, ∀ b ∈ calls,
    (∃ n ∈ params.names, Text.sameAscii n a.name = true ∧ Text.sameAscii n b.name = true) ↔
      List.Forall₂ Text.SameLetter a.name.toList b.name.toList
  /-- Names that differ in the case of other letters have entries of their own. -/
  apart : ∀ a ∈ calls, ∀ b ∈ calls, Text.DifferBeyondAscii a.name b.name →
    ∃ m ∈ params.names, ∃ n ∈ params.names, m ≠ n ∧ Text.sameAscii m a.name = true ∧
      Text.sameAscii n b.name = true

/-- What a call makes of parameters. -/
structure Call.Changes (call : Call) (before after : Params) : Prop where
  /-- An entry under another name stays in its place, with its spelling and its value. -/
  others : ∀ (i : Nat) (n : String) (v : ParamValue), before.entries[i]? = some (n, v) →
    Text.sameAscii n call.name = false → after.entries[i]? = some (n, v)
  /-- An entry under the name of the call stays in its place, with its spelling, and takes the new
  value. -/
  own : ∀ (i : Nat) (n : String) (v : ParamValue), before.entries[i]? = some (n, v) →
    Text.sameAscii n call.name = true → after.entries[i]? = some (n, call.value)
  /-- There is one entry more, behind the others, if and only if there was none under the name. -/
  names : after.names = before.names ++ if (before.get? call.name).isSome then [] else [call.name]
  /-- The new value is found. -/
  found : after.get? call.name = some call.value

theorem changes_ofCalls (calls : List Call) (call : Call) :
    call.Changes (ofCalls calls) (ofCalls (calls ++ [call])) := by
  rw [ofCalls_concat]
  exact {
    others := fun _ _ _ hi hother => getElem?_add hi hother call.value
    own := fun _ _ _ hi hsame => (distinct_ofCalls calls).getElem?_add_of_same hi hsame call.value
    names := names_add _ _ _
    found := get?_add_self _ _ _ }

/-- **Entries follow the calls.**  Whatever values are registered one after the other, where there
were none, there is one entry for each name, compared up to the case of A–Z.  The entries stand in
the order of the first calls for their names, under the spellings of these, and have the values of
the last ones, which are also found under these names in any case.  One more call replaces the value
of the entry under its name, or puts a new entry behind all others, and leaves all other entries as
they are. -/
theorem entries_follow_calls (calls : List Call) :
    Reflects calls (ofCalls calls) ∧
      ∀ call : Call, call.Changes (ofCalls calls) (ofCalls (calls ++ [call])) := by
  refine ⟨?_, changes_ofCalls calls⟩
  exact {
    distinct := distinct_ofCalls calls
    found := fun _ _ => get?_ofCalls_eq_some_iff
    missing := fun _ => get?_ofCalls_eq_none_iff
    opened := exists_places calls
    latest := fun _ he => lastGives_of_mem he
    size_eq := size_ofCalls calls
    together := fun _ ha _ _ => exists_common_name_iff ha
    apart := fun _ ha _ hb h => exists_names_of_differ ha hb h }

example :
    (ofCalls [.addScalar "été" (.bigInt 1), .add "id" (.list [.bool true]),
      .addScalar "ÉTÉ" (.bigInt 2), .addScalar "ID" (.bigInt 3),
      .addScalar "éTé" (.bigInt 4)]).entries =
    [("été", .scalar (.bigInt 4)), ("id", .scalar (.bigInt 3)), ("ÉTÉ", .scalar (.bigInt 2))] := by
  cbv

end Params
end ListQuery
