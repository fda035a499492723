import Mathlib.Data.List.Sort
import Mathlib.Data.String.Basic
import ListQuery.Datum

/-!
# Maps of data trees

A map is a list of entries whose keys ascend.  Everything that makes maps keeps it so, and then a
map is known by what stands under its keys: laying one map over another joins what stands under the
same key and leaves the rest as it is, in the maps inside as well.

## What is here

* `Datum.Ascending` — entries whose keys ascend; `Ascending.ext`, `Ascending.eq_of_keys`.
* `Datum.get?` — what stands under a key of a tree.
* `Datum.Formed` — all maps inside a tree have ascending keys, and it is known whether nulls occur.
* `Datum.merge_eq_right`, `Datum.get?_merge`, `Datum.get?_get?_merge` — **trees are laid over each
  other key by key.**
* `Datum.Formed.merge`, `Datum.formed_ofEntries`, `Datum.Formed.nested` — what keeps trees formed.
* `Datum.same_iff` — trees can be compared.
-/

set_option autoImplicit false
namespace ListQuery
namespace Datum

/-! ## Entries -/

section Entries

variable {α : Type} {entries others : List (String × α)} {key : String} {value : α}

/-- The keys of entries ascend, so that each of them stands there once. -/
def Ascending (entries : List (String × α)) : Prop :=
  entries.Pairwise fun e e' => e.1 < e'.1

theorem mem_of_lookup_eq_some (h : entries.lookup key = some value) : (key, value) ∈ entries := by
  obtain ⟨before, after, rfl, -⟩ := List.lookup_eq_some_iff.1 h
  exact List.mem_append_right before List.mem_cons_self

theorem lookup_eq_none_of_ne (h : ∀ e ∈ entries, e.1 ≠ key) : entries.lookup key = none := by
  rw [Option.eq_none_iff_forall_ne_some]
  intro value hvalue
  exact h _ (mem_of_lookup_eq_some hvalue) rfl

theorem Ascending.mem_iff (h : Ascending entries) :
    (key, value) ∈ entries ↔ entries.lookup key = some value := by
  refine ⟨fun hmem => ?_, mem_of_lookup_eq_some⟩
  obtain ⟨before, after, rfl⟩ := List.append_of_mem hmem
  obtain ⟨-, -, hbefore⟩ := List.pairwise_append.1 h
  refine List.lookup_eq_some_iff.2 ⟨before, after, rfl, fun e he => ?_⟩
  exact bne_iff_ne.2 (hbefore e he _ List.mem_cons_self).ne'

/-- **Ascending entries are known by what stands under their keys.** -/
theorem Ascending.ext (h : Ascending entries) (h' : Ascending others)
    (hlookup : ∀ key, entries.lookup key = others.lookup key) : entries = others := by
  have : Std.Antisymm fun e e' : String × α => e.1 < e'.1 :=
    ⟨fun _ _ hlt hlt' => absurd hlt' hlt.not_gt⟩
  refine List.Pairwise.eq_of_mem_iff h h' fun e => ?_
  rw [h.mem_iff, h'.mem_iff, hlookup]

/-- Entries with two keys are the one that there is for the first, if any, and then that for the
second. -/
theorem Ascending.eq_of_keys {first second : String} (hlt : first < second)
    (h : Ascending entries) (hkeys : ∀ e ∈ entries, e.1 = first ∨ e.1 = second) :
    entries = (entries.lookup first).toList.map (first, ·) ++
      (entries.lookup second).toList.map (second, ·) := by
  have hothers : ∀ key, key ≠ first → key ≠ second → entries.lookup key = none := by
    intro key hfirst hsecond
    refine lookup_eq_none_of_ne fun e he hkey => ?_
    obtain h | h := hkeys e he
    · exact hfirst (hkey.symm.trans h)
    · exact hsecond (hkey.symm.trans h)
  refine h.ext ?_ fun key => ?_
  · rcases entries.lookup first with _ | a <;> rcases entries.lookup second with _ | b
    · exact .nil
    · exact List.pairwise_singleton _ _
    · exact List.pairwise_singleton _ _
    · exact List.pairwise_pair.2 hlt
  · by_cases hfirst : key = first
    · subst hfirst
      cases entries.lookup key <;> cases entries.lookup second <;>
        simp [lookup_cons_eq, hlt.ne]
    · by_cases hsecond : key = second
      · subst hsecond
        cases entries.lookup first <;> cases entries.lookup key <;>
          simp [lookup_cons_eq, hfirst]
      · rw [hothers key hfirst hsecond]
        cases entries.lookup first <;> cases entries.lookup second <;>
          simp [lookup_cons_eq, hfirst, hsecond]

theorem mem_put {e : String × α} (h : e ∈ put key value entries) :
    e = (key, value) ∨ e ∈ entries := by
  induction entries with
  | nil => exact Or.inl (List.mem_singleton.1 h)
  | cons e' rest ih =>
    obtain ⟨k, v⟩ := e'
    simp only [put] at h
    split at h
    · exact List.mem_cons.1 h
    · split at h
      · rcases List.mem_cons.1 h with h | h
        · exact Or.inl h
        · exact Or.inr (List.mem_cons_of_mem _ h)
      · rcases List.mem_cons.1 h with rfl | h
        · exact Or.inr List.mem_cons_self
        · exact (ih h).imp_right (List.mem_cons_of_mem _)

theorem Ascending.put (h : Ascending entries) (key : String) (value : α) :
    Ascending (put key value entries) := by
  induction entries with
  | nil => exact List.pairwise_singleton _ _
  | cons e rest ih =>
    obtain ⟨k, v⟩ := e
    obtain ⟨hhead, hrest⟩ := List.pairwise_cons.1 h
    simp only [Datum.put]
    split
    · next hlt =>
      refine List.pairwise_cons.2 ⟨fun e he => ?_, h⟩
      rcases List.mem_cons.1 he with rfl | he
      · exact hlt
      · exact hlt.trans (hhead e he)
    · next hnot =>
      split
      · next heq =>
        subst heq
        exact List.pairwise_cons.2 ⟨hhead, hrest⟩
      · next hne =>
        refine List.pairwise_cons.2 ⟨fun e he => ?_, ih hrest⟩
        rcases mem_put he with rfl | he
        · exact lt_of_le_of_ne (not_lt.1 hnot) (Ne.symm hne)
        · exact hhead e he

end Entries

/-! ## Trees -/

/-- Whether a tree is a map. -/
def IsMap (d : Datum) : Prop :=
  ∃ entries, d = .map entries

/-- What stands under a key of a tree. -/
def get? (key : String) : Datum → Option Datum
  | .map entries => entries.lookup key
  | _ => none

/-- All maps inside a tree have ascending keys. Nulls occur in it only if they may. -/
inductive Formed (nulls : Prop) : Datum → Prop
  | null (h : nulls) : Formed nulls .null
  | bool (b : Bool) : Formed nulls (.bool b)
  | number (n : Numeral) : Formed nulls (.number n)
  | text (s : String) : Formed nulls (.text s)
  | char (c : Char) : Formed nulls (.char c)
  | list {items : List Datum} (h : ∀ d ∈ items, Formed nulls d) : Formed nulls (.list items)
  | map {entries : List (String × Datum)} (hkeys : Ascending entries)
      (hvalues : ∀ e ∈ entries, Formed nulls e.2) : Formed nulls (.map entries)

variable {nulls : Prop} {lower upper d v : Datum} {key : String}

theorem isMap_of_get?_eq_some (h : d.get? key = some v) : d.IsMap := by
  cases d with
  | map entries => exact ⟨entries, rfl⟩
  | _ => cases h

theorem Formed.ascending {entries : List (String × Datum)} (h : (Datum.map entries).Formed nulls) :
    Ascending entries := by
  cases h with
  | map hkeys _ => exact hkeys

theorem Formed.of_mem {entries : List (String × Datum)} (h : (Datum.map entries).Formed nulls)
    {e : String × Datum} (he : e ∈ entries) : e.2.Formed nulls := by
  cases h with
  | map _ hvalues => exact hvalues e he

theorem Formed.of_get?_eq_some (h : d.Formed nulls) (hget : d.get? key = some v) :
    v.Formed nulls := by
  obtain ⟨entries, rfl⟩ := isMap_of_get?_eq_some hget
  exact h.of_mem (mem_of_lookup_eq_some hget)

theorem Formed.mono {nulls' : Prop} (hnulls : nulls → nulls') (h : d.Formed nulls) :
    d.Formed nulls' := by
  induction h with
  | null h => exact .null (hnulls h)
  | bool b => exact .bool b
  | number n => exact .number n
  | text s => exact .text s
  | char c => exact .char c
  | list _ ih => exact .list ih
  | map hkeys _ ih => exact .map hkeys ih

/-! ## What makes trees -/

theorem Formed.put {entries : List (String × Datum)} (h : (Datum.map entries).Formed nulls)
    (hv : v.Formed nulls) (key : String) : (Datum.map (put key v entries)).Formed nulls := by
  refine .map (h.ascending.put key v) fun e he => ?_
  rcases mem_put he with rfl | he
  · exact hv
  · exact h.of_mem he

theorem formed_empty : (Datum.map []).Formed nulls :=
  .map .nil nofun

theorem formed_ofEntries {entries : List (String × Datum)} (h : ∀ e ∈ entries, e.2.Formed nulls) :
    (ofEntries entries).Formed nulls := by
  unfold ofEntries
  exact List.foldlRecOn entries _ (motive := fun below => (Datum.map below).Formed nulls)
    formed_empty fun below hbelow e he => hbelow.put (h e he) e.1

theorem Formed.nested (h : v.Formed nulls) (keys : List String) : (v.nested keys).Formed nulls := by
  induction keys with
  | nil => exact h
  | cons key rest ih =>
    rw [Datum.nested]
    split
    · exact h
    · refine .map (List.pairwise_singleton _ _) fun e he => ?_
      obtain rfl := List.mem_singleton.1 he
      exact ih

theorem isMap_merge (hlower : lower.IsMap) (hupper : upper.IsMap) : (lower.merge upper).IsMap := by
  obtain ⟨below, rfl⟩ := hlower
  obtain ⟨entries, rfl⟩ := hupper
  exact ⟨mergeEntries below entries, by rw [merge]⟩

/-- Only maps are joined. Anything else is replaced. -/
theorem merge_eq_right (h : lower.IsMap → ¬ upper.IsMap) : lower.merge upper = upper := by
  cases upper with
  | map entries =>
    rw [merge]
    rintro below rfl
    exact h ⟨below, rfl⟩ ⟨entries, rfl⟩
  | _ =>
    rw [merge]
    rintro entries ⟨⟩

theorem formed_mergeEntries {entries : List (String × Datum)}
    (h : ∀ e ∈ entries, e.2.Formed nulls ∧
      ∀ lower : Datum, lower.Formed nulls → (lower.merge e.2).Formed nulls)
    {below : List (String × Datum)} (hbelow : (Datum.map below).Formed nulls) :
    (Datum.map (mergeEntries below entries)).Formed nulls := by
  induction entries generalizing below with
  | nil => rwa [mergeEntries]
  | cons e rest ih =>
    obtain ⟨key, value⟩ := e
    obtain ⟨hvalue, hmerge⟩ := h (key, value) List.mem_cons_self
    rw [mergeEntries]
    refine ih (fun e he => h e (List.mem_cons_of_mem _ he)) (hbelow.put ?_ key)
    split
    · next old hold => exact hmerge old (hbelow.of_mem (mem_of_lookup_eq_some hold))
    · exact hvalue

theorem Formed.merge (hlower : lower.Formed nulls) (hupper : upper.Formed nulls) :
    (lower.merge upper).Formed nulls := by
  induction hupper generalizing lower with
  | @map entries hkeys hvalues ih =>
    cases lower with
    | map below =>
      rw [Datum.merge]
      exact formed_mergeEntries (fun e he => ⟨hvalues e he, fun lower hl => ih e he hl⟩) hlower
    | _ => exact .map hkeys hvalues
  | null h => exact .null h
  | bool b => exact .bool b
  | number n => exact .number n
  | text s => exact .text s
  | char c => exact .char c
  | list h => exact .list h

/-! ## Key by key -/

theorem lookup_mergeEntries {below entries : List (String × Datum)} (h : Ascending entries) :
    (mergeEntries below entries).lookup key =
      Option.merge merge (below.lookup key) (entries.lookup key) := by
  induction entries generalizing below with
  | nil => rw [mergeEntries, List.lookup_nil, Option.merge_none_right]
  | cons e rest ih =>
    obtain ⟨k, value⟩ := e
    obtain ⟨hhead, hrest⟩ := List.pairwise_cons.1 h
    rw [mergeEntries, ih hrest, lookup_put, lookup_cons_eq]
    by_cases hkey : key = k
    · subst hkey
      rw [lookup_eq_none_of_ne fun e he => (hhead e he).ne', if_pos rfl, if_pos rfl]
      cases below.lookup key <;> rfl
    · rw [if_neg hkey, if_neg hkey]

/-- **What stands under a key is joined with what stands under the same key.** -/
theorem get?_merge (hlower : lower.IsMap) (hupper : upper.IsMap) (hformed : upper.Formed nulls) :
    (lower.merge upper).get? key = Option.merge merge (lower.get? key) (upper.get? key) := by
  obtain ⟨below, rfl⟩ := hlower
  obtain ⟨entries, rfl⟩ := hupper
  rw [merge]
  exact lookup_mergeEntries hformed.ascending

/-- The same holds of a key in a map that stands under a key itself. -/
theorem get?_get?_merge (hlower : lower.IsMap) (hupper : upper.IsMap)
    (hformed : upper.Formed nulls) {outer : String}
    (houter : ∀ m, lower.get? outer = some m → m.IsMap)
    (houter' : ∀ m, upper.get? outer = some m → m.IsMap) :
    ((lower.merge upper).get? outer).bind (get? key) =
      Option.merge merge ((lower.get? outer).bind (get? key))
        ((upper.get? outer).bind (get? key)) := by
  rw [get?_merge hlower hupper hformed]
  cases hl : lower.get? outer with
  | none => cases upper.get? outer <;> simp
  | some m =>
    cases hu : upper.get? outer with
    | none => simp
    | some m' => exact get?_merge (houter m hl) (houter' m' hu) (hformed.of_get?_eq_some hu)

/-! ## Comparison -/

mutual

/-- Whether two trees are the same. -/
def same : Datum → Datum → Bool
  | .null, .null => true
  | .bool a, .bool b => a = b
  | .number a, .number b => a = b
  | .text a, .text b => a = b
  | .char a, .char b => a = b
  | .list a, .list b => sameItems a b
  | .map a, .map b => sameEntries a b
  | _, _ => false

/-- Whether two lists of trees are the same. -/
def sameItems : List Datum → List Datum → Bool
  | [], [] => true
  | d :: rest, d' :: rest' => same d d' && sameItems rest rest'
  | _, _ => false

/-- Whether two lists of entries are the same. -/
def sameEntries : List (String × Datum) → List (String × Datum) → Bool
  | [], [] => true
  | (k, d) :: rest, (k', d') :: rest' => k = k' && same d d' && sameEntries rest rest'
  | _, _ => false

end

mutual

theorem same_iff : ∀ {d d' : Datum}, same d d' = true ↔ d = d'
  | .null, d' => by cases d' <;> simp [same]
  | .bool _, d' => by cases d' <;> simp [same]
  | .number _, d' => by cases d' <;> simp [same]
  | .text _, d' => by cases d' <;> simp [same]
  | .char _, d' => by cases d' <;> simp [same]
  | .list a, d' => by
    cases d' with
    | list b => rw [same, sameItems_iff, Datum.list.injEq]
    | _ => simp [same]
  | .map a, d' => by
    cases d' with
    | map b => rw [same, sameEntries_iff, Datum.map.injEq]
    | _ => simp [same]

theorem sameItems_iff : ∀ {ds ds' : List Datum}, sameItems ds ds' = true ↔ ds = ds'
  | [], [] => by simp [sameItems]
  | [], _ :: _ => by simp [sameItems]
  | _ :: _, [] => by simp [sameItems]
  | d :: rest, d' :: rest' => by
    rw [sameItems, Bool.and_eq_true, same_iff, sameItems_iff, List.cons.injEq]

theorem sameEntries_iff : ∀ {es es' : List (String × Datum)}, sameEntries es es' = true ↔ es = es'
  | [], [] => by simp [sameEntries]
  | [], _ :: _ => by simp [sameEntries]
  | _ :: _, [] => by simp [sameEntries]
  | (k, d) :: rest, (k', d') :: rest' => by
    rw [sameEntries, Bool.and_eq_true, Bool.and_eq_true, decide_eq_true_eq, same_iff,
      sameEntries_iff, List.cons.injEq, Prod.mk.injEq]

end

instance : DecidableEq Datum := fun _ _ => decidable_of_iff _ same_iff

end Datum
end ListQuery
