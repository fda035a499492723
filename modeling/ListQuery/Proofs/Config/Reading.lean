import Mathlib.Tactic.ByContra
import ListQuery.Proofs.Config.Patch
import ListQuery.Proofs.Page.Limit

/-!
# How the data of layers is read

The entries of a map are read one by one, and each of them fills its own field.  An entry that is
not known is an error of the data, and whatever else is wrong there is one too: only when everything
has been read, the limits are looked at.

## What is here

* `Limits.extract_map`, `Settings.read_of_sets` — **data that sets a patch is read as the settings
  with this patch.**
* `Located` — an error says where in the data it was found; `Limits.located_extract`,
  `Settings.located_extractEntry`.
* `Settings.exists_mismatch_of_hasUnknownKey` — **data with an unknown key cannot be read.**
-/

set_option autoImplicit false
namespace ListQuery

/-! ## Reading what is set -/

theorem readUnsigned_of_isUnsigned {d : Datum} {n : UInt64} (h : d.IsUnsigned n) :
    readUnsigned d = .ok n := by
  rcases h with rfl | rfl
  · exact readUnsigned_toNat n
  · have hleast : ¬ (n.toNat : Int) < -(twoTo 63 : Int) := by omega
    have hnonneg : ¬ (n.toNat : Int) < 0 := by omega
    rw [readUnsigned, if_neg hleast, if_neg hnonneg, Int.toNat_natCast, UInt64.ofNat_toNat]

theorem PagingDialect.extract_of_isDialect {d : Datum} {dialect : PagingDialect}
    (h : d.IsDialect dialect) : extract d = .ok dialect := by
  rcases h with rfl | rfl
  · cases dialect <;> rfl
  · cases dialect <;> rfl

/-- One entry, if there is one, is read into its own field. -/
theorem foldlM_entry {ε ρ α : Type} {step : ρ → String × Datum → Except ε ρ} {key : String}
    {describes : Datum → α → Prop} {set : ρ → α → ρ}
    (hstep : ∀ r d x, describes d x → step r (key, d) = .ok (set r x))
    {found : Option Datum} {value : Option α} (h : Option.Rel describes found value) (r : ρ) :
    (found.toList.map (key, ·)).foldlM step r = .ok (value.elim r (set r)) := by
  cases h with
  | none => rfl
  | some hvalue =>
    rw [Option.toList_some, List.map_singleton, List.foldlM_cons, hstep r _ _ hvalue]
    rfl

theorem exists_of_rel {α β : Type} {r : α → β → Prop} {found : α} {value : Option β}
    (h : Option.Rel r (some found) value) : ∃ x, r found x := by
  cases h with
  | some hx => exact ⟨_, hx⟩

theorem eq_none_of_rel {α β : Type} {r : α → β → Prop} {value : Option β}
    (h : Option.Rel r none value) : value = none := by
  cases h
  rfl

namespace Limits

theorem extractEntry_default (l : Limits) {d : Datum} {n : UInt64} (h : d.IsUnsigned n) :
    l.extractEntry ("default", d) = .ok { l with usual := n } := by
  rw [extractEntry, readEntry, if_pos rfl, readUnsigned_of_isUnsigned h]
  rfl

theorem extractEntry_max (l : Limits) {d : Datum} {n : UInt64} (h : d.IsUnsigned n) :
    l.extractEntry ("max", d) = .ok { l with max := n } := by
  rw [extractEntry, readEntry, if_neg (by decide), if_pos rfl, readUnsigned_of_isUnsigned h]
  rfl

/-- A map of paging: what is not set is standard. -/
theorem extract_map {entries : List (String × Datum)} (hkeys : Datum.Ascending entries)
    (hknown : ∀ e ∈ entries, e.1 ∈ fieldNames) {usual max : Option UInt64}
    (husual : Option.Rel Datum.IsUnsigned (entries.lookup "default") usual)
    (hmax : Option.Rel Datum.IsUnsigned (entries.lookup "max") max) :
    extract (.map entries) = .ok ⟨usual.getD standard.usual, max.getD standard.max⟩ := by
  rw [extract, hkeys.eq_of_keys (by decide) fun e he => List.mem_pair.1 (hknown e he),
    List.foldlM_append, foldlM_entry (fun l d n => l.extractEntry_default) husual]
  refine (foldlM_entry (fun l d n => l.extractEntry_max) hmax _).trans ?_
  cases usual <;> cases max <;> rfl

end Limits

namespace Settings

variable {nulls : Prop} {d : Datum} {p : Patch}

theorem extractEntry_dialect (s : Settings) {v : Datum} {dialect : PagingDialect}
    (h : v.IsDialect dialect) :
    s.extractEntry ("dialect", v) = .ok { s with dialect := dialect } := by
  rw [extractEntry, if_neg (by decide), if_pos rfl, PagingDialect.extract_of_isDialect h]
  rfl

theorem extractEntry_paging (s : Settings) {v : Datum} {limits : Limits}
    (h : Limits.extract v = .ok limits) :
    s.extractEntry ("paging", v) = .ok { s with limits := limits } := by
  rw [extractEntry, if_pos rfl, h]
  rfl

theorem exists_limits_of_sets (hformed : d.Formed nulls) (h : d.Sets p) :
    ∃ limits, Option.Rel (fun v l => Limits.extract v = .ok l) (d.get? "paging") limits ∧
      limits.getD standard.limits = p.settings.limits := by
  have husual := h.usual
  have hmax := h.max
  cases hpaging : d.get? "paging" with
  | none =>
    rw [hpaging] at husual hmax
    refine ⟨none, .none, ?_⟩
    rw [Patch.settings, eq_none_of_rel husual, eq_none_of_rel hmax]
    rfl
  | some m =>
    obtain ⟨entries, rfl⟩ := h.isMap_paging m hpaging
    rw [hpaging] at husual hmax
    have hkeys := (hformed.of_get?_eq_some hpaging).ascending
    have hknown : ∀ e ∈ entries, e.1 ∈ Limits.fieldNames := by
      intro e he
      by_contra hkey
      refine h.knownKeys (.paging hkey ?_)
      rw [hpaging]
      exact Option.isSome_of_eq_some (hkeys.mem_iff.1 he)
    exact ⟨some _, .some (Limits.extract_map hkeys hknown husual hmax), rfl⟩

theorem foldlM_extractEntry_of_sets {entries : List (String × Datum)}
    (hformed : (Datum.map entries).Formed nulls) (h : (Datum.map entries).Sets p) :
    entries.foldlM extractEntry standard = .ok p.settings := by
  have hkeys := hformed.ascending
  have hknown : ∀ e ∈ entries, e.1 = "dialect" ∨ e.1 = "paging" := by
    intro e he
    by_contra hkey
    have hfound : (Datum.get? e.1 (.map entries)).isSome :=
      Option.isSome_of_eq_some (hkeys.mem_iff.1 he)
    refine h.knownKeys (.top ?_ hfound)
    rwa [fieldNames, List.mem_pair, or_comm]
  have hdialect : Option.Rel Datum.IsDialect (entries.lookup "dialect") p.dialect := h.dialect
  obtain ⟨limits, hlimits, hstandard⟩ := exists_limits_of_sets hformed h
  have hsettings : p.settings =
      ⟨limits.getD standard.limits, p.dialect.getD standard.dialect⟩ := by
    rw [hstandard]
    rfl
  rw [hkeys.eq_of_keys (by decide) hknown, List.foldlM_append,
    foldlM_entry (fun s v x => s.extractEntry_dialect) hdialect, hsettings]
  refine (foldlM_entry (fun s v l => s.extractEntry_paging) hlimits _).trans ?_
  cases p.dialect <;> cases limits <;> rfl

theorem read_map (entries : List (String × Datum)) :
    read (.map entries) = entries.foldlM extractEntry standard >>= fun s =>
      if s.isValid then .ok s else .error (.invalidLimits s.limits) := by
  rfl

/-- **Data that sets a patch is read as the settings with this patch**, if these make sense. -/
theorem read_of_sets (hmap : d.IsMap) (hformed : d.Formed nulls) (h : d.Sets p) :
    read d =
      if p.settings.isValid then .ok p.settings else .error (.invalidLimits p.settings.limits) := by
  obtain ⟨entries, rfl⟩ := hmap
  rw [read_map, foldlM_extractEntry_of_sets hformed h]
  rfl

end Settings

/-! ## Reading what is unknown -/

section Located

variable {α β : Type} {outcome : Except ConfigError α}

/-- If there is an error, it is one of the data, at some place. -/
def Located (outcome : Except ConfigError α) : Prop :=
  ∀ e, outcome = .error e → ∃ path fault, e = .mismatch path fault

theorem located_ok (x : α) : Located (.ok x) :=
  nofun

theorem located_here (outcome : Except ReadFault α) : Located (here outcome) := by
  rintro e h
  cases outcome with
  | error fault =>
    cases h
    exact ⟨[], fault, rfl⟩
  | ok x => cases h

theorem Located.under (h : Located outcome) (key : String) : Located (under key outcome) := by
  cases outcome with
  | error e =>
    obtain ⟨path, fault, rfl⟩ := h e rfl
    rintro _ ⟨⟩
    exact ⟨key :: path, fault, rfl⟩
  | ok x => nofun

theorem under_eq_ok_iff {key : String} {x : α} : under key outcome = .ok x ↔ outcome = .ok x := by
  cases outcome with
  | error e => cases e <;> exact ⟨nofun, nofun⟩
  | ok y => rfl

theorem Located.map (h : Located outcome) (f : α → β) : Located (outcome.map f) := fun e he =>
  h e (map_eq_error_iff.1 he)

theorem Located.bind (h : Located outcome) {f : α → Except ConfigError β}
    (hf : ∀ x, Located (f x)) : Located (outcome >>= f) := by
  cases outcome with
  | error e =>
    rintro _ ⟨⟩
    exact h e rfl
  | ok x => exact hf x

theorem located_foldlM {step : α → β → Except ConfigError α} (h : ∀ x y, Located (step x y))
    (ys : List β) (x : α) : Located (ys.foldlM step x) := by
  induction ys generalizing x with
  | nil => exact located_ok x
  | cons y ys ih =>
    rw [List.foldlM_cons]
    exact (h x y).bind ih

theorem located_mapM {read : β → Except ConfigError α} (h : ∀ y, Located (read y))
    (found : Option β) : Located (found.mapM read) := by
  cases found with
  | none => exact located_ok none
  | some y => exact (h y).map some

/-- Steps one of which never succeeds do not succeed together. -/
theorem foldlM_ne_ok_of_mem {ε : Type} {step : α → β → Except ε α} {ys : List β} {y : β}
    (hy : y ∈ ys) (h : ∀ x x', step x y ≠ .ok x') (x x' : α) : ys.foldlM step x ≠ .ok x' := by
  induction ys generalizing x with
  | nil => cases hy
  | cons y' ys ih =>
    intro hok
    rw [List.foldlM_cons] at hok
    obtain ⟨x₁, hfirst, hrest⟩ := exists_of_bind_eq_ok hok
    rcases List.mem_cons.1 hy with rfl | hy
    · exact h x x₁ hfirst
    · exact ih hy x₁ hrest

end Located

theorem Limits.located_extractEntry (l : Limits) (entry : String × Datum) :
    Located (l.extractEntry entry) :=
  (located_here _).under _

theorem Limits.located_extract (d : Datum) : Located (extract d) := by
  cases d with
  | map entries => exact located_foldlM located_extractEntry entries standard
  | list items =>
    have hitem : ∀ key (found : Option Datum),
        Located (found.mapM fun d => under key (here (readUnsigned d))) := fun key found =>
      located_mapM (fun d => (located_here _).under key) found
    exact (hitem _ _).bind fun usual => (hitem _ _).bind fun max => located_ok _
  | _ => exact located_here _

theorem PagingDialect.located_extract (d : Datum) : Located (extract d) := by
  cases d with
  | map entries =>
    cases entries with
    | nil => exact located_here _
    | cons e rest => exact (located_here _).under e.1
  | _ => exact located_here _

theorem Limits.extract_ne_ok_of_mem {entries : List (String × Datum)} {e : String × Datum}
    (he : e ∈ entries) (hkey : e.1 ∉ fieldNames) (l : Limits) :
    extract (.map entries) ≠ .ok l := by
  refine foldlM_ne_ok_of_mem he (fun l l' => ?_) standard l
  obtain ⟨hdefault, hmax⟩ := not_or.1 (mt List.mem_pair.2 hkey)
  rw [extractEntry, readEntry, if_neg hdefault, if_neg hmax]
  nofun

namespace Settings

theorem located_extractEntry (s : Settings) (entry : String × Datum) :
    Located (s.extractEntry entry) := by
  refine Located.under ?_ entry.1
  split
  · exact (Limits.located_extract entry.2).map _
  · split
    · exact (PagingDialect.located_extract entry.2).map _
    · exact located_here _

/-- **Data with an unknown key cannot be read**, whatever else there is in it. -/
theorem exists_mismatch_of_hasUnknownKey {d : Datum} (h : d.HasUnknownKey) :
    ∃ path fault, read d = .error (.mismatch path fault) := by
  have hentry : ∃ entries, d = .map entries ∧
      ∃ e ∈ entries, ∀ s s', extractEntry s e ≠ .ok s' := by
    rcases h with ⟨hkey, hfound⟩ | ⟨hkey, hfound⟩
    · obtain ⟨v, hv⟩ := Option.isSome_iff_exists.1 hfound
      obtain ⟨entries, rfl⟩ := Datum.isMap_of_get?_eq_some hv
      refine ⟨entries, rfl, _, Datum.mem_of_lookup_eq_some hv, fun s s' => ?_⟩
      obtain ⟨hpaging, hdialect⟩ := not_or.1 (mt List.mem_pair.2 hkey)
      rw [extractEntry, if_neg hpaging, if_neg hdialect]
      nofun
    · obtain ⟨v, hv⟩ := Option.isSome_iff_exists.1 hfound
      obtain ⟨m, hm, hunder⟩ := Option.bind_eq_some_iff.1 hv
      obtain ⟨entries, rfl⟩ := Datum.isMap_of_get?_eq_some hm
      obtain ⟨limits, rfl⟩ := Datum.isMap_of_get?_eq_some hunder
      refine ⟨entries, rfl, _, Datum.mem_of_lookup_eq_some hm, fun s s' hok => ?_⟩
      rw [extractEntry, under_eq_ok_iff, if_pos rfl] at hok
      obtain ⟨l, hl, -⟩ := map_eq_ok_iff.1 hok
      exact Limits.extract_ne_ok_of_mem (Datum.mem_of_lookup_eq_some hunder) hkey l hl
  obtain ⟨entries, rfl, e, he, hfails⟩ := hentry
  cases hread : entries.foldlM extractEntry standard with
  | ok s => exact absurd hread (foldlM_ne_ok_of_mem he hfails standard s)
  | error e =>
    obtain ⟨path, fault, rfl⟩ := located_foldlM located_extractEntry entries standard e hread
    refine ⟨path, fault, ?_⟩
    rw [read_map, hread]
    rfl

end Settings
end ListQuery
