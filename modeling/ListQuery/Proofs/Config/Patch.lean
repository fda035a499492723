import ListQuery.Config.Extract
import ListQuery.Proofs.Datum

/-!
# What layers of configuration set

A layer may set any of three things, which stand at two depths of its data: the dialect, and in a
map of its own the usual and the greatest number of rows.  When data is laid over other data, they
meet key by key, and so of each setting the upper value counts if there is one.  The exception is a
dialect that is written as a map: two of these would be joined and not replaced by each other.

Limits that are written as a list have no keys, and take the place of a map of paging as a whole.
Such data sets no patch.

## What is here

* `Settings.Patch` — what a layer sets; `Patch.onto`, `Patch.settings`.
* `Datum.Sets` — the data of a layer sets a patch and nothing else; `Datum.HasUnknownKey`.
* `Datum.Sets.merge` — **what is set by data that is laid over other data.**
* `HasUnknownKey.merge_left`, `HasUnknownKey.merge_right` — what becomes of unknown keys.
-/

set_option autoImplicit false
namespace ListQuery

/-! ## What layers set -/

/-- What a layer sets, each setting for itself. -/
structure Settings.Patch where
  usual : Option UInt64
  max : Option UInt64
  dialect : Option PagingDialect

namespace Settings.Patch

/-- One patch over another: of each setting the upper value counts, if there is one. -/
def onto (upper lower : Patch) : Patch :=
  ⟨upper.usual.or lower.usual, upper.max.or lower.max, upper.dialect.or lower.dialect⟩

/-- The settings with a patch. What is not set has its standard value. -/
def settings (p : Patch) : Settings :=
  ⟨⟨p.usual.getD standard.limits.usual, p.max.getD standard.limits.max⟩,
    p.dialect.getD standard.dialect⟩

/-- All settings at once. -/
def ofSettings (s : Settings) : Patch :=
  ⟨some s.limits.usual, some s.limits.max, some s.dialect⟩

/-- What is not set has its standard value anyway. -/
theorem settings_onto_onto_standard (upper lower : Patch) :
    (upper.onto (lower.onto (ofSettings standard))).settings = (upper.onto lower).settings := by
  have hfield {α : Type} (a b : Option α) (x : α) :
      (a.or (b.or (some x))).getD x = (a.or b).getD x := by
    cases a <;> cases b <;> rfl
  simp only [settings, onto, ofSettings, hfield]

end Settings.Patch

namespace Datum

/-- A number of rows. A zero may have a minus in front of it. -/
def IsUnsigned (d : Datum) (n : UInt64) : Prop :=
  d = .number (.natural n.toNat) ∨ d = .number (.signed n.toNat)

/-- A dialect: its name, or a map from its name to nothing. -/
def IsDialect (d : Datum) (dialect : PagingDialect) : Prop :=
  d = .text dialect.name ∨ d = .map [(dialect.name, .null)]

/-- A tree has a key that is unknown where it stands. -/
inductive HasUnknownKey (d : Datum) : Prop
  | top {key : String} (h : key ∉ Settings.fieldNames) (hfound : (d.get? key).isSome)
  | paging {key : String} (h : key ∉ Limits.fieldNames)
      (hfound : ((d.get? "paging").bind (get? key)).isSome)

/-- The data of a layer sets just what is in a patch. -/
structure Sets (d : Datum) (p : Settings.Patch) : Prop where
  knownKeys : ¬ d.HasUnknownKey
  isMap_paging : ∀ m, d.get? "paging" = some m → m.IsMap
  usual : Option.Rel IsUnsigned ((d.get? "paging").bind (get? "default")) p.usual
  max : Option.Rel IsUnsigned ((d.get? "paging").bind (get? "max")) p.max
  dialect : Option.Rel IsDialect (d.get? "dialect") p.dialect

theorem not_hasUnknownKey {entries : List (String × Datum)}
    (h : ∀ e ∈ entries, e.1 ∈ Settings.fieldNames)
    (hpaging : ∀ limits, entries.lookup "paging" = some (.map limits) →
      ∀ e ∈ limits, e.1 ∈ Limits.fieldNames) : ¬ (Datum.map entries).HasUnknownKey := by
  rintro (⟨hkey, hfound⟩ | ⟨hkey, hfound⟩)
  · obtain ⟨v, hv⟩ := Option.isSome_iff_exists.1 hfound
    exact hkey (h _ (mem_of_lookup_eq_some hv))
  · obtain ⟨v, hv⟩ := Option.isSome_iff_exists.1 hfound
    obtain ⟨m, hm, hunder⟩ := Option.bind_eq_some_iff.1 hv
    obtain ⟨limits, rfl⟩ := isMap_of_get?_eq_some hunder
    exact hkey (hpaging limits hm _ (mem_of_lookup_eq_some hunder))

/-! ## Values over other values -/

variable {nulls : Prop} {lower upper d : Datum} {p q : Settings.Patch}

theorem not_isMap_text (s : String) : ¬ (text s).IsMap := by
  rintro ⟨entries, ⟨⟩⟩

theorem IsUnsigned.not_isMap {n : UInt64} (h : d.IsUnsigned n) : ¬ d.IsMap := by
  rcases h with rfl | rfl <;> rintro ⟨entries, ⟨⟩⟩

/-- Of two values of a setting the upper one counts, if it replaces the lower one. -/
theorem rel_merge {α : Type} {describes : Datum → α → Prop} {a b : Option Datum} {x y : Option α}
    (ha : Option.Rel describes a x) (hb : Option.Rel describes b y)
    (hover : ∀ v w n, a = some v → b = some w → describes w n → v.merge w = w) :
    Option.Rel describes (Option.merge merge a b) (y.or x) := by
  cases hb with
  | none => rwa [Option.merge_none_right, Option.none_or]
  | some hw =>
    cases ha with
    | none => exact .some hw
    | some hv =>
      rw [Option.merge_some_some, hover _ _ _ rfl rfl hw]
      exact .some hw

theorem isMap_of_merge {a b : Option Datum} (ha : ∀ m, a = some m → m.IsMap)
    (hb : ∀ m, b = some m → m.IsMap) : ∀ m, Option.merge merge a b = some m → m.IsMap := by
  cases a with
  | none => rwa [Option.merge_none_left]
  | some v =>
    cases b with
    | none => rwa [Option.merge_none_right]
    | some w =>
      rintro _ ⟨⟩
      exact isMap_merge (ha v rfl) (hb w rfl)

theorem isSome_merge {a b : Option Datum} :
    (Option.merge merge a b).isSome ↔ a.isSome ∨ b.isSome := by
  cases a <;> cases b <;> simp

/-! ## Unknown keys -/

theorem isSome_get?_merge_left {key : String} (hupper : upper.IsMap)
    (hformed : upper.Formed nulls) (h : (lower.get? key).isSome) :
    ((lower.merge upper).get? key).isSome := by
  obtain ⟨v, hv⟩ := Option.isSome_iff_exists.1 h
  rw [get?_merge (isMap_of_get?_eq_some hv) hupper hformed, isSome_merge]
  exact Or.inl h

theorem isSome_get?_merge_right {key : String} (hformed : upper.Formed nulls)
    (h : (upper.get? key).isSome) : ((lower.merge upper).get? key).isSome := by
  obtain ⟨v, hv⟩ := Option.isSome_iff_exists.1 h
  have hupper := isMap_of_get?_eq_some hv
  by_cases hlower : lower.IsMap
  · rw [get?_merge hlower hupper hformed, isSome_merge]
    exact Or.inr h
  · rwa [merge_eq_right fun hmap => absurd hmap hlower]

/-- Unknown keys of lower data stay, unless the map that they stand in is replaced. -/
theorem HasUnknownKey.merge_left (h : lower.HasUnknownKey) (hlower : lower.IsMap)
    (hupper : upper.IsMap) (hformed : upper.Formed nulls)
    (hpaging : ∀ m, upper.get? "paging" = some m → m.IsMap) :
    (lower.merge upper).HasUnknownKey := by
  rcases h with ⟨hkey, hfound⟩ | ⟨hkey, hfound⟩
  · exact .top hkey (isSome_get?_merge_left hupper hformed hfound)
  · refine .paging hkey ?_
    have hpaging' : ∀ m, lower.get? "paging" = some m → m.IsMap := by
      intro m hm
      rw [hm] at hfound
      obtain ⟨v, hv⟩ := Option.isSome_iff_exists.1 hfound
      exact isMap_of_get?_eq_some hv
    rw [get?_get?_merge hlower hupper hformed hpaging' hpaging, isSome_merge]
    exact Or.inl hfound

/-- Unknown keys of upper data always stay. -/
theorem HasUnknownKey.merge_right (h : upper.HasUnknownKey) (hlower : lower.IsMap)
    (hupper : upper.IsMap) (hformed : upper.Formed nulls) :
    (lower.merge upper).HasUnknownKey := by
  rcases h with ⟨hkey, hfound⟩ | ⟨hkey, hfound⟩
  · exact .top hkey (isSome_get?_merge_right hformed hfound)
  · refine .paging hkey ?_
    rw [get?_merge hlower hupper hformed]
    cases hu : upper.get? "paging" with
    | none =>
      rw [hu] at hfound
      cases hfound
    | some m =>
      rw [hu] at hfound
      cases lower.get? "paging" with
      | none => exact hfound
      | some v => exact isSome_get?_merge_right (hformed.of_get?_eq_some hu) hfound

/-- Unknown keys come from one of the two. -/
theorem HasUnknownKey.of_merge (h : (lower.merge upper).HasUnknownKey) (hlower : lower.IsMap)
    (hupper : upper.IsMap) (hformed : upper.Formed nulls)
    (hpaging : ∀ m, lower.get? "paging" = some m → m.IsMap)
    (hpaging' : ∀ m, upper.get? "paging" = some m → m.IsMap) :
    lower.HasUnknownKey ∨ upper.HasUnknownKey := by
  rcases h with ⟨hkey, hfound⟩ | ⟨hkey, hfound⟩
  · rw [get?_merge hlower hupper hformed, isSome_merge] at hfound
    exact hfound.imp (.top hkey) (.top hkey)
  · rw [get?_get?_merge hlower hupper hformed hpaging hpaging', isSome_merge] at hfound
    exact hfound.imp (.paging hkey) (.paging hkey)

/-! ## Patches of data over other data -/

/-- **Data over other data sets what it sets itself and what is left over of the other**, if its
dialect replaces the other one. -/
theorem Sets.merge (h : lower.Sets p) (h' : upper.Sets q) (hlower : lower.IsMap)
    (hupper : upper.IsMap) (hformed : upper.Formed nulls)
    (hdialect : ∀ v w, lower.get? "dialect" = some v → upper.get? "dialect" = some w →
      v.merge w = w) :
    (lower.merge upper).Sets (q.onto p) := by
  have htop : ∀ key, (lower.merge upper).get? key =
      Option.merge Datum.merge (lower.get? key) (upper.get? key) := fun key =>
    get?_merge hlower hupper hformed
  have hpaging : ∀ key, ((lower.merge upper).get? "paging").bind (get? key) =
      Option.merge Datum.merge ((lower.get? "paging").bind (get? key))
        ((upper.get? "paging").bind (get? key)) := fun key =>
    get?_get?_merge hlower hupper hformed h.isMap_paging h'.isMap_paging
  constructor
  case knownKeys =>
    intro hunknown
    rcases hunknown.of_merge hlower hupper hformed h.isMap_paging h'.isMap_paging with hl | hu
    · exact h.knownKeys hl
    · exact h'.knownKeys hu
  case isMap_paging =>
    rw [htop]
    exact isMap_of_merge h.isMap_paging h'.isMap_paging
  case usual =>
    rw [hpaging]
    exact rel_merge h.usual h'.usual fun v w n _ _ hw => merge_eq_right fun _ => hw.not_isMap
  case max =>
    rw [hpaging]
    exact rel_merge h.max h'.max fun v w n _ _ hw => merge_eq_right fun _ => hw.not_isMap
  case dialect =>
    rw [htop]
    exact rel_merge h.dialect h'.dialect fun v w _ hv hw _ => hdialect v w hv hw

end Datum

end ListQuery
