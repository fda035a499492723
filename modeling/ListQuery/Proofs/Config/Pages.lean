import Mathlib.Data.List.Perm.Basic
import ListQuery.Config.Layers
import ListQuery.Proofs.Page.Limit

/-!
# Pages within the settings of a service

Settings are checked before they are handed out, wherever they come from, and what is checked is
enough to keep the limit of every page in range: the greatest number of rows is at least one, so
that a page brought within it is not emptied.  Then bringing a page within several settings is a
matter of their greatest numbers only, and the order does not count.

## What is here

* `Settings.isValid_iff` — what is checked; `Settings.Loaded` — settings that a service can have,
  and `Settings.Loaded.isValid`, which says that all of them have been checked.
* `Settings.toNat_limit_page`, `Settings.InRange` — the limit of a page within settings.
* `Settings.pageThrough`, `Settings.pageThrough_eq` — a page within several settings, one after the
  other.
* `Settings.loaded_settings_keep_pages_in_range` — **settings that were loaded keep pages in
  range**, each for itself and any number of them in any order.
-/

set_option autoImplicit false
namespace ListQuery

/-- Zero is raised to one, and then the greatest number is applied. -/
theorem toNat_clamp (limits : Limits) (requested : UInt64) :
    (limits.clamp (some requested)).toNat = min (max requested.toNat 1) limits.max.toNat := by
  have hpositive : (if requested = 0 then 1 else requested).toNat = max requested.toNat 1 := by
    split
    · next hzero => simp [hzero]
    · next hne =>
      have hle := UInt64.le_iff_toNat_le.1 (one_le_iff_ne_zero.2 hne)
      rw [UInt64.toNat_one] at hle
      omega
  rw [Limits.clamp_eq, UInt64.toNat_min, hpositive]

namespace Settings

/-! ## Settings that were loaded -/

theorem isValid_iff {s : Settings} :
    s.isValid = true ↔ 1 ≤ s.limits.usual ∧ s.limits.usual ≤ s.limits.max := by
  simp only [isValid, Bool.and_eq_true, bne_iff_ne, decide_eq_true_eq, ← one_le_iff_ne_zero]
  constructor
  · rintro ⟨⟨husual, -⟩, hle⟩
    exact ⟨husual, hle⟩
  · rintro ⟨husual, hle⟩
    exact ⟨⟨husual, UInt64.le_trans husual hle⟩, hle⟩

/-- Settings that a service can have. -/
inductive Loaded : Settings → Prop
  /-- From data, wherever they come from. -/
  | read {d : Datum} {s : Settings} (h : Settings.read d = .ok s) : Loaded s
  /-- From layers of any kind. -/
  | ofLayers {layers : List Layer} {s : Settings} (h : Settings.ofLayers layers = .ok s) : Loaded s
  /-- From a document, if there is one, and environment variables. -/
  | load {document : Option String} {vars : List (String × String)} {s : Settings}
      (h : Settings.load document vars = .ok s) : Loaded s
  /-- From the same, if there is a place for the document. -/
  | loadOrStandard {place : Option (Option String)} {vars : List (String × String)} {s : Settings}
      (h : Settings.loadOrStandard place vars = .ok s) : Loaded s

/-- Settings that are read are those of the entries of a map, and have been checked. -/
theorem exists_of_read {d : Datum} {s : Settings} (h : Settings.read d = .ok s) :
    ∃ entries, d = .map entries ∧ entries.foldlM extractEntry standard = .ok s ∧
      s.isValid = true := by
  cases d with
  | map entries =>
    obtain ⟨t, hentries, hchecked⟩ := exists_of_bind_eq_ok h
    dsimp only at hchecked
    split at hchecked
    · next hvalid =>
      cases hchecked
      exact ⟨entries, rfl, hentries, hvalid⟩
    · cases hchecked
  | _ => cases h

theorem isValid_of_read {d : Datum} {s : Settings} (h : Settings.read d = .ok s) :
    s.isValid = true := by
  obtain ⟨_, -, -, hvalid⟩ := exists_of_read h
  exact hvalid

theorem isValid_of_ofLayers {layers : List Layer} {s : Settings}
    (h : Settings.ofLayers layers = .ok s) : s.isValid = true := by
  obtain ⟨data, -, hread⟩ := exists_of_bind_eq_ok h
  exact isValid_of_read hread

/-- **Whatever was loaded has been checked.**  The standard settings, which are not checked, are
valid too. -/
theorem Loaded.isValid {s : Settings} (h : s.Loaded) : s.isValid = true := by
  cases h with
  | read h => exact isValid_of_read h
  | ofLayers h => exact isValid_of_ofLayers h
  | load h => exact isValid_of_ofLayers h
  | @loadOrStandard place vars s h =>
    cases place with
    | none =>
      cases h
      decide
    | some document => exact isValid_of_ofLayers h

/-! ## One page -/

theorem toNat_limit_page (s : Settings) (p : Page) :
    (s.page p).limit.toNat = min (max p.limit.toNat 1) s.limits.max.toNat :=
  toNat_clamp s.limits p.limit

/-- The page `q` is the page `p`, with its limit brought in the range that the settings allow. -/
structure InRange (s : Settings) (p q : Page) : Prop where
  limit_eq : q.limit.toNat = min (max p.limit.toNat 1) s.limits.max.toNat
  one_le : 1 ≤ q.limit
  le_max : q.limit ≤ s.limits.max
  offset_eq : q.offset = p.offset
  sort_eq : q.sort = p.sort

theorem inRange_page {s : Settings} (h : 1 ≤ s.limits.max) (p : Page) : s.InRange p (s.page p) where
  limit_eq := s.toNat_limit_page p
  one_le := (s.limits.one_le_clamp_iff p.limit).2 h
  le_max := s.limits.clamp_le_max (some p.limit)
  offset_eq := rfl
  sort_eq := rfl

/-- A page that is in range already stays as it is. -/
theorem page_eq_self {s : Settings} {p : Page} (hone : 1 ≤ p.limit)
    (hmax : p.limit ≤ s.limits.max) : s.page p = p := by
  have hlimit : (s.page p).limit = p.limit := by
    rw [UInt64.le_iff_toNat_le] at hone hmax
    rw [UInt64.toNat_one] at hone
    rw [← UInt64.toNat_inj, toNat_limit_page]
    omega
  show { p with limit := (s.page p).limit } = p
  rw [hlimit]

theorem limit_page_le {p q : Page} (s : Settings) (h : p.limit ≤ q.limit) :
    (s.page p).limit ≤ (s.page q).limit := by
  rw [UInt64.le_iff_toNat_le] at h ⊢
  rw [toNat_limit_page, toNat_limit_page]
  omega

theorem defaultPage_eq {s : Settings} (h : 1 ≤ s.limits.usual) :
    s.defaultPage = ⟨0, s.limits.usual, none⟩ := by
  rw [defaultPage, Page.of, if_neg (one_le_iff_ne_zero.1 h)]

/-! ## Several settings -/

/-- A page brought within several settings, one after the other. -/
def pageThrough (services : List Settings) (p : Page) : Page :=
  services.foldl (fun p s => s.page p) p

/-- A page with rows keeps at least one on its way, so that of each settings only the greatest
number counts. -/
theorem pageThrough_eq {services : List Settings} (h : ∀ s ∈ services, 1 ≤ s.limits.max) {p : Page}
    (hp : 1 ≤ p.limit) :
    pageThrough services p = { p with limit := (pageThrough services p).limit } ∧
      (pageThrough services p).limit.toNat =
        (services.map fun s => s.limits.max.toNat).foldl min p.limit.toNat := by
  induction services generalizing p with
  | nil => exact ⟨rfl, rfl⟩
  | cons s services ih =>
    have hs := h s List.mem_cons_self
    have hrange := inRange_page hs p
    obtain ⟨hpage, hlimit⟩ := ih (fun t ht => h t (List.mem_cons_of_mem s ht)) hrange.one_le
    have hstep : (s.page p).limit.toNat = min p.limit.toNat s.limits.max.toNat := by
      rw [UInt64.le_iff_toNat_le, UInt64.toNat_one] at hp
      rw [hrange.limit_eq, Nat.max_eq_left hp]
    rw [hstep] at hlimit
    exact ⟨hpage, hlimit⟩

/-- **The order in which settings are applied does not count.** -/
theorem pageThrough_perm {services order : List Settings} (h : ∀ s ∈ services, 1 ≤ s.limits.max)
    (horder : order.Perm services) {p : Page} (hp : 1 ≤ p.limit) :
    pageThrough order p = pageThrough services p := by
  obtain ⟨hpage, hlimit⟩ := pageThrough_eq h hp
  obtain ⟨hpage', hlimit'⟩ := pageThrough_eq (fun s hs => h s (horder.mem_iff.1 hs)) hp
  have hsame : (pageThrough order p).limit = (pageThrough services p).limit := by
    rw [← UInt64.toNat_inj, hlimit, hlimit']
    exact (horder.map _).foldl_eq _
  rw [hpage', hpage, hsame]

/-- **Settings that were loaded keep pages in range.**  Their usual number of rows is at least one
and not above the greatest.  The limit of a page is brought between one and the greatest number, and
nothing else of the page changes; doing it twice is doing it once, and a greater limit does not
become the smaller one.  The page of a request that asks for none has the usual number of rows, and
is in range.  Several settings may be applied to a page with rows in any order: what comes of it is
the page with the least of its limit and their greatest numbers. -/
theorem loaded_settings_keep_pages_in_range {services : List Settings}
    (h : ∀ s ∈ services, s.Loaded) :
    (∀ s ∈ services,
      (1 ≤ s.limits.usual ∧ s.limits.usual ≤ s.limits.max) ∧
      (∀ p, s.InRange p (s.page p)) ∧
      (∀ p, s.page (s.page p) = s.page p) ∧
      (∀ p q : Page, p.limit ≤ q.limit → (s.page p).limit ≤ (s.page q).limit) ∧
      s.defaultPage = ⟨0, s.limits.usual, none⟩ ∧ s.page s.defaultPage = s.defaultPage) ∧
    ∀ p : Page, 1 ≤ p.limit → ∃ limit : UInt64,
      (p.limit.toNat :: services.map fun s => s.limits.max.toNat).min? = some limit.toNat ∧
      ∀ order, order.Perm services → pageThrough order p = { p with limit := limit } := by
  have hvalid : ∀ s ∈ services, 1 ≤ s.limits.usual ∧ s.limits.usual ≤ s.limits.max :=
    fun s hs => isValid_iff.1 (h s hs).isValid
  have hmax : ∀ s ∈ services, 1 ≤ s.limits.max := fun s hs =>
    UInt64.le_trans (hvalid s hs).1 (hvalid s hs).2
  refine ⟨fun s hs => ?_, fun p hp => ?_⟩
  · have hrange : ∀ p, s.InRange p (s.page p) := inRange_page (hmax s hs)
    obtain ⟨husual, hle⟩ := hvalid s hs
    refine ⟨⟨husual, hle⟩, hrange, fun p => ?_, fun p q => s.limit_page_le, ?_⟩
    · exact page_eq_self (hrange p).one_le (hrange p).le_max
    · rw [defaultPage_eq husual]
      exact ⟨rfl, page_eq_self husual hle⟩
  · obtain ⟨hpage, hlimit⟩ := pageThrough_eq hmax hp
    refine ⟨(pageThrough services p).limit, ?_, fun order horder => ?_⟩
    · rw [List.min?_cons', hlimit]
    · rw [pageThrough_perm hmax horder hp, ← hpage]

/-- A service with a document and an environment variable beside one without a place for either.  A
limit that is too great for both becomes the smaller of their greatest numbers. -/
theorem loaded_settings_keep_pages_in_range_of_two :
    let small : Settings := ⟨⟨20, 50⟩, .offsetFetch⟩
    (Settings.load (some "paging:\n  max: 50\n") [("SHAPING__PAGING__DEFAULT", "20")]).toOption =
        some small ∧
      pageThrough [small, standard] ⟨7, 4000, none⟩ = ⟨7, 50, none⟩ ∧
      pageThrough [standard, small] ⟨7, 4000, none⟩ = ⟨7, 50, none⟩ := by
  intro small
  have hsmall : (Settings.load (some "paging:\n  max: 50\n")
      [("SHAPING__PAGING__DEFAULT", "20")]).toOption = some small := by decide +kernel
  have hfirst : small.Loaded := by
    cases hload : Settings.load (some "paging:\n  max: 50\n")
        [("SHAPING__PAGING__DEFAULT", "20")] with
    | error e =>
      rw [hload] at hsmall
      cases hsmall
    | ok s =>
      rw [hload] at hsmall
      cases hsmall
      exact .load hload
  have hsecond : standard.Loaded :=
    .loadOrStandard (show Settings.loadOrStandard none [] = .ok standard from rfl)
  have hloaded : ∀ s ∈ [small, standard], s.Loaded := by
    intro s hs
    obtain rfl | rfl := List.mem_pair.1 hs
    · exact hfirst
    · exact hsecond
  obtain ⟨-, hpages⟩ := loaded_settings_keep_pages_in_range hloaded
  obtain ⟨limit, hleast, horder⟩ := hpages ⟨7, 4000, none⟩ (by decide)
  have hlimit : limit = 50 := by
    rw [← UInt64.toNat_inj]
    exact (Option.some.inj hleast).symm
  subst hlimit
  exact ⟨hsmall, horder _ (.refl _), horder _ (.swap _ _ _)⟩

end Settings
end ListQuery
