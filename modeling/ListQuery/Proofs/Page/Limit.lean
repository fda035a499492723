import ListQuery.Proofs.Outcome
import ListQuery.Reading.Body

/-!
# The limit of a page

A page is the standard one, or it is made with a limit, or it is read; then it is given an order or
brought within limits, in any number of steps.  All of these see to it that it has at least one row,
but bringing it within limits does so first and only then applies the greatest number of rows.  So a
page comes out empty if that number is zero, and such a page is not what is read back when it is
written.

## What is here

* `Limits.clamp_eq` — a request within limits: at least one row, and then the greatest number.
* `Page.one_le_limit_of_read`, `Page.read_toDatum` — what is read has at least one row, also if it
  was written without any.
* `Page.History` — the steps that a page has come about by, and `History.page`, what comes of them.
* `History.Emptied` — the last step that decides the limit allows for no rows.
* `page_has_rows_iff` — **a page has rows unless its history has emptied it**, and the same pages
  are read back as they were written.
-/

set_option autoImplicit false
namespace ListQuery

theorem one_le_iff_ne_zero {n : UInt64} : 1 ≤ n ↔ n ≠ 0 := by
  have hzero : n = 0 ↔ n.toNat = 0 := UInt64.toNat_inj.symm
  rw [UInt64.le_iff_toNat_le, UInt64.toNat_one, ne_eq, hzero]
  omega

/-! ## Limits -/

namespace Limits

/-- Zero is raised to one before the greatest number is applied. -/
theorem clamp_eq (limits : Limits) (requested : UInt64) :
    limits.clamp (some requested) = min (if requested = 0 then 1 else requested) limits.max := by
  rw [clamp, Option.getD_some, Std.min_eq_if]
  generalize (if requested = 0 then 1 else requested) = positive
  by_cases h : positive ≤ limits.max
  · rw [if_pos h, if_neg (UInt64.not_lt.2 h)]
  · rw [if_neg h, if_pos (UInt64.not_le.1 h)]

theorem one_le_clamp_iff (limits : Limits) (requested : UInt64) :
    1 ≤ limits.clamp (some requested) ↔ 1 ≤ limits.max := by
  rw [clamp_eq, Std.le_min_iff, and_iff_right_iff_imp]
  intro _
  split
  · exact UInt64.le_refl 1
  · next h => exact one_le_iff_ne_zero.2 h

end Limits

/-! ## Reading and writing -/

theorem readUnsigned_toNat (n : UInt64) : readUnsigned (.number (.natural n.toNat)) = .ok n := by
  have hn : n.toNat ≤ maxUnsigned := by
    have hlt : n.toNat < twoTo 64 := n.toNat_lt
    exact Nat.le_sub_one_of_lt hlt
  rw [readUnsigned, if_pos hn, UInt64.ofNat_toNat]

namespace Page

theorem exists_ofFields_of_read {d : Datum} {p : Page} (h : read d = .ok p) :
    ∃ f, p = ofFields f := by
  cases d with
  | map entries =>
    obtain ⟨f, -, rfl⟩ := map_eq_ok_iff.1 h
    exact ⟨f, rfl⟩
  | list items =>
    rw [read, readItems] at h
    obtain ⟨offset, -, h⟩ := exists_of_bind_eq_ok h
    obtain ⟨limit, -, h⟩ := exists_of_bind_eq_ok h
    obtain ⟨sort, -, h⟩ := exists_of_bind_eq_ok h
    split at h
    · cases h
    · cases h
      exact ⟨_, rfl⟩
  | _ => cases h

theorem one_le_limit_of_read {d : Datum} {p : Page} (h : read d = .ok p) : 1 ≤ p.limit := by
  obtain ⟨f, rfl⟩ := exists_ofFields_of_read h
  exact one_le_limit_of _ _ _

/-- What is written is read with at least one row. -/
theorem read_toDatum (p : Page) : read p.toDatum = .ok (of p.offset p.limit p.sort) := by
  obtain ⟨offset, limit, sort⟩ := p
  have hnumbers : List.foldlM readEntry {} [("limit", .number (.natural limit.toNat)),
      ("offset", .number (.natural offset.toNat))] = .ok ⟨some offset, some limit, none⟩ := by
    simp [readEntry, readUnsigned_toNat, Except.map, bind, Except.bind, pure, Except.pure]
  show (List.foldlM readEntry {} (_ ++ sort.toList.map fun s => ("sort", .text s))).map ofFields =
    .ok (of offset limit sort)
  rw [List.foldlM_append, hnumbers]
  cases sort <;> rfl

theorem of_eq_self_iff {p : Page} : of p.offset p.limit p.sort = p ↔ 1 ≤ p.limit := by
  constructor
  · intro h
    rw [← h]
    exact one_le_limit_of _ _ _
  · intro h
    rw [of, if_neg (one_le_iff_ne_zero.1 h)]

/-! ## Histories -/

/-- The steps that a page comes about by. -/
inductive History where
  | standard
  | of (offset limit : UInt64) (sort : Option String)
  | read {d : Datum} {p : Page} (h : Page.read d = .ok p)
  | withSort (before : History) (sort : String)
  | clamped (before : History) (limits : Limits)

namespace History

/-- The page that comes of it. -/
def page : History → Page
  | standard => .standard
  | of offset limit sort => .of offset limit sort
  | @read _ p _ => p
  | withSort before sort => before.page.withSort sort
  | clamped before limits => before.page.clamped limits

/-- The last step that decides the limit allows for no rows.  Giving an order to a page does not
decide its limit. -/
def Emptied : History → Prop
  | standard | of _ _ _ | read _ => False
  | withSort before _ => before.Emptied
  | clamped _ limits => limits.max = 0

theorem one_le_limit_iff (h : History) : 1 ≤ h.page.limit ↔ ¬ h.Emptied := by
  induction h with
  | standard => exact iff_of_true (by decide) not_false
  | of offset limit sort => exact iff_of_true (one_le_limit_of offset limit sort) not_false
  | read hread => exact iff_of_true (one_le_limit_of_read hread) not_false
  | withSort before sort ih => exact ih
  | clamped before limits _ =>
    exact (limits.one_le_clamp_iff before.page.limit).trans one_le_iff_ne_zero

end History
end Page

/-- **A page has rows unless its history has emptied it.**  Within limits it has at most their
greatest number of rows, and it has at least one if and only if this number allows for one.  It is
read back as it was written if and only if it has rows; otherwise it is read with one row. -/
theorem page_has_rows_iff (h : Page.History) :
    (1 ≤ h.page.limit ↔ ¬ h.Emptied) ∧
      (∀ limits : Limits, (h.page.clamped limits).limit ≤ limits.max ∧
        (1 ≤ (h.page.clamped limits).limit ↔ 1 ≤ limits.max)) ∧
      (Page.read h.page.toDatum = .ok h.page ↔ ¬ h.Emptied) ∧
      (h.Emptied → Page.read h.page.toDatum = .ok { h.page with limit := 1 }) := by
  refine ⟨h.one_le_limit_iff, fun limits => ⟨limits.clamp_le_max _, limits.one_le_clamp_iff _⟩, ?_,
    fun hempty => ?_⟩
  · rw [Page.read_toDatum, Except.ok.injEq, Page.of_eq_self_iff, h.one_le_limit_iff]
  · have hzero : h.page.limit = 0 := by
      have hlimit : ¬ 1 ≤ h.page.limit := fun hle => h.one_le_limit_iff.1 hle hempty
      rwa [one_le_iff_ne_zero, not_not] at hlimit
    rw [Page.read_toDatum, Page.of, if_pos hzero]

/-- The standard page within limits that allow for no rows, as they can be read from a request. -/
theorem page_emptied_by_limits :
    let limits : Limits := ⟨100, 0⟩
    let h : Page.History := .clamped .standard limits
    Limits.read (.map [("max", .number (.natural 0))]) = .ok limits ∧ h.page = ⟨0, 0, none⟩ ∧
      ¬ 1 ≤ h.page.limit ∧ Page.read h.page.toDatum = .ok ⟨0, 1, none⟩ ∧
      Page.read h.page.toDatum ≠ .ok h.page := by
  intro limits h
  have hread : Page.read h.page.toDatum = .ok ⟨0, 1, none⟩ := Page.read_toDatum _
  refine ⟨rfl, rfl, by decide, hread, ?_⟩
  rw [hread, ne_eq, Except.ok.injEq]
  decide

end ListQuery
