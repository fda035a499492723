import Mathlib.Data.Int.Basic
import Mathlib.Tactic.IntervalCases
import ListQuery.Calendar.Date

/-!
# Counting days

The number of a day is computed from its year, month and day at once, by a formula that counts leap
years with divisions.  What it should be is said here without the formula: the first of January 1970
has the number 0, and the day after a day has the next number.  Every day of the calendar is reached
from there, forwards or backwards, so that this leaves no choice.

## What is here

* `Date.next` — the day after a day.
* `Date.HasNumber` — the number of a day, counted from one day to the next.
* `Date.dayNumber_next` — the formula counts the same way, over the ends of months and of years.
* `Date.hasNumber_iff` — **the formula gives the number of every day**.
-/

set_option autoImplicit false
namespace ListQuery
namespace Date

/-- The day after a day. -/
def next (d : Date) : Date :=
  if d.day < daysInMonth d.year d.month then { d with day := d.day + 1 }
  else if d.month < 12 then ⟨d.year, d.month + 1, 1⟩
  else ⟨d.year + 1, 1, 1⟩

/-- The number of a day: days are counted from the first of January 1970 on, which has the number 0,
and from there back. -/
inductive HasNumber : Date → Int → Prop
  | epoch : HasNumber ⟨1970, 1, 1⟩ 0
  | next {d : Date} {n : Int} (h : HasNumber d n) : HasNumber d.next (n + 1)
  | previous {d : Date} {n : Int} (hd : d.isValid = true) (h : HasNumber d.next (n + 1)) :
      HasNumber d n

/-! ## Months and years -/

theorem isValid_iff {d : Date} :
    d.isValid = true ↔
      1 ≤ d.month ∧ d.month ≤ 12 ∧ 1 ≤ d.day ∧ d.day ≤ daysInMonth d.year d.month := by
  simp [isValid, and_assoc]

theorem one_le_daysInMonth {year : Int} {month : Nat} (hlow : 1 ≤ month) (hhigh : month ≤ 12) :
    1 ≤ daysInMonth year month := by
  interval_cases month
  all_goals simp only [daysInMonth, Nat.one_le_ofNat]
  -- What is left is February.
  split <;> decide

theorem daysBeforeMonth_succ (year : Int) (month : Nat) :
    daysBeforeMonth year (month + 1) = daysBeforeMonth year month + daysInMonth year month := by
  simp [daysBeforeMonth, List.range_succ]

/-- The months of a year, and the years, fit together. -/
theorem daysBeforeYear_succ (year : Int) :
    daysBeforeYear (year + 1) = daysBeforeYear year + daysBeforeMonth year 13 := by
  have hyear : daysBeforeMonth year 13 = if isLeapYear year then 366 else 365 := by
    simp only [daysBeforeMonth, List.range_succ, List.range_zero, daysInMonth]
    split <;> rfl
  have hleap : isLeapYear year = true ↔ year % 4 = 0 ∧ (year % 100 ≠ 0 ∨ year % 400 = 0) := by
    simp [isLeapYear]
  rw [hyear]
  simp only [daysBeforeYear]
  split
  · rename_i h
    rw [hleap] at h
    omega
  · rename_i h
    rw [hleap] at h
    omega

/-! ## From one day to the next -/

theorem isValid_next {d : Date} (h : d.isValid = true) : d.next.isValid = true := by
  rw [isValid_iff] at h ⊢
  obtain ⟨hlow, hhigh, hday, hlast⟩ := h
  unfold next
  split
  · exact ⟨hlow, hhigh, by simp, by simpa⟩
  · split
    · rename_i hmonth
      exact ⟨by simp, hmonth, le_rfl, one_le_daysInMonth (by simp) hmonth⟩
    · exact ⟨le_rfl, by simp, le_rfl, one_le_daysInMonth le_rfl (by simp)⟩

/-- **The formula counts from one day to the next**, over the ends of months and of years. -/
theorem dayNumber_next {d : Date} (h : d.isValid = true) : d.next.dayNumber = d.dayNumber + 1 := by
  obtain ⟨hlow, hhigh, hday, hlast⟩ := isValid_iff.1 h
  unfold next
  split
  · simp only [dayNumber]
    omega
  · rename_i hend
    have hfull : d.day = daysInMonth d.year d.month := by omega
    split
    · simp only [dayNumber, daysBeforeMonth_succ]
      omega
    · have hmonth : d.month = 12 := by omega
      rw [hmonth] at hfull
      have hfirst : daysBeforeMonth (d.year + 1) 1 = 0 := rfl
      have hmonths : daysBeforeMonth d.year 13 =
          daysBeforeMonth d.year 12 + daysInMonth d.year 12 := daysBeforeMonth_succ d.year 12
      simp only [dayNumber, hmonth, hfirst, daysBeforeYear_succ]
      omega

/-! ## Every day has a number -/

/-- A day is counted exactly if the day after it is. -/
theorem hasNumber_next_iff {d : Date} (h : d.isValid = true) :
    (∃ n, d.HasNumber n) ↔ ∃ n, d.next.HasNumber n := by
  constructor
  · rintro ⟨n, hn⟩
    exact ⟨n + 1, hn.next⟩
  · rintro ⟨n, hn⟩
    refine ⟨n - 1, .previous h ?_⟩
    rwa [Int.sub_add_cancel]

/-- The days of a month are counted together. -/
theorem hasNumber_iff_first_of_month {year : Int} {month : Nat} (hlow : 1 ≤ month)
    (hhigh : month ≤ 12) {day : Nat} (hday : 1 ≤ day) (hlast : day ≤ daysInMonth year month) :
    (∃ n, HasNumber ⟨year, month, day⟩ n) ↔ ∃ n, HasNumber ⟨year, month, 1⟩ n := by
  induction day, hday using Nat.le_induction with
  | base => exact Iff.rfl
  | succ day hday ih =>
    have hnext : next ⟨year, month, day⟩ = ⟨year, month, day + 1⟩ := if_pos hlast
    rw [← ih (by omega), ← hnext]
    exact (hasNumber_next_iff (isValid_iff.2 ⟨hlow, hhigh, hday, by simp; omega⟩)).symm

/-- The day after the last one of a month. -/
theorem hasNumber_iff_last_of_month {year : Int} {month : Nat} (hlow : 1 ≤ month)
    (hhigh : month ≤ 12) :
    (∃ n, HasNumber (next ⟨year, month, daysInMonth year month⟩) n) ↔
      ∃ n, HasNumber ⟨year, month, 1⟩ n := by
  have hone := @one_le_daysInMonth year _ hlow hhigh
  rw [← hasNumber_iff_first_of_month hlow hhigh hone le_rfl]
  exact (hasNumber_next_iff (isValid_iff.2 ⟨hlow, hhigh, hone, le_rfl⟩)).symm

/-- The months of a year are counted together. -/
theorem hasNumber_iff_first_of_year {year : Int} {month : Nat} (hlow : 1 ≤ month)
    (hhigh : month ≤ 12) :
    (∃ n, HasNumber ⟨year, month, 1⟩ n) ↔ ∃ n, HasNumber ⟨year, 1, 1⟩ n := by
  induction month, hlow using Nat.le_induction with
  | base => exact Iff.rfl
  | succ month hlow ih =>
    have hnext : next ⟨year, month, daysInMonth year month⟩ = ⟨year, month + 1, 1⟩ := by
      rw [next, if_neg (lt_irrefl _), if_pos (Nat.lt_of_succ_le hhigh)]
    rw [← ih (by omega), ← hasNumber_iff_last_of_month hlow (by omega), hnext]

/-- The years are counted together. -/
theorem hasNumber_next_year_iff (year : Int) :
    (∃ n, HasNumber ⟨year + 1, 1, 1⟩ n) ↔ ∃ n, HasNumber ⟨year, 1, 1⟩ n := by
  have hnext : next ⟨year, 12, daysInMonth year 12⟩ = ⟨year + 1, 1, 1⟩ := by
    rw [next, if_neg (lt_irrefl _), if_neg (lt_irrefl _)]
  rw [← hnext, hasNumber_iff_last_of_month (by decide) le_rfl,
    hasNumber_iff_first_of_year (by decide) le_rfl]

theorem exists_hasNumber {d : Date} (h : d.isValid = true) : ∃ n, d.HasNumber n := by
  obtain ⟨hlow, hhigh, hday, hlast⟩ := isValid_iff.1 h
  have hyear : ∃ n, HasNumber ⟨d.year, 1, 1⟩ n := by
    refine Int.inductionOn' d.year 1970 ⟨0, .epoch⟩ (fun year _ ih => ?_) (fun year _ ih => ?_)
    · exact (hasNumber_next_year_iff year).2 ih
    · rwa [← hasNumber_next_year_iff, Int.sub_add_cancel]
  exact (hasNumber_iff_first_of_month hlow hhigh hday hlast).2
    ((hasNumber_iff_first_of_year hlow hhigh).2 hyear)

/-- Counting goes over days of the calendar, and the formula keeps up with it. -/
theorem HasNumber.eq_dayNumber {d : Date} {n : Int} (h : d.HasNumber n) :
    d.isValid = true ∧ n = d.dayNumber := by
  induction h with
  | epoch => exact ⟨rfl, rfl⟩
  | next _ ih =>
    obtain ⟨hvalid, rfl⟩ := ih
    exact ⟨isValid_next hvalid, (dayNumber_next hvalid).symm⟩
  | previous hvalid _ ih =>
    have hn := ih.2
    rw [dayNumber_next hvalid] at hn
    exact ⟨hvalid, by omega⟩

theorem HasNumber.unique {d : Date} {m n : Int} (hm : d.HasNumber m) (hn : d.HasNumber n) : m = n :=
  hm.eq_dayNumber.2.trans hn.eq_dayNumber.2.symm

/-- **The formula gives the number of every day.** -/
theorem hasNumber_iff {d : Date} (h : d.isValid = true) {n : Int} :
    d.HasNumber n ↔ n = d.dayNumber := by
  constructor
  · intro hn
    exact hn.eq_dayNumber.2
  · rintro rfl
    obtain ⟨n, hn⟩ := exists_hasNumber h
    rwa [← hn.eq_dayNumber.2]

end Date
end ListQuery
