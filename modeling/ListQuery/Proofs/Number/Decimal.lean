import Mathlib.Data.List.TakeWhile
import ListQuery.Number.Decimal
import ListQuery.Proofs.Number.Integer

/-!
# Whole numbers among the decimal numbers

A decimal number is read digit by digit, and much can happen on the way: places run out, digits
round, coefficients get wide.  None of it happens in front of the point, as long as the digits fit
in 96 bits.

* `Decimal.Progress.exists_read?` — digits in front of the point are all taken, and only they.
* `Decimal.parse?_integerText` — **the decimal digits of a whole number are read as this number**.
-/

set_option autoImplicit false
namespace ListQuery
namespace Decimal

/-- The coefficient when further digits have been taken. -/
def withDigits (coefficient : Nat) (ds : List Char) : Nat :=
  ds.foldl (fun n d => n * 10 + Text.digitValue d) coefficient

theorem le_withDigits (coefficient : Nat) (ds : List Char) :
    coefficient ≤ withDigits coefficient ds := by
  induction ds generalizing coefficient with
  | nil => exact Nat.le_refl _
  | cons d ds ih =>
    have h := ih (coefficient * 10 + Text.digitValue d)
    rw [withDigits] at h
    rw [withDigits, List.foldl_cons]
    omega

/-- Digits in front of the point are all taken, and leave the number without places. -/
theorem Progress.exists_read? {ds : List Char} (hds : ∀ d ∈ ds, '0' ≤ d ∧ d ≤ '9') {p : Progress}
    (hpoint : p.point = false) (hfull : p.full = false) (hdigit : p.digit = true ∨ ds ≠ [])
    (hfits : withDigits p.coefficient ds < bound) :
    ∃ q, p.read? ds = some q ∧ q.coefficient = withDigits p.coefficient ds ∧
      q.scale = p.scale := by
  induction ds generalizing p with
  | nil =>
    have hseen : p.digit = true := hdigit.resolve_right fun h => h rfl
    exact ⟨p, by rw [read?, if_pos hseen], rfl, rfl⟩
  | cons d ds ih =>
    have hd := Text.isDigit_iff.2 (hds d List.mem_cons_self)
    have hnext : p.coefficient * 10 + Text.digitValue d < bound :=
      Nat.lt_of_le_of_lt (le_withDigits _ ds) hfits
    obtain ⟨q, hread, hcoefficient, hscale⟩ :=
      ih (p := p.extend (p.coefficient * 10 + Text.digitValue d))
        (fun c hc => hds c (List.mem_cons_of_mem d hc)) hpoint (by simp [extend, hpoint])
        (Or.inl rfl) hfits
    refine ⟨q, ?_, hcoefficient, ?_⟩
    · rw [read?, hfull, Bool.false_and, if_neg Bool.false_ne_true, if_pos hd, if_pos hnext, hread]
    · rw [hscale, extend, hpoint]
      rfl

/-- Digits alone are read as a whole number. -/
theorem exists_read?_toDigits {n : Nat} (h : n < bound) :
    ∃ q, Progress.read? {} (Nat.toDigits 10 n) = some q ∧ q.coefficient = n ∧ q.scale = 0 := by
  have hds := digitText_toDigits n
  have hvalue : withDigits 0 (Nat.toDigits 10 n) = n := natOfDigits_toDigits n
  obtain ⟨q, hread, hcoefficient, hscale⟩ :=
    Progress.exists_read? (p := {}) hds.isDigit rfl rfl (Or.inr hds.ne_nil) (by rwa [hvalue])
  exact ⟨q, hread, hcoefficient.trans hvalue, hscale⟩

/-- A digit is neither of the signs, so that a row of digits is read from its first character. -/
theorem plain?_of_digitText {ds : List Char} (h : DigitText ds) :
    plain? ds = (Progress.read? {} ds).map fun p =>
      ⟨false, p.coefficient, p.scale % (maxScale + 1)⟩ := by
  unfold plain?
  split
  rename_i negative rest hsign
  split at hsign
  · exact absurd h (not_digitText_cons (by decide))
  · exact absurd h (not_digitText_cons (by decide))
  · cases hsign
    rfl

theorem plain?_toDigits {n : Nat} (h : n < bound) :
    plain? (Nat.toDigits 10 n) = some ⟨false, n, 0⟩ := by
  obtain ⟨q, hread, hcoefficient, hscale⟩ := exists_read?_toDigits h
  rw [plain?_of_digitText (digitText_toDigits n), hread, Option.map_some, hcoefficient, hscale]
  rfl

theorem plain?_minus_toDigits {n : Nat} (h : n < bound) (hpos : n ≠ 0) :
    plain? ('-' :: Nat.toDigits 10 n) = some ⟨true, n, 0⟩ := by
  obtain ⟨q, hread, hcoefficient, hscale⟩ := exists_read?_toDigits h
  simp [plain?, hread, hcoefficient, hscale, hpos]

/-- A text of digits and signs has no exponent. -/
theorem dropWhile_eq_nil {cs : List Char} (h : ∀ c ∈ cs, c ≠ 'e' ∧ c ≠ 'E') :
    cs.dropWhile (fun c => !(c == 'e' || c == 'E')) = [] := by
  refine List.dropWhile_eq_nil_iff.2 ?_
  intro c hc
  simpa using h c hc

/-- **The decimal digits of a whole number are read as this number.** -/
theorem parse?_integerText {n : Int} (h : n.natAbs < bound) :
    parse? (integerText n) = some (ofInt n) := by
  have hdigits := digitText_toDigits n.natAbs
  have hplain : parse? (integerText n) = plain? (integerText n).toList := by
    have hmark : ∀ c ∈ (integerText n).toList, c ≠ 'e' ∧ c ≠ 'E' := by
      intro c hc
      rw [toList_integerText, List.mem_append] at hc
      rcases hc with hc | hc
      · split at hc
        · rw [List.mem_singleton.1 hc]
          decide
        · cases hc
      · have hd := hdigits.isDigit c hc
        exact ⟨fun he => absurd hd (by rw [he]; decide), fun he => absurd hd (by rw [he]; decide)⟩
    unfold parse?
    simp only [dropWhile_eq_nil hmark]
  rw [hplain, toList_integerText]
  by_cases hneg : n < 0
  · rw [if_pos hneg, List.singleton_append, plain?_minus_toDigits h (by omega), ofInt,
      decide_eq_true hneg]
  · rw [if_neg hneg, List.nil_append, plain?_toDigits h, ofInt, decide_eq_false hneg]

end Decimal
end ListQuery
