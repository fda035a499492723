import Mathlib.Data.List.TakeWhile
import ListQuery.Proofs.Number.Integer
import ListQuery.Text.Scan

/-!
# What is read from the front of a text

Each reader takes a part off the front of a text.  What it takes is described here by the part and
what follows it, so that readers one after the other need not be run to know what they read.

* `FixedDigits`, `Scan.digits?_eq_some_iff` — a number of so many digits.
* `Scan.literal?_eq_some_iff` — a certain character.
* `FractionText`, `nanosOf` — a fraction of a second, and the nanoseconds of its first nine digits.
* `Scan.exists_of_pointFraction?`, `Scan.pointFraction?_append` — a fraction is read to its end, and
  this is all that is read.
-/

set_option autoImplicit false
namespace ListQuery

/-- So many characters, and nothing but the digits 0–9. -/
structure FixedDigits (width : Nat) (ds : List Char) : Prop where
  length_eq : ds.length = width
  isDigit : ∀ d ∈ ds, '0' ≤ d ∧ d ≤ '9'

instance (width : Nat) (ds : List Char) : Decidable (FixedDigits width ds) :=
  decidable_of_iff (ds.length = width ∧ ds.all Text.isDigit = true) <| by
    simp only [List.all_eq_true, Text.isDigit_iff]
    exact ⟨fun h => ⟨h.1, h.2⟩, fun h => ⟨h.1, h.2⟩⟩

/-- The digits behind the point of a fraction; no point is a fraction without digits. -/
inductive FractionText : List Char → (digits : List Char) → Prop
  | none : FractionText [] []
  | some {ds : List Char} (h : DigitText ds) : FractionText ('.' :: ds) ds

/-- The first nine digits of a fraction as a number of nanoseconds; digits that are not written are
zeros. -/
def nanosOf (ds : List Char) : Nat :=
  placeValue ((ds ++ List.replicate 9 '0').take 9)

theorem placeValue_replicate_zero (n : Nat) : placeValue (List.replicate n '0') = 0 := by
  induction n with
  | zero => rfl
  | succ n ih =>
    rw [List.replicate_succ', placeValue_append, ih]
    rfl

/-- Digits that are not written do not count, and neither do those behind the ninth. -/
theorem nanosOf_eq (ds : List Char) :
    nanosOf ds = placeValue (ds.take 9) * 10 ^ (9 - (ds.take 9).length) := by
  have hpad : (ds ++ List.replicate 9 '0').take 9 =
      ds.take 9 ++ List.replicate (9 - (ds.take 9).length) '0' := by
    rw [List.take_append, List.take_replicate, List.length_take]
    congr 2
    omega
  rw [nanosOf, hpad, placeValue_append, placeValue_replicate_zero, List.length_replicate,
    Nat.add_zero]

namespace Text
namespace Scan

/-! ## Numbers and characters -/

theorem leadingDigits_append {ds : List Char} (h : ∀ d ∈ ds, '0' ≤ d ∧ d ≤ '9')
    (rest : List Char) : leadingDigits ds.length (ds ++ rest) = ds := by
  rw [leadingDigits, List.take_left, List.takeWhile_eq_self_iff]
  exact fun d hd => isDigit_iff.2 (h d hd)

theorem digits?_eq_some_iff {width n : Nat} {cs rest : List Char} :
    digits? width width cs = some (n, rest) ↔
      ∃ ds, FixedDigits width ds ∧ n = placeValue ds ∧ cs = ds ++ rest := by
  simp only [digits?, Option.ite_none_right_eq_some, Option.some_inj, Prod.mk.injEq]
  constructor
  · rintro ⟨hwidth, rfl, rfl⟩
    -- As many digits as characters were looked at, so that all of these are digits.
    have hall : leadingDigits width cs = cs.take width := by
      refine (List.takeWhile_prefix isDigit).eq_of_length_le ?_
      exact (List.length_take_le width cs).trans hwidth
    have hdigits : ∀ d ∈ cs.take width, '0' ≤ d ∧ d ≤ '9' := by
      intro d hd
      rw [← hall] at hd
      exact isDigit_iff.1 (List.mem_takeWhile_imp hd)
    rw [hall] at hwidth ⊢
    have hlength := Nat.le_antisymm (List.length_take_le width cs) hwidth
    exact ⟨cs.take width, ⟨hlength, hdigits⟩, natOfDigits_eq_placeValue hdigits,
      by rw [hlength, List.take_append_drop]⟩
  · rintro ⟨ds, ⟨rfl, hdigits⟩, rfl, rfl⟩
    rw [leadingDigits_append hdigits, List.drop_left]
    exact ⟨le_rfl, natOfDigits_eq_placeValue hdigits, rfl⟩

theorem digits?_append {width : Nat} {ds : List Char} (h : FixedDigits width ds)
    (rest : List Char) : digits? width width (ds ++ rest) = some (placeValue ds, rest) :=
  digits?_eq_some_iff.2 ⟨ds, h, rfl, rfl⟩

theorem literal?_eq_some_iff {c : Char} {cs rest : List Char} :
    literal? c cs = some rest ↔ cs = c :: rest := by
  cases cs with
  | nil => exact ⟨nofun, nofun⟩
  | cons d cs => simp [literal?]

@[simp] theorem literal?_cons_self (c : Char) (rest : List Char) :
    literal? c (c :: rest) = some rest :=
  literal?_eq_some_iff.2 rfl

/-! ## Fractions -/

theorem leadingDigits_eq_take (most : Nat) (cs : List Char) :
    leadingDigits most cs = (cs.takeWhile isDigit).take most := by
  induction most generalizing cs with
  | zero => rfl
  | succ most ih =>
    cases cs with
    | nil => rfl
    | cons c cs =>
      have htail := ih cs
      rw [leadingDigits] at htail
      by_cases hc : isDigit c = true <;> simp [leadingDigits, hc, htail]

/-- A fraction is read to its end. -/
theorem exists_of_fraction? {n : Nat} {cs rest : List Char} (h : fraction? cs = some (n, rest)) :
    ∃ ds, DigitText ds ∧ n = nanosOf ds ∧ cs = ds ++ rest := by
  simp only [fraction?, leadingDigits_eq_take, Option.ite_none_left_eq_some, Option.some_inj,
    Prod.mk.injEq] at h
  obtain ⟨hne, rfl, rfl⟩ := h
  have hdigits : ∀ d ∈ cs.takeWhile isDigit, '0' ≤ d ∧ d ≤ '9' :=
    fun d hd => isDigit_iff.1 (List.mem_takeWhile_imp hd)
  refine ⟨cs.takeWhile isDigit, ⟨fun hnil => ?_, hdigits⟩, ?_,
    List.takeWhile_append_dropWhile.symm⟩
  · rw [hnil] at hne
    exact hne rfl
  · rw [nanosOf_eq, natOfDigits_eq_placeValue fun d hd => hdigits d (List.mem_of_mem_take hd)]
    rfl

/-- This is all that is read, if no digit follows. -/
theorem fraction?_append {ds rest : List Char} (h : DigitText ds)
    (hrest : ∀ c, rest.head? = some c → isDigit c = false) :
    fraction? (ds ++ rest) = some (nanosOf ds, rest) := by
  have hall : ∀ d ∈ ds, isDigit d = true := fun d hd => isDigit_iff.2 (h.isDigit d hd)
  have hstop : rest.takeWhile isDigit = [] ∧ rest.dropWhile isDigit = rest := by
    cases rest with
    | nil => exact ⟨rfl, rfl⟩
    | cons c rest => simp [hrest c rfl]
  have htake : (ds ++ rest).takeWhile isDigit = ds := by
    rw [List.takeWhile_append_of_pos hall, hstop.1, List.append_nil]
  have hdrop : (ds ++ rest).dropWhile isDigit = rest := by
    rw [List.dropWhile_append_of_pos hall, hstop.2]
  have hne : (ds.take 9).isEmpty = false := by
    simp [h.ne_nil]
  have hvalue : natOfDigits (ds.take 9) = placeValue (ds.take 9) :=
    natOfDigits_eq_placeValue fun d hd => h.isDigit d (List.mem_of_mem_take hd)
  simp only [fraction?, leadingDigits_eq_take, htake, hdrop, hne, hvalue, nanosOf_eq]
  rfl

theorem exists_of_pointFraction? {n : Nat} {cs rest : List Char}
    (h : pointFraction? cs = some (n, rest)) :
    ∃ text ds, FractionText text ds ∧ n = nanosOf ds ∧ cs = text ++ rest := by
  unfold pointFraction? at h
  split at h
  · obtain ⟨ds, hds, rfl, rfl⟩ := exists_of_fraction? h
    exact ⟨_, ds, .some hds, rfl, rfl⟩
  · cases h
    exact ⟨[], [], .none, rfl, rfl⟩

theorem pointFraction?_append {text ds rest : List Char} (h : FractionText text ds)
    (hrest : ∀ c, rest.head? = some c → isDigit c = false ∧ c ≠ '.') :
    pointFraction? (text ++ rest) = some (nanosOf ds, rest) := by
  cases h with
  | none =>
    rw [List.nil_append]
    unfold pointFraction?
    split
    · exact absurd rfl (hrest '.' rfl).2
    · rfl
  | some hds => exact fraction?_append hds fun c hc => (hrest c hc).1

end Scan
end Text
end ListQuery
