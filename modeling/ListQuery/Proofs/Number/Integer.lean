import Mathlib.Data.List.Basic
import Mathlib.Data.List.Induction
import Mathlib.Data.Nat.Digits.Defs
import ListQuery.Number.Integer

/-!
# The integers that texts write

A reader of digits goes from the left and multiplies as it goes.  What it reads is described here
without it, by the places of the digits: the last one counts ones, the one before it tens.  The
sign stands in front and is not part of the number.

* `DigitText`, `placeValue` — a row of digits, and the number that it writes; `placeValue_append`.
* `WritesInteger` — a text is an optional sign and a row of digits, and writes an integer.
* `integer?_eq_some_iff` — **what is read is what is written**.
* `int64?_eq_some_iff`, `int64?_eq_none_iff` — an integer has a place in 64 bits exactly when it is
  in range, and keeps its value there.
* `writesInteger_integerText` — the decimal digits of an integer write it.
-/

set_option autoImplicit false
namespace ListQuery

/-- At least one character, and nothing but the digits 0–9. -/
structure DigitText (ds : List Char) : Prop where
  ne_nil : ds ≠ []
  isDigit : ∀ d ∈ ds, '0' ≤ d ∧ d ≤ '9'

/-- The number that digits write: ones at the end, tens before them, and so on. -/
def placeValue (ds : List Char) : Nat :=
  Nat.ofDigits 10 (ds.reverse.map fun d => d.toNat - '0'.toNat)

/-- A text of an optional sign and digits writes an integer. -/
inductive WritesInteger : List Char → Int → Prop
  | unsigned {ds : List Char} (h : DigitText ds) : WritesInteger ds (placeValue ds)
  | plus {ds : List Char} (h : DigitText ds) : WritesInteger ('+' :: ds) (placeValue ds)
  | minus {ds : List Char} (h : DigitText ds) : WritesInteger ('-' :: ds) (-(placeValue ds : Int))

/-- Digits in front have the weight of the digits behind them. -/
theorem placeValue_append (ds es : List Char) :
    placeValue (ds ++ es) = placeValue ds * 10 ^ es.length + placeValue es := by
  rw [placeValue, List.reverse_append, List.map_append, Nat.ofDigits_append, List.length_map,
    List.length_reverse, Nat.mul_comm, Nat.add_comm]
  rfl

namespace Text

/-! ## Rows of digits -/

theorem isDigit_iff {c : Char} : isDigit c = true ↔ '0' ≤ c ∧ c ≤ '9' := by
  simp [isDigit]

theorem digitText_iff {ds : List Char} :
    DigitText ds ↔ (!ds.isEmpty && ds.all isDigit) = true := by
  simp only [Bool.and_eq_true, Bool.not_eq_true', List.isEmpty_eq_false_iff, List.all_eq_true,
    isDigit_iff]
  exact ⟨fun h => ⟨h.ne_nil, h.isDigit⟩, fun h => ⟨h.1, h.2⟩⟩

instance (ds : List Char) : Decidable (DigitText ds) :=
  decidable_of_iff _ digitText_iff.symm

theorem natOfDigits_append_singleton (ds : List Char) (d : Char) :
    natOfDigits (ds ++ [d]) = natOfDigits ds * 10 + digitValue d := by
  simp [natOfDigits]

/-- Multiplying from the left gives every digit the weight of its place. -/
theorem natOfDigits_eq_placeValue {ds : List Char} (h : ∀ d ∈ ds, '0' ≤ d ∧ d ≤ '9') :
    natOfDigits ds = placeValue ds := by
  induction ds using List.reverseRecOn with
  | nil => rfl
  | append_singleton ds d ih =>
    have hd : digitValue d = d.toNat - '0'.toNat := by
      rw [digitValue, if_pos (isDigit_iff.2 (h d (by simp)))]
    rw [natOfDigits_append_singleton, ih fun c hc => h c (by simp [hc]), hd, placeValue, placeValue,
      List.reverse_append, List.reverse_singleton, List.singleton_append, List.map_cons,
      Nat.ofDigits_cons]
    omega

theorem decimalNat?_eq_some_iff {ds : List Char} {n : Nat} :
    decimalNat? ds = some n ↔ DigitText ds ∧ n = placeValue ds := by
  rw [decimalNat?]
  split
  · rename_i h
    have hds := digitText_iff.2 h
    rw [Option.some_inj, natOfDigits_eq_placeValue hds.isDigit]
    exact ⟨fun hn => ⟨hds, hn.symm⟩, fun hn => hn.2.symm⟩
  · rename_i h
    exact ⟨nofun, fun hn => absurd (digitText_iff.1 hn.1) h⟩

end Text

/-! ## Signs -/

/-- A sign is no digit. -/
theorem not_digitText_cons {ds : List Char} {c : Char} (hc : ¬('0' ≤ c ∧ c ≤ '9')) :
    ¬DigitText (c :: ds) :=
  fun h => hc (h.isDigit c List.mem_cons_self)

/-- **What is read is what is written.** -/
theorem integer?_eq_some_iff {cs : List Char} {n : Int} :
    integer? cs = some n ↔ WritesInteger cs n := by
  constructor
  · intro h
    unfold integer? at h
    split at h
    · obtain ⟨m, hm, rfl⟩ := Option.map_eq_some_iff.1 h
      obtain ⟨k, hk, ⟨⟩⟩ := Option.bind_eq_some_iff.1 hm
      obtain ⟨hds, rfl⟩ := Text.decimalNat?_eq_some_iff.1 hk
      exact .minus hds
    · obtain ⟨m, hm, rfl⟩ := Option.map_eq_some_iff.1 h
      obtain ⟨hds, rfl⟩ := Text.decimalNat?_eq_some_iff.1 hm
      exact .plus hds
    · obtain ⟨m, hm, rfl⟩ := Option.map_eq_some_iff.1 h
      obtain ⟨hds, rfl⟩ := Text.decimalNat?_eq_some_iff.1 hm
      exact .unsigned hds
  · rintro (@⟨ds, hds⟩ | @⟨ds, hds⟩ | @⟨ds, hds⟩)
    · have hread := Text.decimalNat?_eq_some_iff.2 ⟨hds, rfl⟩
      unfold integer?
      split
      · exact absurd hds (not_digitText_cons (by decide))
      · exact absurd hds (not_digitText_cons (by decide))
      · rw [hread]
        rfl
    · rw [integer?, Text.decimalNat?_eq_some_iff.2 ⟨hds, rfl⟩]
      rfl
    · rw [integer?, Text.decimalNat?_eq_some_iff.2 ⟨hds, rfl⟩]
      rfl

/-! ## Integers of 64 bits -/

theorem isInRange_iff {n : Int} :
    (int64Range.1 ≤ n && n ≤ int64Range.2) = true ↔ -2 ^ 63 ≤ n ∧ n ≤ 2 ^ 63 - 1 := by
  rw [Bool.and_eq_true, decide_eq_true_iff, decide_eq_true_iff]
  rfl

theorem int64?_eq_some_iff {n : Int} {x : Int64} : int64? n = some x ↔ x.toInt = n := by
  rw [int64?, Option.ite_none_right_eq_some, isInRange_iff, Option.some_inj]
  constructor
  · rintro ⟨⟨hlow, hhigh⟩, rfl⟩
    exact Int64.toInt_ofInt_of_le hlow (by omega)
  · rintro rfl
    have hlow := x.le_toInt
    have hhigh := x.toInt_lt
    exact ⟨⟨hlow, by omega⟩, Int64.ofInt_toInt x⟩

theorem int64?_eq_none_iff {n : Int} : int64? n = none ↔ n < -2 ^ 63 ∨ 2 ^ 63 - 1 < n := by
  simp only [int64?, isInRange_iff, ite_eq_right_iff, reduceCtorEq, imp_false]
  omega

/-! ## Written integers -/

theorem digitText_toDigits (n : Nat) : DigitText (Nat.toDigits 10 n) where
  ne_nil := Nat.toDigits_ne_nil
  isDigit d hd := by
    have h := Nat.isDigit_of_mem_toDigits (by decide) (by decide) hd
    simpa [Char.isDigit, Char.le_def] using h

theorem natOfDigits_toDigits (n : Nat) : Text.natOfDigits (Nat.toDigits 10 n) = n := by
  have hfold :
      Text.natOfDigits (Nat.toDigits 10 n) = Nat.ofDigitChars 10 (Nat.toDigits 10 n) 0 := by
    refine List.foldl_ext _ _ _ fun m d hd => ?_
    rw [Text.digitValue, if_pos (Text.isDigit_iff.2 ((digitText_toDigits n).isDigit d hd)),
      Nat.mul_comm]
  rw [hfold, Nat.ofDigitChars_toDigits (by decide) (by decide)]

theorem placeValue_toDigits (n : Nat) : placeValue (Nat.toDigits 10 n) = n := by
  rw [← Text.natOfDigits_eq_placeValue (digitText_toDigits n).isDigit, natOfDigits_toDigits]

theorem toList_integerText (n : Int) :
    (integerText n).toList = (if n < 0 then ['-'] else []) ++ Nat.toDigits 10 n.natAbs := by
  unfold integerText naturalText
  split <;> simp

/-- **The decimal digits of an integer write it.** -/
theorem writesInteger_integerText (n : Int) : WritesInteger (integerText n).toList n := by
  have hds := digitText_toDigits n.natAbs
  have hvalue := placeValue_toDigits n.natAbs
  rw [toList_integerText]
  split
  · have h := WritesInteger.minus hds
    rwa [hvalue, show -(n.natAbs : Int) = n by omega] at h
  · have h := WritesInteger.unsigned hds
    rwa [hvalue, show (n.natAbs : Int) = n by omega] at h

end ListQuery
