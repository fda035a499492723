import ListQuery.Proofs.Coercion
import ListQuery.Proofs.Number.Integer
import ListQuery.Proofs.Text.Trim

/-!
# Integers in filters

A filter on a field of integers is a text of the client.  It may be padded with blanks, with zeros
and with a plus sign, and have any length; what decides is the integer that it writes, which has to
fit in 64 bits.  There is one integer more below zero than above, and one step beyond either end is
refused like any other text.

* `IsIntegerText` — a text, blanks around it aside, writes an integer.
* `parseInt64?_eq_some_iff`, `parseInt64?_eq_none_iff` — the integers of 64 bits that are read.
* `integer_filter_follows_grammar` — **a filter on integers accepts the integers of 64 bits**, each
  for itself, and reports every other text under the name of its field.
-/

set_option autoImplicit false
namespace ListQuery

/-- What stands between the blanks around a text writes an integer. -/
def IsIntegerText (s : String) (n : Int) : Prop :=
  ∃ t, Text.Trims s t ∧ WritesInteger t.toList n

theorem isIntegerText_iff {s : String} {n : Int} :
    IsIntegerText s n ↔ WritesInteger (Text.trim s).toList n := by
  constructor
  · rintro ⟨t, htrim, hwrites⟩
    rwa [htrim.trim_eq]
  · intro hwrites
    exact ⟨Text.trim s, Text.trims_trim s, hwrites⟩

theorem parseInt64?_eq_some_iff {s : String} {x : Int64} :
    parseInt64? s = some x ↔ WritesInteger s.toList x.toInt := by
  rw [parseInt64?, Option.bind_eq_some_iff]
  constructor
  · rintro ⟨n, hread, hfits⟩
    rw [int64?_eq_some_iff] at hfits
    rwa [hfits, ← integer?_eq_some_iff]
  · intro hwrites
    exact ⟨x.toInt, integer?_eq_some_iff.2 hwrites, int64?_eq_some_iff.2 rfl⟩

theorem parseInt64?_eq_none_iff {s : String} :
    parseInt64? s = none ↔ ∀ n, WritesInteger s.toList n → n < -2 ^ 63 ∨ 2 ^ 63 - 1 < n := by
  rw [parseInt64?, Option.bind_eq_none_iff]
  exact forall_congr' fun n => by rw [integer?_eq_some_iff, int64?_eq_none_iff]

/-- **A filter on integers accepts the integers of 64 bits.**  A text is accepted if, without the
blanks around it, it is an optional sign and one or more of the digits 0–9, and the integer that
these write is in range; the value is this integer.  Every other text is reported under the name of
the field, with the kind that was expected. -/
theorem integer_filter_follows_grammar (field s : String) :
    (∀ v, coerceText field .integer s = .ok v ↔
      ∃ x : Int64, IsIntegerText s x.toInt ∧ v = .bigInt x) ∧
    ((∃ v, coerceText field .integer s = .ok v) ↔
      ∃ n, IsIntegerText s n ∧ -2 ^ 63 ≤ n ∧ n ≤ 2 ^ 63 - 1) ∧
    (coerceText field .integer s = .error (.invalidFilterValue field .integer) ↔
      ∀ n, IsIntegerText s n → n < -2 ^ 63 ∨ 2 ^ 63 - 1 < n) := by
  have haccepted : ∀ v, coerceText field .integer s = .ok v ↔
      ∃ x : Int64, IsIntegerText s x.toInt ∧ v = .bigInt x := by
    intro v
    rw [coerceText_eq_ok_iff (by decide), parseValue?, Option.map_eq_some_iff]
    exact exists_congr fun x =>
      and_congr (parseInt64?_eq_some_iff.trans isIntegerText_iff.symm) eq_comm
  refine ⟨haccepted, ?_, ?_⟩
  · simp only [haccepted]
    constructor
    · rintro ⟨-, x, hwrites, -⟩
      have hlow := x.le_toInt
      have hhigh := x.toInt_lt
      exact ⟨x.toInt, hwrites, hlow, by omega⟩
    · rintro ⟨n, hwrites, hlow, hhigh⟩
      refine ⟨_, Int64.ofInt n, ?_, rfl⟩
      rwa [Int64.toInt_ofInt_of_le hlow (by omega)]
  · rw [coerceText_eq_error_iff (by decide), parseValue?, Option.map_eq_none_iff,
      parseInt64?_eq_none_iff]
    simp only [isIntegerText_iff]

/-- Zeros in front do not count, and neither do blanks; one step below the least integer is out. -/
example : (coerceText "age" .integer "\u2003-0009223372036854775808 ").toOption =
      some (.bigInt Int64.minValue) ∧
    (coerceText "age" .integer "-9223372036854775809").toOption = none := by
  decide +kernel

end ListQuery
