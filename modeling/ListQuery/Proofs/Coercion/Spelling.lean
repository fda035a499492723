import ListQuery.Proofs.Coercion.Integer
import ListQuery.Proofs.Number.Decimal
import ListQuery.Proofs.Query.Conditions
import ListQuery.Proofs.Uuid

/-!
# Elements and their texts

A client may write the elements of a list as numbers and identifiers, or as texts.  The two go
different ways: a number is taken as it is, a text is trimmed and read.  This file shows that they
arrive at the same value, so that it does not matter how the elements of a list are written, and
lists may mix both.

Doubles are left out: a text is rounded once when it is read, and a number once when it becomes a
double, which are two different algorithms.

## What is here

* `Scalar.SpelledAs`, `Scalar.WrittenAs` — the text of a number or an identifier, and this text with
  blanks around it.
* `coerceScalar_int_eq_ok_iff`, `coerceScalar_uuid_eq_ok_iff` — the kinds that numbers and
  identifiers serve.
* `coerceText_of_writtenAs` — an element and its text become the same value.
* `coerceText_congr` — of a text only what stands between the blanks around it counts.
* `typed_elements_agree_with_texts` — **however the elements of a list are written, the same values
  are searched for**.
-/

set_option autoImplicit false
namespace ListQuery

/-- The texts of an element: the decimal digits of a number, and the hyphenated form of an
identifier in any case. -/
inductive Scalar.SpelledAs : Scalar → String → Prop
  | int (n : Int64) : SpelledAs (.int n) (integerText n.toInt)
  | uuid {u : Uuid} {t : String} (h : Text.sameAscii t u.text = true) : SpelledAs (.uuid u) t

/-- A text of an element, with blanks around it or without. -/
def Scalar.WrittenAs (item : Scalar) (s : String) : Prop :=
  ∃ front t back : String, (∀ c ∈ front.toList, Text.isBlank c) ∧ item.SpelledAs t ∧
    (∀ c ∈ back.toList, Text.isBlank c) ∧ s = front ++ t ++ back

/-- Two ways to put an element in a list: `other` is the element itself or writes it as a text. -/
inductive Scalar.SameElement : (item other : Scalar) → Prop
  | same (item : Scalar) : SameElement item item
  | written {item : Scalar} {s : String} (h : item.WrittenAs s) : SameElement item (.text s)

/-! ## The texts of elements -/

theorem isBlank_of_mem_integerText {n : Int} {c : Char} (h : c ∈ (integerText n).toList) :
    Text.isBlank c = false := by
  have hdigit : ∀ m < 0x80, '0' ≤ Char.ofNat m ∧ Char.ofNat m ≤ '9' →
      Text.isBlank (Char.ofNat m) = false := by decide
  rw [toList_integerText, List.mem_append] at h
  rcases h with h | h
  · split at h
    · rw [List.mem_singleton.1 h]
      decide
    · cases h
  · have hc := (digitText_toDigits n.natAbs).isDigit c h
    have hascii : c.toNat < 0x80 :=
      Nat.lt_of_le_of_lt (UInt32.le_iff_toNat_le.1 hc.2) (by decide)
    exact Text.forall_ascii (p := fun c => '0' ≤ c ∧ c ≤ '9' → Text.isBlank c = false) hdigit
      hascii hc

theorem Scalar.SpelledAs.isTrimmed {item : Scalar} {t : String} (h : item.SpelledAs t) :
    Text.IsTrimmed t := by
  have hblank : ∀ c ∈ t.toList, Text.isBlank c = false := by
    intro c hc
    cases h with
    | int n => exact isBlank_of_mem_integerText hc
    | uuid h => exact Uuid.isBlank_of_sameAscii_text h hc
  exact ⟨fun c hc => hblank c (List.mem_of_mem_head? hc),
    fun c hc => hblank c (List.mem_of_mem_getLast? hc)⟩

/-- Trimming leaves the text of the element. -/
theorem Scalar.WrittenAs.exists_trim {item : Scalar} {s : String} (h : item.WrittenAs s) :
    ∃ t, item.SpelledAs t ∧ Text.trim s = t := by
  obtain ⟨front, t, back, hfront, ht, hback, rfl⟩ := h
  refine ⟨t, ht, ?_⟩
  rw [Text.trim_blanks_around hfront hback, ht.isTrimmed.trim_eq]

/-! ## Elements and texts as values -/

section

variable {field : String} {kind : FieldKind}

/-- Numbers serve the numeric kinds. -/
theorem coerceScalar_int_eq_ok_iff {n : Int64} {v : SqlValue} :
    coerceScalar field kind (.int n) = .ok v ↔
      kind = .integer ∧ v = .bigInt n ∨ kind = .double ∧ v = .double (Binary64.ofInt n.toInt) ∨
        kind = .decimal ∧ v = .decimal (Decimal.ofInt n.toInt) := by
  cases kind <;> simp [coerceScalar, eq_comm]

/-- Identifiers serve their own kind. -/
theorem coerceScalar_uuid_eq_ok_iff {u : Uuid} {v : SqlValue} :
    coerceScalar field kind (.uuid u) = .ok v ↔ kind = .uuid ∧ v = .uuid u := by
  cases kind <;> simp [coerceScalar, eq_comm]

theorem coerceText_integerText (n : Int64) {s : String} (h : Text.trim s = integerText n.toInt) :
    coerceText field .integer s = .ok (.bigInt n) ∧
      coerceText field .decimal s = .ok (.decimal (Decimal.ofInt n.toInt)) := by
  have hbound : n.toInt.natAbs < Decimal.bound := by
    have hlow := n.le_toInt
    have hhigh := n.toInt_lt
    have hwide : (2 : Nat) ^ 63 < Decimal.bound := by decide
    omega
  have hinteger := parseInt64?_eq_some_iff.2 (writesInteger_integerText n.toInt)
  have hdecimal := Decimal.parse?_integerText hbound
  rw [coerceText_eq_ok_iff (by decide), coerceText_eq_ok_iff (by decide), h, parseValue?,
    parseValue?, hinteger, hdecimal]
  exact ⟨rfl, rfl⟩

/-- **An element and its text become the same value.** -/
theorem coerceText_of_writtenAs {item : Scalar} {s : String} (hs : item.WrittenAs s)
    (hkind : kind ≠ .double) {v : SqlValue} (hv : coerceScalar field kind item = .ok v) :
    coerceText field kind s = .ok v := by
  obtain ⟨t, ht, htrim⟩ := hs.exists_trim
  cases ht with
  | int n =>
    obtain ⟨hinteger, hdecimal⟩ := @coerceText_integerText field n s htrim
    rcases coerceScalar_int_eq_ok_iff.1 hv with ⟨rfl, rfl⟩ | ⟨rfl, -⟩ | ⟨rfl, rfl⟩
    · exact hinteger
    · exact absurd rfl hkind
    · exact hdecimal
  | uuid h =>
    obtain ⟨rfl, rfl⟩ := coerceScalar_uuid_eq_ok_iff.1 hv
    rw [coerceText_eq_ok_iff (by decide), htrim, parseValue?, Uuid.parse?_of_sameAscii_text h]
    rfl

theorem coerceScalar_of_sameElement {item other : Scalar} (h : item.SameElement other)
    (hkind : kind ≠ .double) {v : SqlValue} (hv : coerceScalar field kind item = .ok v) :
    coerceScalar field kind other = .ok v := by
  cases h with
  | same => exact hv
  | written hs => exact coerceText_of_writtenAs hs hkind hv

/-- The values that a list is searched for do not depend on how its elements are written. -/
theorem mapM_coerceScalar_of_sameElement {items others : List Scalar}
    (h : List.Forall₂ Scalar.SameElement items others) (hkind : kind ≠ .double)
    {vs : List SqlValue} (hvs : items.mapM (coerceScalar field kind) = .ok vs) :
    others.mapM (coerceScalar field kind) = .ok vs := by
  rw [mapM_eq_ok_iff] at hvs ⊢
  induction h generalizing vs with
  | nil => exact hvs
  | cons hitem _ ih =>
    cases hvs with
    | cons hv hvs => exact .cons (coerceScalar_of_sameElement hitem hkind hv) (ih hvs)

/-- Of a text only what stands between the blanks around it counts. -/
theorem coerceText_congr (hkind : kind ≠ .string) {s t : String} (h : Text.trim s = Text.trim t) :
    coerceText field kind s = coerceText field kind t := by
  rw [coerceText, coerceText, if_neg hkind, if_neg hkind, h]

end

/-- **However the elements of a list are written, the same values are searched for.**  A number
serves the kinds of integers and of decimal numbers, and an identifier serves its own kind; the
value is the one that is read from the text of the element, with any blanks around it.  So a list
may write each of its elements in one way or the other.  Blanks around a text count for fields of
text only, which take a text as it is. -/
theorem typed_elements_agree_with_texts (field : String) (kind : FieldKind) :
    (∀ item v, kind ≠ .double → coerceScalar field kind item = .ok v →
      ∀ s, item.WrittenAs s → coerceText field kind s = .ok v) ∧
    (∀ n : Int64, kind ≠ .double → ((∃ v, coerceScalar field kind (.int n) = .ok v) ↔
      kind = .integer ∨ kind = .decimal)) ∧
    (∀ u : Uuid, (∃ v, coerceScalar field kind (.uuid u) = .ok v) ↔ kind = .uuid) ∧
    (∀ column items others condition, kind ≠ .double →
      List.Forall₂ Scalar.SameElement items others →
      valueCondition field ⟨column, kind⟩ (.list items) = .ok condition →
      valueCondition field ⟨column, kind⟩ (.list others) = .ok condition) ∧
    (kind ≠ .string → ∀ s t, Text.trim s = Text.trim t →
      coerceText field kind s = coerceText field kind t) ∧
    (kind = .string → ∀ s, coerceText field kind s = .ok (.string s)) := by
  refine ⟨?_, ?_, ?_, ?_, ?_, ?_⟩
  · intro item v hkind hv s hs
    exact coerceText_of_writtenAs hs hkind hv
  · intro n hkind
    simp only [coerceScalar_int_eq_ok_iff, hkind, false_and, false_or]
    constructor
    · rintro ⟨v, ⟨hinteger, -⟩ | ⟨hdecimal, -⟩⟩
      · exact Or.inl hinteger
      · exact Or.inr hdecimal
    · rintro (hinteger | hdecimal)
      · exact ⟨_, Or.inl ⟨hinteger, rfl⟩⟩
      · exact ⟨_, Or.inr ⟨hdecimal, rfl⟩⟩
  · intro u
    simp only [coerceScalar_uuid_eq_ok_iff, exists_and_left, exists_eq, and_true]
  · intro column items others condition hkind hlists hcondition
    rw [valueCondition_list] at hcondition ⊢
    obtain ⟨vs, hvs, rfl⟩ := map_eq_ok_iff.1 hcondition
    rw [mapM_coerceScalar_of_sameElement hlists hkind hvs]
    rfl
  · intro hkind s t htrim
    exact coerceText_congr hkind htrim
  · rintro rfl s
    rfl

/-- The least number of 64 bits as a text between blanks, beside a number that is written as one;
and an identifier in capital letters. -/
theorem typed_elements_agree_with_texts_mixed :
    let column : ColumnRef := ⟨"employee", "age"⟩
    let least : String := "\u3000" ++ "-9223372036854775808" ++ "\n"
    let id : Uuid := ⟨List.replicate 32 10, by decide⟩
    let capitals : String := "AAAAAAAA-AAAA-AAAA-AAAA-AAAAAAAAAAAA"
    Scalar.WrittenAs (.int Int64.minValue) least ∧
      valueCondition "age" ⟨column, .integer⟩ (.list [.text least, .int 7]) =
        .ok (some (.oneOf column [.bigInt Int64.minValue, .bigInt 7])) ∧
      coerceText "uid" .uuid capitals = .ok (.uuid id) := by
  intro column least id capitals
  have hleast : Scalar.WrittenAs (.int Int64.minValue) least :=
    ⟨"\u3000", _, "\n", List.all_eq_true.1 rfl, .int Int64.minValue, List.all_eq_true.1 rfl,
      by decide⟩
  have hcapitals : Scalar.WrittenAs (.uuid id) capitals :=
    ⟨"", capitals, "", nofun, .uuid (Text.sameAscii_iff_map.2 (by decide)), nofun, rfl⟩
  obtain ⟨-, -, -, hlists, -⟩ := typed_elements_agree_with_texts "age" .integer
  obtain ⟨hitem, -⟩ := typed_elements_agree_with_texts "uid" .uuid
  refine ⟨hleast, hlists column [.int Int64.minValue, .int 7] _ _ (by decide) ?_ rfl, ?_⟩
  · exact .cons (.written hleast) (.cons (.same _) .nil)
  · exact hitem (.uuid id) _ (by decide) rfl capitals hcapitals

end ListQuery
