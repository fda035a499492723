import ListQuery.Proofs.Clause.Filters
import ListQuery.Proofs.Scanning.Placeholders
import ListQuery.Proofs.Text.Pieces

/-!
# Comparing a column with a parameter

The operator of a comparison is written when the filter is appended, and what stands behind it when
the parameter is bound.  The two are made for each other: `=` needs one placeholder behind it, and
`IN` needs placeholders in parentheses.

## What is here

* `filterParam_eq_iff` — the parameter of a column is what stands behind its last dot.
* `filterStatement` — what becomes of filters that are appended to nothing and then bound.
* `Comparison` — the two operators.  `Comparison.Fits` says which operands an operator can have, and
  `Comparison.Fits.unique` that no operand is good for both.
* `filterLine_of_param?` — the line of a filter that has a parameter.
* `ParamValue.fits_operand` — **a parameter is written as an operand of its own comparison**.
-/

set_option autoImplicit false
namespace ListQuery

/-! ## Columns and their parameters -/

theorem filterParam_of_not_mem {column : String} (h : '.' ∉ column.toList) :
    filterParam column = column := by
  rw [filterParam, Text.pieces_of_not_mem h, List.getLast?_singleton, Option.getD_some]

theorem filterParam_append {name : String} (h : '.' ∉ name.toList) (front : String) :
    filterParam (front ++ "." ++ name) = name := by
  have htext : (front ++ "." ++ name).toList = front.toList ++ '.' :: name.toList := by
    simp only [String.toList_append, List.append_assoc]
    rfl
  rw [filterParam, Text.pieces, htext, List.splitOn_append_cons_self,
    List.splitOn_eq_singleton h, List.map_append, List.map_singleton, List.getLast?_append,
    List.getLast?_singleton, Option.some_or, Option.getD_some, String.ofList_toList]

/-- The part behind the last dot of a text that has one. -/
theorem exists_last_dot {column : String} (h : '.' ∈ column.toList) :
    ∃ front name, column = front ++ "." ++ name ∧ '.' ∉ name.toList := by
  obtain ⟨back, front, htext, hback⟩ := List.eq_append_cons_of_mem (List.mem_reverse.2 h)
  refine ⟨String.ofList front.reverse, String.ofList back.reverse, ?_, ?_⟩
  · apply String.toList_inj.1
    rw [← List.reverse_reverse column.toList, htext]
    simp [String.toList_append]
  · rwa [String.toList_ofList, List.mem_reverse]

/-- **The parameter of a column** is the column itself, or what stands behind its last dot. -/
theorem filterParam_eq_iff {column name : String} :
    filterParam column = name ↔
      '.' ∉ name.toList ∧ (column = name ∨ ∃ front, column = front ++ "." ++ name) := by
  constructor
  · rintro rfl
    by_cases h : '.' ∈ column.toList
    · obtain ⟨front, name, rfl, hname⟩ := exists_last_dot h
      rw [filterParam_append hname]
      exact ⟨hname, Or.inr ⟨front, rfl⟩⟩
    · rw [filterParam_of_not_mem h]
      exact ⟨h, Or.inl rfl⟩
  · rintro ⟨hname, rfl | ⟨front, rfl⟩⟩
    · exact filterParam_of_not_mem hname
    · exact filterParam_append hname front

/-- The characters of words: letters, digits, underscores, and whatever is outside of ASCII. -/
def isWordChar (c : Char) : Bool :=
  Lexeme.isNameChar c || 0x80 ≤ c.toNat

theorem isWordChar_of_isNameChar {c : Char} (h : Lexeme.isNameChar c) : isWordChar c := by
  rw [isWordChar, h, Bool.true_or]

theorem Region.isQuiet_of_isWordChar {c : Char} (h : isWordChar c) : isQuiet c := by
  have hne : ∀ d : Char, isWordChar d = false → c ≠ d := by
    rintro d hd rfl
    rw [h] at hd
    cases hd
  simp (disch := decide) [isQuiet, Lexeme.isQuote, hne]

/-- The statement of filters that are appended to nothing. -/
def filterStatement (filters : List (String × FilterValue)) (nullCheck : Bool)
    (backend : Backend) : Except BindError Statement :=
  let appended := appendFilters "" {} filters nullCheck
  appended.2.bind appended.1 backend

/-! ## Operators and their operands -/

/-- The ways in which a column is compared with a parameter. -/
inductive Comparison where
  | equality
  | membership
  deriving DecidableEq, Repr

namespace Comparison

/-- What is written between a column and the parameter. -/
def operator : Comparison → String
  | equality => " = "
  | membership => " IN "

/-- The operand is one placeholder, or some placeholders in parentheses. -/
def Fits (backend : Backend) : Comparison → (operand : String) → Prop
  | equality, operand => ∃ k, operand = backend.placeholder k
  | membership, operand =>
    ∃ ks : List Nat, ks ≠ [] ∧ operand = "(" ++ ", ".intercalate (ks.map backend.placeholder) ++ ")"

theorem operator_inj {a b : Comparison} (h : a.operator = b.operator) : a = b := by
  revert h
  cases a <;> cases b <;> decide

theorem quietText_operator (comparison : Comparison) : QuietText comparison.operator := by
  cases comparison <;> decide

theorem not_fits_both {backend : Backend} {operand : String} (hone : Fits backend equality operand)
    (hlist : Fits backend membership operand) : False := by
  obtain ⟨k, rfl⟩ := hone
  obtain ⟨ks, -, htext⟩ := hlist
  have hfirst : (backend.placeholder k).toList.head? = some '(' := by
    rw [htext]
    simp [String.toList_append]
  rw [Backend.toList_placeholder] at hfirst
  split at hfirst <;> simp at hfirst

/-- What stands behind an operator shows which operator it is for. -/
theorem Fits.unique {backend : Backend} {a b : Comparison} {operand : String}
    (ha : a.Fits backend operand) (hb : b.Fits backend operand) : a = b := by
  cases a with
  | equality =>
    cases b with
    | equality => rfl
    | membership => exact (not_fits_both ha hb).elim
  | membership =>
    cases b with
    | equality => exact (not_fits_both hb ha).elim
    | membership => rfl

end Comparison

/-! ## Parameters of filters -/

/-- The comparison that a parameter is for. -/
def ParamValue.comparison : ParamValue → Comparison
  | scalar _ => .equality
  | list _ => .membership

/-- What is written for a parameter behind `used` placeholders. -/
def ParamValue.operand (backend : Backend) (used : Nat) (value : ParamValue) : String :=
  String.ofList (value.spelled backend used)

theorem ParamValue.operand_eq_join (backend : Backend) (used : Nat) (value : ParamValue) :
    value.operand backend used =
      String.join (Fragment.texts backend used (Params.expand value)) := by
  rw [operand, ← texts_expand, String.ofList_toList]

/-- An active list is not empty, so it never becomes `(NULL)`. -/
theorem FilterValue.param?_ne_empty {value : FilterValue} {param : ParamValue}
    (h : value.param? = some param) : param ≠ .list [] := by
  rintro rfl
  cases value with
  | null => cases h
  | flag present => cases h
  | text s =>
    rw [param?] at h
    split at h <;> simp at h
  | list items =>
    cases items with
    | nil => cases h
    | cons item items => simp [param?] at h

theorem ParamValue.values_ne_nil (value : ParamValue) (h : value ≠ .list []) :
    value.values ≠ [] := by
  cases value with
  | scalar v => exact List.cons_ne_nil v []
  | list vs => exact fun hnil => h (congrArg ParamValue.list hnil)

/-- **A parameter is written as an operand of its own comparison**, unless it is an empty list. -/
theorem ParamValue.fits_operand (value : ParamValue) (h : value ≠ .list []) (backend : Backend)
    (used : Nat) : value.comparison.Fits backend (value.operand backend used) := by
  match value with
  | .scalar v => exact ⟨used + 1, String.ofList_toList⟩
  | .list [] => exact absurd rfl h
  | .list (v :: vs) =>
    refine ⟨List.range' (used + 1) (v :: vs).length, by simp [List.range'], ?_⟩
    apply String.toList_inj.1
    simp [operand, spelled, Backend.placeholders, String.toList_append, String.toList_intercalate,
      Function.comp_def]

/-- No operand mentions a parameter. -/
theorem ParamValue.at_not_mem_operand (backend : Backend) (used : Nat) (value : ParamValue) :
    '@' ∉ (value.operand backend used).toList := by
  intro h
  rw [operand, String.toList_ofList] at h
  exact absurd (value.spelled_inert backend used '@' h) (by decide)

/-- **The line of a filter that has a parameter.** -/
theorem filterLine_of_param? {value : FilterValue} {param : ParamValue}
    (h : value.param? = some param) (nullCheck : Bool) (column : String) :
    filterLine nullCheck column value =
      some ("  AND " ++ column ++ param.comparison.operator ++ "@" ++ filterParam column ++ "\n",
        some param) := by
  have hactive : value.isActive = true := by
    by_contra hinactive
    rw [FilterValue.param?_of_inactive (Bool.eq_false_iff.2 hinactive)] at h
    cases h
  cases value with
  | null | flag present => cases h
  | text s =>
    obtain rfl : .scalar (.string s) = param :=
      Option.some.inj ((FilterValue.param?_text hactive).symm.trans h)
    simp [filterLine, hactive, ParamValue.comparison, Comparison.operator, String.append_assoc]
  | list items =>
    obtain rfl : .list (items.map Scalar.value) = param :=
      Option.some.inj ((FilterValue.param?_list hactive).symm.trans h)
    simp [filterLine, hactive, ParamValue.comparison, Comparison.operator, String.append_assoc]

end ListQuery
