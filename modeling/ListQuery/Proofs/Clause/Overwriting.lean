import Mathlib.Tactic.Set
import ListQuery.Proofs.Clause.Comparison
import ListQuery.Proofs.Outcome

/-!
# Filters that share a parameter

The line of a filter is written at once, and its parameter is looked up when all filters have been
appended.  A later filter whose column ends alike has replaced the value by then, and it can be of
another kind: the line says `=` where a list is bound, or `IN` where a single value is.

So the statement is described with two filters for every clause: its own, which decides the column
and the operator, and the last one under the same name, which decides the operand.

## What is here

* `lastParam?` — what a name stands for when all filters have been appended.
* `IsPlainColumn` — columns that are made of names with dots between them.
* `FilterClause` — a line of the bound statement.  `BecomesClause` is the relation of a filter,
  among others, to its clause.
* `exists_spelledAs` — what all filters become, by induction, with any number of placeholders in
  front.
* `clauses_agree_iff_of_one_kind` — **operators and operands agree in all clauses if and only if
  filters that share a parameter are of one kind**.
-/

set_option autoImplicit false
namespace ListQuery

/-! ## The last value under a name -/

/-- What a name stands for in the end: the parameter of the last filter that has one under it. -/
def lastParam? (filters : List (String × FilterValue)) (name : String) : Option ParamValue :=
  ((filterParams filters).reverse.find? fun p => Text.sameAscii p.1 name).map Prod.snd

section

variable {filters : List (String × FilterValue)}

theorem mem_filterParams_iff {p : String × ParamValue} :
    p ∈ filterParams filters ↔
      ∃ f ∈ filters, f.2.param? = some p.2 ∧ filterParam f.1 = p.1 := by
  obtain ⟨name, param⟩ := p
  simp only [filterParams, List.mem_filterMap, Option.map_eq_some_iff, Prod.mk.injEq]
  constructor
  · rintro ⟨f, hf, own, hown, hname, rfl⟩
    exact ⟨f, hf, hown, hname⟩
  · rintro ⟨f, hf, hown, hname⟩
    exact ⟨f, hf, param, hown, hname, rfl⟩

theorem exists_lastParam? {p : String × ParamValue} (h : p ∈ filterParams filters) :
    ∃ last, lastParam? filters p.1 = some last := by
  have hfound : ((filterParams filters).reverse.find? fun q =>
      Text.sameAscii q.1 p.1).isSome := by
    rw [List.find?_isSome]
    exact ⟨p, List.mem_reverse.2 h, Text.sameAscii_self p.1⟩
  obtain ⟨last, hlast⟩ := Option.isSome_iff_exists.1 hfound
  exact ⟨last.2, by rw [lastParam?, hlast]; rfl⟩

theorem mem_of_lastParam? {name : String} {last : ParamValue}
    (h : lastParam? filters name = some last) :
    ∃ p ∈ filterParams filters, p.2 = last ∧ Text.sameAscii p.1 name = true := by
  obtain ⟨p, hp, rfl⟩ := Option.map_eq_some_iff.1 h
  have hmem := List.mem_of_find?_eq_some hp
  have hsame := List.find?_some hp
  exact ⟨p, List.mem_reverse.1 hmem, rfl, hsame⟩

theorem lastParam?_congr {s t : String} (h : Text.sameAscii s t = true) :
    lastParam? filters s = lastParam? filters t := by
  simp only [lastParam?, Text.sameAscii_congr h]

/-- What stands for a parameter in the end has placeholders. -/
theorem lastParam?_ne_empty {name : String} {last : ParamValue}
    (h : lastParam? filters name = some last) : last ≠ .list [] := by
  obtain ⟨p, hp, rfl, -⟩ := mem_of_lastParam? h
  obtain ⟨f, -, hown, -⟩ := mem_filterParams_iff.1 hp
  exact FilterValue.param?_ne_empty hown

end

/-! ## Plain columns -/

/-- Names with dots between them. -/
def IsPlainColumn (column : String) : Prop :=
  ∀ piece ∈ Text.pieces '.' column, IsName piece

instance (column : String) : Decidable (IsPlainColumn column) :=
  inferInstanceAs (Decidable (∀ piece ∈ Text.pieces '.' column, IsName piece))

theorem IsPlainColumn.quiet {column : String} (h : IsPlainColumn column) : QuietText column := by
  intro c hc
  rw [← Text.join_pieces '.' column] at hc
  obtain rfl | ⟨piece, hpiece, hc⟩ := Text.mem_of_mem_join hc
  · decide
  · exact Region.isQuiet_of_isWordChar (isWordChar_of_isNameChar ((h piece hpiece).2 c hc))

theorem IsPlainColumn.isName_filterParam {column : String} (h : IsPlainColumn column) :
    IsName (filterParam column) := by
  have hlast := List.getLast?_eq_some_getLast (Text.pieces_ne_nil '.' column)
  rw [filterParam, hlast]
  exact h _ (List.getLast_mem _)

/-! ## Clauses -/

/-- A line of a bound statement. -/
structure FilterClause where
  column : String
  /-- What is asked of the column: an operator, or a check. -/
  test : String
  /-- What stands behind an operator. -/
  operand : String
  /-- The values of the placeholders. -/
  values : List SqlValue

namespace FilterClause

/-- The text of the line. -/
def text (clause : FilterClause) : String :=
  "  AND " ++ clause.column ++ clause.test ++ clause.operand ++ "\n"

/-- An operator has an operand that it can have. -/
def Agrees (backend : Backend) (clause : FilterClause) : Prop :=
  ∀ comparison : Comparison, clause.test = comparison.operator →
    comparison.Fits backend clause.operand

end FilterClause

/-- What is asked of a column that is present or absent. -/
def nullTest (present : Bool) : String :=
  if present then " IS NOT NULL" else " IS NULL"

theorem nullTest_ne_operator (present : Bool) (comparison : Comparison) :
    nullTest present ≠ comparison.operator := by
  cases present <;> cases comparison <;> decide

/-- The clause that one of the filters becomes.  Its operator is its own, and its operand is that of
the last filter under the same name. -/
inductive BecomesClause (backend : Backend) (filters : List (String × FilterValue)) :
    String × FilterValue → FilterClause → Prop
  | check (column : String) (present : Bool) :
      BecomesClause backend filters (column, .flag present) ⟨column, nullTest present, "", []⟩
  | comparison {column : String} {value : FilterValue} {own last : ParamValue} (used : Nat)
      (hown : value.param? = some own)
      (hlast : lastParam? filters (filterParam column) = some last) :
      BecomesClause backend filters (column, value)
        ⟨column, own.comparison.operator, last.operand backend used, last.values⟩

/-- Whether a filter adds a line. -/
def isWritten (nullCheck : Bool) (filter : String × FilterValue) : Bool :=
  (filterLine nullCheck filter.1 filter.2).isSome

/-- A filter adds nothing, a check, or a comparison with its parameter. -/
theorem filterLine_cases (nullCheck : Bool) (column : String) (value : FilterValue) :
    filterLine nullCheck column value = none ∨
      (∃ present, value = .flag present ∧
        filterLine nullCheck column value =
          some ("  AND " ++ column ++ nullTest present ++ "\n", none)) ∨
      ∃ own, value.param? = some own ∧
        filterLine nullCheck column value =
          some ("  AND " ++ column ++ own.comparison.operator ++ "@" ++ filterParam column ++ "\n",
            some own) := by
  cases hown : value.param? with
  | some own => exact Or.inr (Or.inr ⟨own, rfl, filterLine_of_param? hown nullCheck column⟩)
  | none =>
    cases value with
    | null => exact Or.inl rfl
    | flag present =>
      cases nullCheck with
      | false => exact Or.inl rfl
      | true => exact Or.inr (Or.inl ⟨present, rfl, rfl⟩)
    | text s =>
      have hblank : Text.isBlankText s := by
        by_contra hblank
        simp [FilterValue.param?, hblank] at hown
      exact Or.inl (by simp [filterLine, FilterValue.isActive, hblank])
    | list items =>
      cases items with
      | nil => exact Or.inl rfl
      | cons item items => simp [FilterValue.param?] at hown

/-! ## What all filters become -/

/-- What a filter becomes in a statement that is bound with these parameters. -/
def boundFragments (params : Params) (nullCheck : Bool) (filter : String × FilterValue) :
    List Fragment :=
  match filterLine nullCheck filter.1 filter.2 with
  | none => []
  | some (line, none) => [.text line]
  | some (_, some own) =>
    .text ("  AND " ++ filter.1 ++ own.comparison.operator) ::
      (((params.get? (filterParam filter.1)).map Params.expand).getD [] ++ [.text "\n"])

section

variable {backend : Backend} {filters : List (String × FilterValue)} {params : Params}

/-- The line of a filter is bound to its own operator and to what its parameter stands for. -/
theorem renders_boundFragments {filter : String × FilterValue} (hcolumn : IsPlainColumn filter.1)
    (hparam : ∀ own, filter.2.param? = some own →
      ∃ last, params.get? (filterParam filter.1) = some last)
    (nullCheck : Bool) :
    Renders params (filterText nullCheck filter).toList
      (boundFragments params nullCheck filter) := by
  obtain ⟨column, value⟩ := filter
  have hlead : QuietText ("  AND " ++ column) := .append (by decide) hcolumn.quiet
  obtain hline | ⟨present, rfl, hline⟩ | ⟨own, hown, hline⟩ :=
    filterLine_cases nullCheck column value
  · rw [filterText, boundFragments, hline]
    exact .nil
  · have htest : QuietText (nullTest present ++ "\n") := by cases present <;> decide
    rw [filterText, boundFragments, hline]
    show Renders params ("  AND " ++ column ++ nullTest present ++ "\n").toList [.text _]
    rw [String.append_assoc]
    exact renders_text (hlead.append htest)
  · obtain ⟨last, hlast⟩ := hparam own hown
    rw [filterText, boundFragments, hline, hlast]
    have hoperator := own.comparison.quietText_operator
    exact (renders_text (hlead.append hoperator)).reference_line hcolumn.isName_filterParam hlast

/-- Behind `used` placeholders the fragments are spelled as clauses, one for each of the filters
`fs` that adds a line. -/
structure SpelledAs (backend : Backend) (filters : List (String × FilterValue)) (nullCheck : Bool)
    (used : Nat) (fs : List (String × FilterValue)) (fragments : List Fragment)
    (clauses : List FilterClause) : Prop where
  becomes : List.Forall₂ (BecomesClause backend filters) (fs.filter (isWritten nullCheck)) clauses
  texts : String.join (Fragment.texts backend used fragments) =
    String.join (clauses.map FilterClause.text)
  values : Fragment.values fragments = clauses.flatMap FilterClause.values

theorem SpelledAs.append {nullCheck : Bool} {used : Nat} {fs gs : List (String × FilterValue)}
    {as bs : List Fragment} {cs ds : List FilterClause}
    (hfirst : SpelledAs backend filters nullCheck used fs as cs)
    (hrest : SpelledAs backend filters nullCheck (used + (Fragment.values as).length) gs bs ds) :
    SpelledAs backend filters nullCheck used (fs ++ gs) (as ++ bs) (cs ++ ds) where
  becomes := by
    rw [List.filter_append]
    exact List.rel_append hfirst.becomes hrest.becomes
  texts := by
    rw [Fragment.texts_append, String.join_append, hfirst.texts, hrest.texts, List.map_append,
      String.join_append]
  values := by
    rw [Fragment.values_append, hfirst.values, hrest.values, List.flatMap_append]

/-- With any number of placeholders in front, a filter becomes its clause, if it has one. -/
theorem exists_spelledAs_filter (backend : Backend)
    (hparams : ∀ name, params.get? name = lastParam? filters name)
    {filter : String × FilterValue} (hfilter : filter ∈ filters) (nullCheck : Bool) (used : Nat) :
    ∃ clauses, SpelledAs backend filters nullCheck used [filter]
      (boundFragments params nullCheck filter) clauses := by
  obtain ⟨column, value⟩ := filter
  obtain hline | ⟨present, rfl, hline⟩ | ⟨own, hown, hline⟩ :=
    filterLine_cases nullCheck column value
  · have hwritten : isWritten nullCheck (column, value) = false := by rw [isWritten, hline]; rfl
    refine ⟨[], ?_, ?_, ?_⟩
    · rw [List.filter_singleton, hwritten]
      exact .nil
    · rw [boundFragments, hline]
      rfl
    · rw [boundFragments, hline]
      rfl
  · have hwritten : isWritten nullCheck (column, .flag present) = true := by
      rw [isWritten, hline]
      rfl
    refine ⟨[⟨column, nullTest present, "", []⟩], ?_, ?_, ?_⟩
    · rw [List.filter_singleton, hwritten]
      exact .cons (.check column present) .nil
    · rw [boundFragments, hline]
      simp [Fragment.texts, FilterClause.text]
    · rw [boundFragments, hline]
      rfl
  · have hwritten : isWritten nullCheck (column, value) = true := by rw [isWritten, hline]; rfl
    have hmem : (filterParam column, own) ∈ filterParams filters :=
      mem_filterParams_iff.2 ⟨(column, value), hfilter, hown, rfl⟩
    obtain ⟨last, hlast⟩ := exists_lastParam? hmem
    have hget := (hparams (filterParam column)).trans hlast
    refine ⟨[⟨column, own.comparison.operator, last.operand backend used, last.values⟩],
      ?_, ?_, ?_⟩
    · rw [List.filter_singleton, hwritten]
      exact .cons (.comparison used hown hlast) .nil
    · rw [boundFragments, hline, hget]
      simp [Fragment.texts, Fragment.texts_append, FilterClause.text, ParamValue.operand_eq_join,
        String.append_assoc]
    · rw [boundFragments, hline, hget]
      simp [Fragment.values, values_expand]

/-- **What filters become**: one clause for each filter that adds a line. -/
theorem exists_spelledAs (backend : Backend)
    (hparams : ∀ name, params.get? name = lastParam? filters name)
    {fs : List (String × FilterValue)} (hfs : ∀ f ∈ fs, f ∈ filters) (nullCheck : Bool)
    (used : Nat) :
    ∃ clauses, SpelledAs backend filters nullCheck used fs
      (fs.flatMap (boundFragments params nullCheck)) clauses := by
  induction fs generalizing used with
  | nil => exact ⟨[], .nil, rfl, rfl⟩
  | cons f fs ih =>
    obtain ⟨first, hfirst⟩ :=
      exists_spelledAs_filter backend hparams (hfs f List.mem_cons_self) nullCheck used
    obtain ⟨rest, hrest⟩ := ih (fun g hg => hfs g (List.mem_cons_of_mem f hg))
      (used + (Fragment.values (boundFragments params nullCheck f)).length)
    exact ⟨first ++ rest, hfirst.append hrest⟩

end

/-! ## Operators and operands -/

/-- Filters that share a parameter all compare with it in the same way. -/
def OfOneKind (filters : List (String × FilterValue)) : Prop :=
  ∀ p ∈ filterParams filters, ∀ q ∈ filterParams filters,
    Text.sameAscii p.1 q.1 = true → p.2.comparison = q.2.comparison

instance (filters : List (String × FilterValue)) : Decidable (OfOneKind filters) :=
  decidable_of_iff
    (∀ p ∈ filterParams filters, ∀ q ∈ filterParams filters,
      p.1.toList.map Char.toLower = q.1.toList.map Char.toLower →
        p.2.comparison = q.2.comparison)
    (by simp only [OfOneKind, Text.sameAscii_iff_map])

section

variable {backend : Backend} {filters : List (String × FilterValue)}

/-- A clause agrees if the last filter under its name is of its own kind. -/
theorem BecomesClause.agrees (hkind : OfOneKind filters) {filter : String × FilterValue}
    (hfilter : filter ∈ filters) {clause : FilterClause}
    (h : BecomesClause backend filters filter clause) : clause.Agrees backend := by
  intro comparison htest
  cases h with
  | check column present => exact absurd htest (nullTest_ne_operator present comparison)
  | @comparison column value own last used hown hlast =>
    obtain ⟨q, hq, rfl, hsame⟩ := mem_of_lastParam? hlast
    have hp : (filterParam column, own) ∈ filterParams filters :=
      mem_filterParams_iff.2 ⟨_, hfilter, hown, rfl⟩
    have hown : q.2.comparison = own.comparison := hkind q hq _ hp hsame
    rw [← Comparison.operator_inj htest, ← hown]
    exact q.2.fits_operand (lastParam?_ne_empty hlast) backend used

/-- If all clauses agree, every filter is of the kind of the last one under its name. -/
theorem comparison_eq_of_agrees {nullCheck : Bool} {clauses : List FilterClause}
    (hclauses : List.Forall₂ (BecomesClause backend filters)
      (filters.filter (isWritten nullCheck)) clauses)
    (hagree : ∀ clause ∈ clauses, clause.Agrees backend) {p : String × ParamValue}
    (hp : p ∈ filterParams filters) {last : ParamValue}
    (hlast : lastParam? filters p.1 = some last) : p.2.comparison = last.comparison := by
  obtain ⟨⟨column, value⟩, hf, hown, hname⟩ := mem_filterParams_iff.1 hp
  have hwritten : isWritten nullCheck (column, value) = true := by
    rw [isWritten, filterLine_of_param? hown]
    rfl
  obtain ⟨clause, hclause, hbecomes⟩ :=
    exists_right_of_mem hclauses (List.mem_filter.2 ⟨hf, hwritten⟩)
  have hfits := hagree clause hclause
  cases hbecomes with
  | check column present => cases hown
  | @comparison _ _ own last' used hown' hlast' =>
    obtain rfl : own = p.2 := Option.some.inj (hown'.symm.trans hown)
    have hname : lastParam? filters (filterParam column) = some last := by rw [← hlast, ← hname]
    obtain rfl : last' = last := Option.some.inj (hlast'.symm.trans hname)
    have hlastFits := last'.fits_operand (lastParam?_ne_empty hlast') backend used
    exact (hfits _ rfl).unique hlastFits

end

/-- **Operators and operands agree if and only if filters that share a parameter are of one kind.**
With plain columns the text is bound, to one clause for each filter that adds a line.  A comparison
has the operator of its own filter, and behind it what the last text or list under the same name
binds.  So every `=` is followed by one placeholder and every `IN` by placeholders in parentheses
exactly if no text and list have columns that end alike, up to the case of ASCII letters. -/
theorem clauses_agree_iff_of_one_kind {filters : List (String × FilterValue)}
    (hcolumns : ∀ f ∈ filters, IsPlainColumn f.1) (nullCheck : Bool) (backend : Backend) :
    ∃ clauses : List FilterClause,
      filterStatement filters nullCheck backend =
        .ok ⟨String.join (clauses.map FilterClause.text),
          clauses.flatMap FilterClause.values, backend⟩ ∧
      List.Forall₂ (BecomesClause backend filters) (filters.filter (isWritten nullCheck))
        clauses ∧
      ((∀ clause ∈ clauses, clause.Agrees backend) ↔ OfOneKind filters) := by
  obtain ⟨htext, hparams⟩ := appendFilters_eq "" {} filters nullCheck
  set appended := appendFilters "" {} filters nullCheck with happended
  have hget : ∀ name, appended.2.get? name = lastParam? filters name := by
    intro name
    rw [hparams, Params.get?_addAll]
    exact Option.or_none
  have hrenders : Renders appended.2 appended.1.toList
      (filters.flatMap (boundFragments appended.2 nullCheck)) := by
    rw [htext]
    refine .flatMap fun f hf =>
      renders_boundFragments (hcolumns f hf) (fun own hown => ?_) nullCheck
    rw [hget]
    have hmem : (filterParam f.1, own) ∈ filterParams filters :=
      mem_filterParams_iff.2 ⟨f, hf, hown, rfl⟩
    exact exists_lastParam? hmem
  obtain ⟨clauses, hclauses, hjoin, hvalues⟩ :=
    exists_spelledAs backend hget (fun f hf => hf) nullCheck 0
  refine ⟨clauses, ?_, hclauses, fun hagree p hp q hq hsame => ?_, fun hkind clause hclause => ?_⟩
  · have hbind := hrenders.last.bind backend
    rwa [Statement.ofFragments, hjoin, hvalues] at hbind
  · obtain ⟨last, hlast⟩ := exists_lastParam? hp
    have hlast' := (lastParam?_congr hsame).symm.trans hlast
    rw [comparison_eq_of_agrees hclauses hagree hp hlast,
      comparison_eq_of_agrees hclauses hagree hq hlast']
  · obtain ⟨f, hf, hbecomes⟩ := exists_right_of_mem (List.Forall₂.flip hclauses) hclause
    exact hbecomes.agrees hkind (List.mem_of_mem_filter hf)

/-- Two texts under one name, a list under another one, and a check. -/
theorem clauses_agree_for_two_texts :
    (∀ column ∈ ["e.name", "d.id", "m.NAME", "active"], IsPlainColumn column) ∧
    ∃ clauses : List FilterClause,
      filterStatement [("e.name", .text "Ada"), ("d.id", .list [.int 1, .int 2]),
          ("m.NAME", .text "Bob"), ("active", .flag true)] true .postgres =
        .ok ⟨String.join (clauses.map FilterClause.text),
          clauses.flatMap FilterClause.values, .postgres⟩ ∧
      ∀ clause ∈ clauses, clause.Agrees .postgres := by
  refine ⟨by decide +kernel, ?_⟩
  refine (clauses_agree_iff_of_one_kind ?_ true .postgres).imp fun clauses h =>
    ⟨h.1, h.2.2.2 ?_⟩
  · decide +kernel
  · decide +kernel

/-- A list whose column ends like that of a text before it comes to stand behind the `=` of the
text. -/
theorem list_stands_behind_equality :
    let ab : List SqlValue := [.string "a", .string "b"]
    let first : FilterClause := ⟨"e.name", " = ", "(?, ?)", ab⟩
    let second : FilterClause := ⟨"m.name", " IN ", "(?, ?)", ab⟩
    filterStatement [("e.name", .text "Ada"), ("m.name", .list [.text "a", .text "b"])] false
        .sqlite =
      .ok ⟨first.text ++ second.text, first.values ++ second.values, .sqlite⟩ ∧
      IsPlainColumn first.column ∧ IsPlainColumn second.column ∧ ¬ first.Agrees .sqlite := by
  intro ab first second
  refine ⟨by decide +kernel, by decide, by decide, fun hagree => ?_⟩
  obtain ⟨k, hk⟩ := hagree .equality rfl
  simp [Backend.placeholder, first] at hk

end ListQuery
