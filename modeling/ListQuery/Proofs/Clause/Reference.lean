import Mathlib.Tactic.Set
import ListQuery.Proofs.Clause.Comparison
import ListQuery.Proofs.Scanning.Recasing

/-!
# The parameter that is written and the one that is read

The name of a parameter is written by cutting a column at its dots, and read by going on behind an
`@` as long as there are ASCII letters, digits and underscores.  For most columns that is the same
name.  For a column that ends in quotes, or in a word with other letters, it is not: then the value
waits under a name that nothing in the text mentions.

Whether the two names are the same does not depend on what stands in front of the last dot, as long
as it leads a reader back to plain code.

## What is here

* `Region.passes_enclosed` — text in quotes is copied and leads back to plain code.
* `isName_of_reference_mem` — whatever is read as a parameter is a name.
* `Identifier`, `ColumnReference` — columns made of words and quoted identifiers.
  `ColumnReference.isName_filterParam_iff` says when the parameter of a column is a name.
* `filterStatement_of_isName`, `filterStatement_of_not_isName` — what becomes of a filter in the two
  cases.
* `filter_is_bound_iff_ascii_word` — **a filter binds its values if its column ends in a word of
  ASCII letters, digits and underscores**, and otherwise it is refused under another name, or its
  line is left as it was written.
-/

set_option autoImplicit false
namespace ListQuery

/-! ## Quoted identifiers -/

/-- A text as it is written in quotes: every mark in it is written twice. -/
def Quote.doubled (quote : Quote) (body : List Char) : List Char :=
  body.flatMap fun c => if c = quote.mark then [c, c] else [c]

/-- A text in quotes. -/
def Quote.enclose (quote : Quote) (body : String) : String :=
  String.ofList (quote.mark :: quote.doubled body.toList ++ [quote.mark])

namespace Region

theorem step_mark (quote : Quote) :
    step (.code .none) quote.mark = ([.copied quote.mark false], .quoted quote) := by
  cases quote <;> rfl

/-- A doubled mark closes the quotes and opens them again. -/
theorem known_after_doubled (quote : Quote) (body : List Char) :
    after (.quoted quote) (quote.doubled body) = .quoted quote ∧
      ∀ name, .reference name ∉ known (.quoted quote) (quote.doubled body) := by
  induction body with
  | nil => exact ⟨rfl, fun name h => List.not_mem_nil h⟩
  | cons c body ih =>
    obtain ⟨hafter, hknown⟩ := ih
    rw [Quote.doubled, List.flatMap_cons, ← Quote.doubled]
    by_cases hc : c = quote.mark
    · -- The first mark closes the quotes, and the second one opens them again.
      subst hc
      rw [if_pos rfl, after_append, known_append]
      have hstep : step (.quoted quote) quote.mark = ([.copied quote.mark true], .code .none) := by
        rw [step, if_pos rfl]
      have hpair : after (.quoted quote) [quote.mark, quote.mark] = .quoted quote := by
        rw [after_cons, after_cons, hstep, step_mark, after_nil]
      rw [hpair]
      refine ⟨hafter, fun name h => ?_⟩
      rw [known, known, hstep, step_mark] at h
      simp [known, hknown] at h
    · have hstep : step (.quoted quote) c = ([.copied c true], .quoted quote) := by
        rw [step, if_neg hc]
      rw [if_neg hc, List.singleton_append, after_cons, known, hstep]
      exact ⟨hafter, fun name h => by simp [hknown] at h⟩

/-- **Text in quotes is copied**, whatever it is. -/
theorem passes_enclosed (quote : Quote) (body : String) : Passes (quote.enclose body).toList := by
  obtain ⟨hafter, hknown⟩ := known_after_doubled quote body.toList
  have hclose : step (.quoted quote) quote.mark = ([.copied quote.mark true], .code .none) := by
    rw [step, if_pos rfl]
  rw [Quote.enclose, String.toList_ofList, List.cons_append]
  constructor
  · rw [after_cons, step_mark, after_append, hafter, after_cons, hclose, after_nil]
  · intro name h
    rw [known, step_mark, known_append, hafter, known, hclose] at h
    simp [known, hknown] at h

end Region

/-! ## Names that are read -/

theorem Lexeme.isName_of_reference_mem {cs name : List Char} (h : .reference name ∈ scan cs) :
    IsName (String.ofList name) := by
  fun_induction scan cs with
  | case1 => cases h
  | case2 c cs ih =>
    obtain hfirst | h := List.mem_cons.1 h
    · rw [first.eq_def] at hfirst
      split at hfirst
      · cases hfirst
      · split at hfirst
        · cases hfirst
        · cases hfirst
        · cases hfirst
        · next rest =>
          split at hfirst
          · cases hfirst
          · next hne =>
            obtain rfl := Lexeme.reference.inj hfirst
            rw [IsName, String.toList_ofList]
            exact ⟨fun hnil => hne (List.isEmpty_iff.2 hnil),
              List.all_eq_true.1 List.all_takeWhile⟩
        · cases hfirst
    · exact ih h

/-- **Whatever is read as a parameter is a name.** -/
theorem isName_of_reference_mem {sql : String} {name : List Char}
    (h : .reference name ∈ atoms sql) : IsName (String.ofList name) := by
  have hunshielded : .reference name ∈ (atoms sql).map Atom.unshielded :=
    List.mem_map.2 ⟨_, h, rfl⟩
  rw [unshielded_atoms] at hunshielded
  obtain ⟨lexeme, hlexeme, hmem⟩ := List.mem_flatMap.1 hunshielded
  cases lexeme with
  | plain text => simp [Lexeme.atoms, Region.bare] at hmem
  | reference other =>
    obtain rfl : name = other := by simpa [Lexeme.atoms] using hmem
    exact Lexeme.isName_of_reference_mem hlexeme

/-! ## Columns -/

/-- A word: letters, digits, underscores, and whatever there is outside of ASCII. -/
def IsWord (s : String) : Prop :=
  s.toList ≠ [] ∧ ∀ c ∈ s.toList, isWordChar c

instance (s : String) : Decidable (IsWord s) :=
  decidable_of_iff (s.toList ≠ [] ∧ s.toList.all isWordChar) (and_congr_right' List.all_eq_true)

/-- An identifier of SQL. -/
inductive Identifier where
  | word (s : String) (isWord : IsWord s)
  /-- Any text in quotes of one kind.  It may have dots and marks in it. -/
  | quoted (quote : Quote) (body : String)

namespace Identifier

/-- The identifier as it is written. -/
def text : Identifier → String
  | word s _ => s
  | quoted quote body => quote.enclose body

/-- A word of ASCII letters, digits and underscores. -/
def IsAsciiWord : Identifier → Prop
  | word s _ => IsName s
  | quoted _ _ => False

instance (i : Identifier) : Decidable i.IsAsciiWord :=
  match i with
  | word s _ => inferInstanceAs (Decidable (IsName s))
  | quoted _ _ => inferInstanceAs (Decidable False)

theorem passes (i : Identifier) : Region.Passes i.text.toList := by
  cases i with
  | word s isWord =>
    exact Region.passes_quiet fun c hc => Region.isQuiet_of_isWordChar (isWord.2 c hc)
  | quoted quote body => exact Region.passes_enclosed quote body

end Identifier

/-- A column: an identifier, and those in front of it that say where it belongs. -/
structure ColumnReference where
  qualifiers : List Identifier
  name : Identifier

namespace ColumnReference

/-- The column as it is written, with a dot behind every qualifier. -/
def text (column : ColumnReference) : String :=
  String.join (column.qualifiers.map fun q => q.text ++ ".") ++ column.name.text

theorem passes_qualifiers (qualifiers : List Identifier) :
    Region.Passes (String.join (qualifiers.map fun q => q.text ++ ".")).toList := by
  induction qualifiers with
  | nil => exact Region.passes_quiet (s := "") (by decide)
  | cons q qualifiers ih =>
    rw [List.map_cons, String.join_cons, String.toList_append, String.toList_append]
    exact (q.passes.append (Region.passes_quiet (by decide))).append ih

theorem passes (column : ColumnReference) : Region.Passes column.text.toList := by
  rw [text, String.toList_append]
  exact (passes_qualifiers column.qualifiers).append column.name.passes

/-- What stands in front of the last identifier ends with a dot, or is nothing. -/
theorem text_eq_name_or (column : ColumnReference) :
    column.text = column.name.text ∨ ∃ front, column.text = front ++ "." ++ column.name.text := by
  obtain ⟨qualifiers, name⟩ := column
  obtain rfl | ⟨front, last, rfl⟩ := List.eq_nil_or_concat qualifiers
  · exact Or.inl (String.empty_append)
  · refine Or.inr ⟨String.join (front.map fun q => q.text ++ ".") ++ last.text, ?_⟩
    simp [text, String.join_append, String.append_assoc]

/-- The last character of a column is the last one of its parameter, unless it is a dot. -/
theorem getLast?_filterParam {column : String} {c : Char} (h : column.toList.getLast? = some c)
    (hc : c ≠ '.') : (filterParam column).toList.getLast? = some c := by
  obtain ⟨-, heq | ⟨front, heq⟩⟩ := filterParam_eq_iff.1 (Eq.refl (filterParam column))
  · rwa [← heq]
  · rw [heq, String.toList_append, String.toList_append, List.getLast?_append,
      List.getLast?_append] at h
    cases hlast : (filterParam column).toList.getLast? with
    | some d =>
      rw [hlast] at h
      exact h
    | none =>
      rw [hlast] at h
      exact absurd (Option.some.inj h).symm hc

/-- **When the parameter of a column is a name.** -/
theorem isName_filterParam_iff (column : ColumnReference) :
    IsName (filterParam column.text) ↔ column.name.IsAsciiWord := by
  have htext := column.text_eq_name_or
  cases hname : column.name with
  | word s isWord =>
    rw [hname] at htext
    have hdot : '.' ∉ s.toList := fun h => absurd (isWord.2 '.' h) (by decide)
    have hparam : filterParam column.text = s := filterParam_eq_iff.2 ⟨hdot, htext⟩
    rw [hparam, Identifier.IsAsciiWord]
  | quoted quote body =>
    refine ⟨fun h => ?_, False.elim⟩
    have hlast : column.text.toList.getLast? = some quote.mark := by
      rw [text, hname, String.toList_append, Identifier.text, Quote.enclose, String.toList_ofList,
        List.getLast?_append, List.getLast?_append, List.getLast?_singleton]
      rfl
    have hmark := getLast?_filterParam hlast (by cases quote <;> decide)
    have hchar := h.2 quote.mark (List.mem_of_getLast? hmark)
    cases quote <;> exact absurd hchar (by decide)

end ColumnReference

/-! ## What becomes of one filter -/

section

variable {column : String} {value : FilterValue} {param : ParamValue}

theorem appendFilters_singleton (hvalue : value.param? = some param) (nullCheck : Bool) :
    appendFilters "" {} [(column, value)] nullCheck =
      ("  AND " ++ column ++ param.comparison.operator ++ "@" ++ filterParam column ++ "\n",
        Params.add {} (filterParam column) param) := by
  rw [appendFilters, List.foldl_cons, List.foldl_nil, appendFilter, filterLine_of_param? hvalue]
  show ("" ++ _, _) = _
  rw [String.empty_append]

/-- If the parameter of a column is a name, it is read as it was written. -/
theorem filterStatement_of_isName (hcolumn : Region.Passes column.toList)
    (hname : IsName (filterParam column)) (hvalue : value.param? = some param) (nullCheck : Bool)
    (backend : Backend) :
    filterStatement [(column, value)] nullCheck backend =
      .ok ⟨"  AND " ++ column ++ param.comparison.operator ++ param.operand backend 0 ++ "\n",
        param.values, backend⟩ := by
  set params := Params.add {} (filterParam column) param with hparams
  have hlead : Region.Passes ("  AND " ++ column ++ param.comparison.operator).toList := by
    rw [String.toList_append, String.toList_append]
    exact ((Region.passes_quiet (by decide)).append hcolumn).append
      (Region.passes_quiet param.comparison.quietText_operator)
  have hget : params.get? (filterParam column) = some param :=
    Params.get?_add_self {} (filterParam column) param
  have hbind := ((renders_passes hlead).reference_line hname hget).last.bind backend
  rw [filterStatement, appendFilters_singleton hvalue]
  refine hbind.trans (congrArg Except.ok ?_)
  simp [Statement.ofFragments, Fragment.texts, Fragment.texts_append, Fragment.values,
    values_expand, ParamValue.operand_eq_join, String.append_assoc]

/-- If the parameter of a column is not a name, it is not read.  What is read in its place, if
anything, is called otherwise and has no value. -/
theorem filterStatement_of_not_isName (hname : ¬ IsName (filterParam column))
    (hvalue : value.param? = some param) (nullCheck : Bool) (backend : Backend) :
    (∃ name, Text.sameAscii (filterParam column) name = false ∧
        filterStatement [(column, value)] nullCheck backend = .error (.unbound name)) ∨
      filterStatement [(column, value)] nullCheck backend =
        .ok ⟨"  AND " ++ column ++ param.comparison.operator ++ "@" ++ filterParam column ++ "\n",
          [], backend⟩ := by
  rw [filterStatement, appendFilters_singleton hvalue]
  set params := Params.add {} (filterParam column) param with hparams
  set line := "  AND " ++ column ++ param.comparison.operator ++ "@" ++ filterParam column ++ "\n"
  have hother : ∀ name, .reference name ∈ atoms line →
      Text.sameAscii (filterParam column) (String.ofList name) = false := by
    intro name h
    by_contra hsame
    exact hname ((isName_of_reference_mem h).of_sameAscii (Bool.of_not_eq_false hsame))
  obtain ⟨text, values, hwritten⟩ | ⟨name, hunbound⟩ :=
    written_or_firstUnbound params backend 0 (atoms line)
  · have hnone : ∀ name, .reference name ∉ atoms line := by
      intro name h
      have hget : params.get? (String.ofList name) = none :=
        Params.get?_add_of_other (hother name h) {} param
      exact hwritten.get?_ne_none h hget
    refine Or.inr ?_
    show params.bind line backend = _
    rw [bind_eq_writeAll, Draft.writeAll_copied hnone, spell_atoms]
    exact congrArg (fun sql => Except.ok (Statement.mk sql [] backend)) String.ofList_toList
  · have hmem : .reference name.toList ∈ atoms line := hunbound.reference_mem
    refine Or.inl ⟨name, ?_, bind_of_firstUnbound hunbound⟩
    rw [← hother name.toList hmem, String.ofList_toList]

end

/-- **A filter binds its values if and only if its column ends in an ASCII word.**  Let a text or a
list be asked of a column.  If the last identifier is a word of ASCII letters, digits and
underscores, the operator is followed by what it needs, one placeholder or placeholders in
parentheses, for exactly the values that were given, and no `@` is left there.  With any other last
identifier nothing is bound: the line is refused for a parameter that nobody registered, or it is
left as it was written, without its values and without a report. -/
theorem filter_is_bound_iff_ascii_word (column : ColumnReference) {value : FilterValue}
    {param : ParamValue} (hvalue : value.param? = some param) (nullCheck : Bool)
    (backend : Backend) :
    let bound := filterStatement [(column.text, value)] nullCheck backend
    let lead := "  AND " ++ column.text ++ param.comparison.operator
    let operand := param.operand backend 0
    (bound = .ok ⟨lead ++ operand ++ "\n", param.values, backend⟩ ↔
        column.name.IsAsciiWord) ∧
      param.comparison.Fits backend operand ∧ '@' ∉ operand.toList ∧
      (¬ column.name.IsAsciiWord →
        (∃ name, Text.sameAscii (filterParam column.text) name = false ∧
          bound = .error (.unbound name)) ∨
        bound = .ok ⟨lead ++ "@" ++ filterParam column.text ++ "\n", [], backend⟩) := by
  intro bound lead operand
  have hnonempty := FilterValue.param?_ne_empty hvalue
  have hlost : ¬ column.name.IsAsciiWord →
      (∃ name, Text.sameAscii (filterParam column.text) name = false ∧
        bound = .error (.unbound name)) ∨
      bound = .ok ⟨lead ++ "@" ++ filterParam column.text ++ "\n", [], backend⟩ := by
    intro hother
    have hname : ¬ IsName (filterParam column.text) :=
      fun h => hother (column.isName_filterParam_iff.1 h)
    exact filterStatement_of_not_isName hname hvalue nullCheck backend
  refine ⟨⟨fun hbound => ?_, fun hword => ?_⟩, param.fits_operand hnonempty backend 0,
    param.at_not_mem_operand backend 0, hlost⟩
  · by_contra hother
    obtain ⟨name, -, herror⟩ | hcopied := hlost hother
    · rw [hbound] at herror
      cases herror
    · rw [hbound, Except.ok.injEq, Statement.mk.injEq] at hcopied
      exact param.values_ne_nil hnonempty hcopied.2.1
  · have hname := column.isName_filterParam_iff.2 hword
    exact filterStatement_of_isName column.passes hname hvalue nullCheck backend

/-- A qualifier in quotes, with a dot, a mark and an `@` in it, does no harm. -/
theorem filter_is_bound_behind_quoted_qualifier :
    let column : ColumnReference := ⟨[.quoted .double "a.\"@b"], .word "user_id" (by decide)⟩
    let value : FilterValue := .list [.int 7, .int 8]
    column.text = "\"a.\"\"@b\".user_id" ∧
      value.param? = some (.list [.bigInt 7, .bigInt 8]) ∧
      filterStatement [(column.text, value)] false .postgres =
        .ok ⟨"  AND \"a.\"\"@b\".user_id IN ($1, $2)\n", [.bigInt 7, .bigInt 8], .postgres⟩ := by
  intro column value
  have htext : column.text = "\"a.\"\"@b\".user_id" := by decide +kernel
  have hvalue : value.param? = some (.list [.bigInt 7, .bigInt 8]) := rfl
  have hbound := (filter_is_bound_iff_ascii_word column hvalue false .postgres).1.2 (by decide)
  refine ⟨htext, hvalue, hbound.trans ?_⟩
  rw [htext]
  decide +kernel

/-- The values are lost behind quotes and refused under another name behind a word that is not
ASCII. -/
theorem filter_is_not_bound_behind_quotes :
    let inQuotes : ColumnReference :=
      ⟨[.word "t" (by decide)], .quoted .double "createdAt"⟩
    let inWord : ColumnReference :=
      ⟨[.word "e" (by decide)], .word "straße" (by decide)⟩
    filterStatement [(inQuotes.text, .text "x")] false .sqlite =
        .ok ⟨"  AND t.\"createdAt\" = @\"createdAt\"\n", [], .sqlite⟩ ∧
      filterStatement [(inWord.text, .text "x")] false .sqlite = .error (.unbound "stra") := by
  decide +kernel

end ListQuery
