import ListQuery.Proofs.Independence
import ListQuery.Proofs.Query.FilterOutcome
import ListQuery.Proofs.Query.Runs

/-!
# The SQL of a query does not depend on the values of its filters

Two clients put filters on the same query, for the same fields and with values of their own.  If
both filters are accepted, the SQL is the same.  The statements differ in values only, and each of
these was made of something that the two clients did not ask alike.

## What is here

* `FilterValue.asked` — what a value asks for, in the order of the placeholders.
* `FilterValue.Alike.tests` — **one value**: conditions of the same shape on the same column, with
  values that are made of what is asked at their place.
* `Condition.Alike`, `conditionFragments_alike` — conditions that differ in values at most are
  written with the same text.
* `FiltersAlike.appliedTerms` — the same terms count on both sides.
* `valuesBefore` — where the values of a term begin in a statement.
* `filter_values_stay_out_of_sql` — **two filters with values alike make one SQL text**.
-/

set_option autoImplicit false
namespace ListQuery

/-! ## Conditions that are alike -/

/-- Conditions on one column that differ in values at most. -/
inductive Condition.Alike : Condition → Condition → Prop
  | equals (column : ColumnRef) (v w : SqlValue) : Alike (.equals column v) (.equals column w)
  | oneOf (column : ColumnRef) {vs ws : List SqlValue} (hlength : vs.length = ws.length) :
      Alike (.oneOf column vs) (.oneOf column ws)
  | present (column : ColumnRef) : Alike (.present column) (.present column)
  | absent (column : ColumnRef) : Alike (.absent column) (.absent column)

namespace Condition.Alike

variable {condition other : Condition}

theorem refl : (condition : Condition) → condition.Alike condition
  | .equals column v => .equals column v v
  | .oneOf column _ => .oneOf column rfl
  | .present column => .present column
  | .absent column => .absent column

theorem fragments (h : condition.Alike other) (b : Backend) :
    FragmentsAlike (condition.fragments b) (other.fragments b) := by
  cases h with
  | equals column v w => exact .cons (.text _) (.cons (.value v w) .nil)
  | oneOf column hlength => exact .cons (.text _) (parenthesised_alike hlength)
  | present column => exact .cons (.text _) .nil
  | absent column => exact .cons (.text _) .nil

theorem length_values (h : condition.Alike other) :
    condition.values.length = other.values.length := by
  cases h with
  | oneOf column hlength => exact hlength
  | equals | present | absent => rfl

end Condition.Alike

/-- The lead of a condition tells only whether it is the first one. -/
theorem conditionFragments_alike {conditions others : List Condition}
    (h : List.Forall₂ Condition.Alike conditions others) (b : Backend) (lead : String) :
    FragmentsAlike (conditionFragments b lead conditions) (conditionFragments b lead others) := by
  induction h generalizing lead with
  | nil => exact .nil
  | cons hcondition _ ih =>
    exact FragmentsAlike.append (.cons (.text lead) (hcondition.fragments b)) (ih " AND ")

/-- Filtering a query by conditions that are alike gives one text, with as many values. -/
theorem Query.filter_alike (q : Query) {conditions others : List Condition}
    (h : List.Forall₂ Condition.Alike conditions others) (b : Backend) :
    FragmentsAlike ((q.filter conditions).fragments b) ((q.filter others).fragments b) := by
  have hown : List.Forall₂ Condition.Alike q.conditions q.conditions :=
    List.forall₂_same.2 fun condition _ => .refl condition
  have hall : FragmentsAlike (conditionFragments b " WHERE " (q.conditions ++ conditions))
      (conditionFragments b " WHERE " (q.conditions ++ others)) :=
    conditionFragments_alike (List.rel_append hown h) b " WHERE "
  have hstart := FragmentsAlike.append (.cons (.text (q.source.sql b)) hall)
    (.refl (orderFragments b q.ordering))
  exact hstart.append (.refl (windowFragments q.window))

/-! ## What is asked and what it becomes -/

/-- What a value asks for, one by one and in the order of the placeholders. -/
def FilterValue.asked : FilterValue → List Scalar
  | .text s => [.text s]
  | .list items => items
  | .null | .flag _ => []

section

variable {name : String} {field : Field} {value other : FilterValue}
  {condition otherCondition : Condition}

theorem Tests.length_values (h : Tests name field value condition) :
    condition.values.length = value.asked.length := by
  cases h with
  | list hne hvs => exact hvs.length_eq.symm
  | text | present | absent => rfl

/-- **Values that are alike put conditions on a field which are alike.**  What is compared at some
place is the same on both sides if the same is asked there. -/
theorem FilterValue.Alike.tests (halike : value.Alike other) (hactive : value.isActive = true)
    (h : Tests name field value condition) (hother : Tests name field other otherCondition) :
    condition.Alike otherCondition ∧
      ∀ j : Nat, value.asked[j]? = other.asked[j]? →
        condition.values[j]? = otherCondition.values[j]? := by
  cases halike with
  | inactive hinactive _ =>
    rw [hactive] at hinactive
    cases hinactive
  | text hs ht =>
    obtain ⟨hv⟩ := h
    obtain ⟨hw⟩ := hother
    refine ⟨.equals _ _ _, fun j hj => ?_⟩
    cases j with
    | zero =>
      cases hj
      rw [hv, Except.ok.injEq] at hw
      rw [hw]
    | succ j => rfl
  | list hlength hne =>
    obtain _ | ⟨-, hvs⟩ := h
    obtain _ | ⟨-, hws⟩ := hother
    refine ⟨.oneOf _ ?_, fun j hj => ?_⟩
    · rw [← hvs.length_eq, ← hws.length_eq, hlength]
    · exact getElem?_eq_of_results hvs hws hj
  | flag present =>
    cases h <;> cases hother
    · exact ⟨.present _, fun _ _ => rfl⟩
    · exact ⟨.absent _, fun _ _ => rfl⟩

end

/-! ## Terms and filters -/

theorem FilterValue.Alike.isActive_eq {value other : FilterValue} (h : value.Alike other) :
    value.isActive = other.isActive := by
  cases h with
  | inactive hv hw => rw [hv, hw]
  | text hs ht => rw [hs, ht]
  | list hlength hne => rw [isActive_list hne, isActive_list (hlength ▸ hne)]
  | flag present => rfl

/-- The same terms count on both sides. -/
theorem FiltersAlike.appliedTerms {α β : Type} [FilterObject α] [FilterObject β] {filter : α}
    {other : β} (h : FiltersAlike (FilterObject.terms filter) (FilterObject.terms other))
    (excluded : List String) :
    FiltersAlike (ListQuery.appliedTerms excluded filter)
      (ListQuery.appliedTerms excluded other) := by
  refine List.rel_filter ?_ h
  rintro term otherTerm ⟨hname, hvalue⟩
  simp only [decide_eq_true_iff, hname, hvalue.isActive_eq]

section

variable {map : FieldMap} {term otherTerm : String × FilterValue}
  {condition otherCondition : Condition}

theorem Answers.length_values (h : Answers map term condition) :
    condition.values.length = term.2.asked.length := by
  obtain ⟨field, -, htests, -⟩ := h
  exact htests.length_values

/-- Terms under one name that are alike find the same field, so their conditions are alike. -/
theorem Answers.alike (h : Answers map term condition)
    (hother : Answers map otherTerm otherCondition) (hname : term.1 = otherTerm.1)
    (halike : term.2.Alike otherTerm.2) (hactive : term.2.isActive = true) :
    condition.Alike otherCondition ∧
      ∀ j : Nat, term.2.asked[j]? = otherTerm.2.asked[j]? →
        condition.values[j]? = otherCondition.values[j]? := by
  obtain ⟨field, hfield, htests, -⟩ := h
  obtain ⟨otherField, hotherField, hotherTests, -⟩ := hother
  rw [← hname] at hotherField hotherTests
  rw [hfield, Option.some.injEq] at hotherField
  subst hotherField
  exact halike.tests hactive htests hotherTests

end

/-- How many values stand before those of the term at place `k`. -/
def valuesBefore (terms : List (String × FilterValue)) (k : Nat) : Nat :=
  ((terms.take k).flatMap fun term => term.2.asked).length

/-- Two rows of terms do not ask alike for the value at place `i`: it is made of the `j`-th of the
things that the `k`-th term asks for, and the `k`-th of the other terms asks for something else
there. -/
def AskedApart (terms others : List (String × FilterValue)) (i : Nat) : Prop :=
  ∃ k j term other, terms[k]? = some term ∧ others[k]? = some other ∧
    i = valuesBefore terms k + j ∧ term.2.asked[j]? ≠ other.2.asked[j]?

theorem AskedApart.cons {terms others : List (String × FilterValue)} {i : Nat}
    (h : AskedApart terms others i) (term other : String × FilterValue) :
    AskedApart (term :: terms) (other :: others) (term.2.asked.length + i) := by
  obtain ⟨k, j, t, o, ht, ho, rfl, hne⟩ := h
  refine ⟨k + 1, j, t, o, ht, ho, ?_, hne⟩
  simp only [valuesBefore, List.take_succ_cons, List.flatMap_cons, List.length_append]
  omega

theorem getElem?_append_ne {γ : Type} {xs ys xs' ys' : List γ} (hlength : xs.length = ys.length)
    {i : Nat} (h : (xs ++ xs')[i]? ≠ (ys ++ ys')[i]?) :
    xs[i]? ≠ ys[i]? ∨ ∃ j, i = xs.length + j ∧ xs'[j]? ≠ ys'[j]? := by
  rw [List.getElem?_append, List.getElem?_append, ← hlength] at h
  by_cases hi : i < xs.length
  · rw [if_pos hi, if_pos hi] at h
    exact Or.inl h
  · rw [if_neg hi, if_neg hi] at h
    exact Or.inr ⟨i - xs.length, by omega, h⟩

/-- **Terms that are alike have conditions that are alike**, and the values of these differ only
where the terms do not ask alike. -/
theorem conditions_alike {map : FieldMap} {terms others : List (String × FilterValue)}
    (halike : FiltersAlike terms others) (hactive : ∀ term ∈ terms, term.2.isActive = true)
    {conditions otherConditions : List Condition}
    (h : List.Forall₂ (Answers map) terms conditions)
    (hother : List.Forall₂ (Answers map) others otherConditions) :
    List.Forall₂ Condition.Alike conditions otherConditions ∧
      ∀ i, (conditions.flatMap Condition.values)[i]? ≠
          (otherConditions.flatMap Condition.values)[i]? → AskedApart terms others i := by
  induction halike generalizing conditions otherConditions with
  | nil =>
    cases h
    cases hother
    exact ⟨.nil, fun i hi => absurd rfl hi⟩
  | @cons term other terms others hterm _ ih =>
    obtain ⟨condition, conditions, hcondition, hrest, rfl⟩ := List.forall₂_cons_left_iff.1 h
    obtain ⟨otherCondition, otherConditions, hotherCondition, hotherRest, rfl⟩ :=
      List.forall₂_cons_left_iff.1 hother
    obtain ⟨hconditions, hvalues⟩ :=
      ih (fun t ht => hactive t (List.mem_cons_of_mem _ ht)) hrest hotherRest
    obtain ⟨hfirst, hfirstValues⟩ := hcondition.alike hotherCondition hterm.1 hterm.2
      (hactive term List.mem_cons_self)
    refine ⟨.cons hfirst hconditions, fun i hi => ?_⟩
    rw [List.flatMap_cons, List.flatMap_cons] at hi
    obtain hi | ⟨j, rfl, hj⟩ := getElem?_append_ne hfirst.length_values hi
    · exact ⟨0, i, term, other, rfl, rfl, (Nat.zero_add i).symm, mt (hfirstValues i) hi⟩
    · rw [hcondition.length_values]
      exact (hvalues j hj).cons term other

/-! ## Queries -/

/-- **Values stay out of the SQL of a query.**  Let two clients put filters on one query, under the
same names and with values that are alike.  If both filters are accepted, the two statements have
the same SQL and as many values.  A value that is not the same in both belongs to the filters, and
is made of something that their terms do not ask alike. -/
theorem filter_values_stay_out_of_sql {α β : Type} [FilterObject α] [FilterObject β] {filter : α}
    {other : β} {q filtered otherFiltered : Query} {map : FieldMap} {excluded : List String}
    (halike : FiltersAlike (FilterObject.terms filter) (FilterObject.terms other))
    (h : q.applyFilters (some filter) map excluded = .ok filtered)
    (hother : q.applyFilters (some other) map excluded = .ok otherFiltered) (b : Backend) :
    (filtered.statement b).sql = (otherFiltered.statement b).sql ∧
      (filtered.statement b).values.length = (otherFiltered.statement b).values.length ∧
      ∀ i, (filtered.statement b).values[i]? ≠ (otherFiltered.statement b).values[i]? →
        ∃ j, i = (q.conditions.flatMap Condition.values).length + j ∧
          AskedApart (appliedTerms excluded filter) (appliedTerms excluded other) j := by
  obtain ⟨conditions, hconditions, rfl⟩ := Query.applyFilters_eq_ok_iff.1 h
  obtain ⟨otherConditions, hotherConditions, rfl⟩ := Query.applyFilters_eq_ok_iff.1 hother
  obtain ⟨hall, hapart⟩ := conditions_alike (halike.appliedTerms excluded)
    (fun term => isActive_of_mem_appliedTerms) hconditions hotherConditions
  have hfragments := q.filter_alike hall b
  have hlength : ((q.filter conditions).statement b).values.length =
      ((q.filter otherConditions).statement b).values.length := hfragments.length_values
  refine ⟨congrArg String.join (hfragments.texts_eq b 0), hlength, fun i hi => ?_⟩
  -- Only what stands between the values of the query itself and those of its window can differ.
  have hvalues : ∀ found : List Condition, ((q.filter found).statement b).values =
      q.conditions.flatMap Condition.values ++
        (found.flatMap Condition.values ++ (q.window.map Window.values).getD []) := by
    intro found
    rw [Query.values_statement, ← List.append_assoc, ← List.flatMap_append]
    rfl
  rw [hvalues, hvalues] at hi
  obtain hi | ⟨j, rfl, hj⟩ := getElem?_append_ne rfl hi
  · exact absurd rfl hi
  refine ⟨j, rfl, hapart j ?_⟩
  have hmiddle : (conditions.flatMap Condition.values).length =
      (otherConditions.flatMap Condition.values).length := by
    rw [hvalues, hvalues] at hlength
    simp only [List.length_append] at hlength
    omega
  obtain hj | ⟨_, -, hwindow⟩ := getElem?_append_ne hmiddle hj
  · exact hj
  · exact absurd rfl hwindow

theorem filter_values_stay_out_of_sql_hostile_texts :
    let map := (((FieldMap.ofEntity ⟨"employee", []⟩).insert
      "name" ⟨"name", "full_name"⟩ .string).insert "rank" ⟨"rank", "rank"⟩ .integer).insert
      "left" ⟨"left", "left_on"⟩ .date
    let filter : List (String × FilterValue) := [("name", .text " Ann"), ("salary", .text "1"),
      ("Rank", .list [.int 1, .text " 2 "]), ("left", .flag false), ("id", .null)]
    let other : List (String × FilterValue) := [("name", .text "' OR $1 --"), ("salary", .text "?"),
      ("Rank", .list [.int 1, .int 3]), ("left", .flag false), ("id", .text " \t")]
    let q := ((Query.all (.select ⟨"employee", []⟩)).filter
      [.equals ⟨"employee", "company"⟩ (.bigInt 7)]).take ⟨10, 20⟩
    ∃ filtered otherFiltered : Query, FiltersAlike filter other ∧
      q.applyFilters (some filter) map ["SALARY"] = .ok filtered ∧
      q.applyFilters (some other) map ["SALARY"] = .ok otherFiltered ∧
      (filtered.statement .postgres).sql = (otherFiltered.statement .postgres).sql ∧
      ∀ i, (filtered.statement .postgres).values[i]? ≠
          (otherFiltered.statement .postgres).values[i]? → ∃ j, i = 1 + j ∧
        AskedApart (appliedTerms ["SALARY"] filter) (appliedTerms ["SALARY"] other) j := by
  intro map filter other q
  have halike : FiltersAlike filter other :=
    .cons ⟨rfl, .text (by decide) (by decide)⟩ <| .cons ⟨rfl, .text (by decide) (by decide)⟩ <|
      .cons ⟨rfl, .list rfl (by decide)⟩ <| .cons ⟨rfl, .flag false⟩ <|
      .cons ⟨rfl, .inactive rfl (by decide)⟩ .nil
  have hsalary : Text.sameAscii "SALARY" "salary" = true := by
    rw [Text.sameAscii_iff, ← String.toList_inj, Text.lowerAscii, Text.lowerAscii,
      String.toList_map, String.toList_map]
    decide
  have hothers : ∀ name ∈ ["name", "Rank", "left"], Text.sameAscii "SALARY" name = false := by
    decide +kernel
  have htexts : ∀ s ∈ [" Ann", "' OR $1 --"], Text.isBlankText s = false := by decide
  have hblank : Text.isBlankText " \t" = true := by decide
  simp only [List.forall_mem_cons] at hothers htexts
  have hterms : appliedTerms ["SALARY"] filter =
      [("name", .text " Ann"), ("Rank", .list [.int 1, .text " 2 "]), ("left", .flag false)] := by
    simp [appliedTerms_eq, filter, FilterObject.terms, isApplied, FilterValue.isActive, hsalary,
      hothers, htexts]
  have hotherTerms : appliedTerms ["SALARY"] other =
      [("name", .text "' OR $1 --"), ("Rank", .list [.int 1, .int 3]), ("left", .flag false)] := by
    simp [appliedTerms_eq, other, FilterObject.terms, isApplied, FilterValue.isActive, hsalary,
      hothers, htexts, hblank]
  have hname : map.find? (Text.pieces '.' "name") = some ⟨⟨"employee", "full_name"⟩, .string⟩ := by
    decide
  have hrank : map.find? (Text.pieces '.' "Rank") = some ⟨⟨"employee", "rank"⟩, .integer⟩ := by
    decide
  have hleft : map.find? (Text.pieces '.' "left") = some ⟨⟨"employee", "left_on"⟩, .date⟩ := by
    decide
  have h : q.applyFilters (some filter) map ["SALARY"] = .ok (q.filter
      [.equals ⟨"employee", "full_name"⟩ (.string " Ann"),
        .oneOf ⟨"employee", "rank"⟩ [.bigInt 1, .bigInt 2], .absent ⟨"employee", "left_on"⟩]) := by
    refine Query.applyFilters_eq_ok_iff.2 ⟨_, ?_, rfl⟩
    rw [hterms]
    refine .cons (Tests.answers (.text rfl) hname) <|
      .cons (Tests.answers (.list (List.cons_ne_nil _ _) ?_) hrank) <|
      .cons (Tests.answers .absent hleft) .nil
    exact .cons rfl (.cons (by decide +kernel) .nil)
  have hother : q.applyFilters (some other) map ["SALARY"] = .ok (q.filter
      [.equals ⟨"employee", "full_name"⟩ (.string "' OR $1 --"),
        .oneOf ⟨"employee", "rank"⟩ [.bigInt 1, .bigInt 3], .absent ⟨"employee", "left_on"⟩]) := by
    refine Query.applyFilters_eq_ok_iff.2 ⟨_, ?_, rfl⟩
    rw [hotherTerms]
    refine .cons (Tests.answers (.text rfl) hname) <|
      .cons (Tests.answers (.list (List.cons_ne_nil _ _) ?_) hrank) <|
      .cons (Tests.answers .absent hleft) .nil
    exact .cons rfl (.cons rfl .nil)
  obtain ⟨hsql, -, hvalues⟩ := filter_values_stay_out_of_sql halike h hother .postgres
  exact ⟨_, _, halike, h, hother, hsql, hvalues⟩

end ListQuery
