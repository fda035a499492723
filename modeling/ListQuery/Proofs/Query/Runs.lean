import ListQuery.Query.Render
import ListQuery.Query.Shaping

/-!
# Queries that are shaped in many steps

A query is shaped in any number of steps and in any order.  Every kind of step treats what it finds
in its own way: conditions are added, an order is replaced or extended, a window is replaced, and a
step that fails leaves everything as it is.

## What is here

* `Step`, `Query.next`, `Query.run` — the steps, and what a sequence of them makes of a query.
* `Step.conditions`, `Step.order?`, `Step.tiebreak?`, `Step.window?` — what a step contributes,
  whatever the query.
* `Query.next_eq` — **one step**: what it contributes is all it does.
* `Ordered` — the order after a run: that of the last step which replaces it, with the columns that
  later steps have added.
* `Query.run_eq` — **a whole run**, by induction on its steps, down to the values of its statement.
-/

set_option autoImplicit false
namespace ListQuery

/-- A step in the shaping of a query. -/
inductive Step : Type 1 where
  | orderByPath (sort : String) (map : FieldMap)
  | applySorting (page : Option Page) (map : FieldMap) (order : Option DefaultOrder)
  | applyPaging (page : Option Page) (order : Option DefaultOrder)
  | defaultOrder (order : DefaultOrder)
  | orderBy (key : OrderKey)
  | applyFilters {α : Type} [FilterObject α] (filter : Option α) (map : FieldMap)
      (excluded : List String)

/-- Applies a step, which may fail. -/
def Step.apply (q : Query) : Step → Except QueryError Query
  | .orderByPath sort map => q.orderByPath sort map
  | .applySorting page map order => q.applySorting page map order
  | .applyPaging page order => .ok (q.applyPaging page order)
  | .defaultOrder order => .ok (order.apply q)
  | .orderBy key => .ok (q.orderBy key)
  | @applyFilters _ _ filter map excluded => q.applyFilters filter map excluded

/-- A query after a step.  A step that fails leaves it as it is. -/
def Query.next (q : Query) (s : Step) : Query :=
  (s.apply q).toOption.getD q

/-- A query after several steps. -/
def Query.run (q : Query) (steps : List Step) : Query :=
  steps.foldl Query.next q

/-! ## What a step contributes -/

/-- The ordering that a sort text asks for, if all of it can be resolved. -/
def sortKeys? (sort : String) (map : FieldMap) : Option (List OrderKey) :=
  ((SortSpec.parse sort).bind fun spec => spec.terms.mapM (orderKey map)).toOption

namespace Step

/-- The conditions that a step adds. -/
def conditions : Step → List Condition
  | @applyFilters _ _ (some filter) map excluded =>
    match filterCondition filter map excluded with
    | .ok (some conditions) => conditions
    | _ => []
  | _ => []

/-- The ordering that a step puts in place of any other. -/
def order? : Step → Option (List OrderKey)
  | .orderByPath sort map => sortKeys? sort map
  | .applySorting page map order =>
    match page.bind Page.sort with
    | none => order.map DefaultOrder.keys
    | some sort => if sort = "" then order.map DefaultOrder.keys else sortKeys? sort map
  | .applyPaging none order => order.map DefaultOrder.keys
  | .defaultOrder order => some order.keys
  | .applyPaging (some _) _ | .orderBy _ | @applyFilters _ _ _ _ _ => none

/-- The column that a step adds to the ordering. -/
def tiebreak? : Step → Option OrderKey
  | .orderBy key => some key
  | _ => none

/-- The window that a step takes. -/
def window? : Step → Option Window
  | .applyPaging (some page) _ => some ⟨page.limit, page.offset⟩
  | _ => none

/-- A step that replaces the ordering adds nothing to it. -/
theorem tiebreak?_of_order? {s : Step} {keys : List OrderKey} (h : s.order? = some keys) :
    s.tiebreak? = none := by
  cases s with
  | orderBy key => cases h
  | _ => rfl

end Step

namespace Query

/-! ## One step -/

/-- A query with another ordering, if there is one to put in place. -/
def reordered (q : Query) (order : Option (List OrderKey)) : Query :=
  { q with ordering := order.getD q.ordering }

theorem applyDefault_eq (q : Query) (order : Option DefaultOrder) :
    q.applyDefault order = q.reordered (order.map DefaultOrder.keys) := by
  cases order with
  | none => rfl
  | some order => exact q.replaceOrder_eq order.keys

/-- Ordering by a sort text replaces the whole ordering or fails. -/
theorem getD_orderByPath (q : Query) (sort : String) (map : FieldMap) :
    (q.orderByPath sort map).toOption.getD q = q.reordered (sortKeys? sort map) := by
  unfold orderByPath sortKeys?
  cases SortSpec.parse sort with
  | error e => rfl
  | ok spec =>
    show ((spec.terms.mapM (orderKey map)).bind fun keys => .ok (q.replaceOrder keys)).toOption.getD
      q = q.reordered (spec.terms.mapM (orderKey map)).toOption
    cases spec.terms.mapM (orderKey map) with
    | error e => rfl
    | ok keys => exact q.replaceOrder_eq keys

theorem getD_applySorting (q : Query) (page : Option Page) (map : FieldMap)
    (order : Option DefaultOrder) :
    (q.applySorting page map order).toOption.getD q =
      q.reordered (Step.applySorting page map order).order? := by
  rw [applySorting, Step.order?]
  cases page.bind Page.sort with
  | none => exact q.applyDefault_eq order
  | some sort =>
    by_cases h : sort = ""
    · simp only [h, if_true]
      exact q.applyDefault_eq order
    · simp only [h, if_false]
      exact q.getD_orderByPath sort map

theorem getD_applyFilters {α : Type} [FilterObject α] (q : Query) (filter : Option α)
    (map : FieldMap) (excluded : List String) :
    (q.applyFilters filter map excluded).toOption.getD q =
      q.filter (Step.applyFilters filter map excluded).conditions := by
  have hnone : q.filter [] = q := by rw [Query.filter, List.append_nil]
  cases filter with
  | none => exact hnone.symm
  | some filter =>
    rw [applyFilters, Step.conditions]
    cases filterCondition filter map excluded with
    | error e => exact hnone.symm
    | ok conditions =>
      cases conditions with
      | none => exact hnone.symm
      | some conditions => rfl

/-- **What a step contributes is all it does**, whether it succeeds or fails. -/
theorem next_eq (q : Query) (s : Step) :
    q.next s =
      { source := q.source
        conditions := q.conditions ++ s.conditions
        ordering := s.order?.getD q.ordering ++ s.tiebreak?.toList
        window := s.window?.or q.window } := by
  have hreordered : ∀ order : Option (List OrderKey), q.reordered order =
      ⟨q.source, q.conditions ++ [], order.getD q.ordering ++ [], q.window⟩ := by
    intro order
    rw [List.append_nil, List.append_nil]
    rfl
  cases s with
  | orderByPath sort map => exact (q.getD_orderByPath sort map).trans (hreordered _)
  | applySorting page map order =>
    exact (q.getD_applySorting page map order).trans (hreordered _)
  | applyPaging page order =>
    cases page with
    | none => exact (q.applyDefault_eq order).trans (hreordered _)
    | some page =>
      show q.take ⟨page.limit, page.offset⟩ = ⟨q.source, q.conditions ++ [], q.ordering ++ [], _⟩
      rw [List.append_nil, List.append_nil]
      rfl
  | defaultOrder order => exact (q.replaceOrder_eq order.keys).trans (hreordered (some order.keys))
  | orderBy key =>
    show q.orderBy key = ⟨q.source, q.conditions ++ [], q.ordering ++ [key], _⟩
    rw [List.append_nil]
    rfl
  | applyFilters filter map excluded =>
    refine (q.getD_applyFilters filter map excluded).trans ?_
    show _ = (⟨q.source, q.conditions ++ _, q.ordering ++ [], _⟩ : Query)
    rw [List.append_nil]
    rfl

/-! ## A run -/

theorem run_cons (q : Query) (s : Step) (steps : List Step) :
    q.run (s :: steps) = (q.next s).run steps := rfl

theorem source_run (q : Query) (steps : List Step) : (q.run steps).source = q.source := by
  induction steps generalizing q with
  | nil => rfl
  | cons s steps ih => rw [run_cons, ih, next_eq]

theorem conditions_run (q : Query) (steps : List Step) :
    (q.run steps).conditions = q.conditions ++ steps.flatMap Step.conditions := by
  induction steps generalizing q with
  | nil => exact (List.append_nil _).symm
  | cons s steps ih => rw [run_cons, ih, next_eq, List.flatMap_cons, List.append_assoc]

theorem window_run (q : Query) (steps : List Step) :
    (q.run steps).window = ((steps.filterMap Step.window?).getLast?).or q.window := by
  induction steps generalizing q with
  | nil => rfl
  | cons s steps ih =>
    rw [run_cons, ih, next_eq, List.filterMap_cons]
    cases s.window? with
    | none => rfl
    | some w =>
      rw [List.getLast?_cons]
      cases (steps.filterMap Step.window?).getLast? <;> rfl

end Query

/-- The values of a window. -/
def Window.values (w : Window) : List SqlValue :=
  [.bigUnsigned w.limit, .bigUnsigned w.offset]

/-- The ordering after a run that begins with the ordering `first`. -/
inductive Ordered (first : List OrderKey) (steps : List Step) : List OrderKey → Prop
  /-- No step replaces the first ordering. -/
  | extended (hsteps : ∀ s ∈ steps, s.order? = none) :
      Ordered first steps (first ++ steps.filterMap Step.tiebreak?)
  /-- The step `s` is the last one that replaces the ordering. -/
  | replaced (before : List Step) {s : Step} {after : List Step} {keys : List OrderKey}
      (hsteps : steps = before ++ s :: after) (hs : s.order? = some keys)
      (hafter : ∀ t ∈ after, t.order? = none) :
      Ordered first steps (keys ++ after.filterMap Step.tiebreak?)

namespace Query

theorem ordering_next (q : Query) (s : Step) :
    (q.next s).ordering = s.order?.getD q.ordering ++ s.tiebreak?.toList := by
  rw [next_eq]

theorem ordered_run (q : Query) (steps : List Step) :
    Ordered q.ordering steps (q.run steps).ordering := by
  induction steps generalizing q with
  | nil =>
    have h : Ordered q.ordering [] (q.ordering ++ []) := .extended nofun
    rwa [List.append_nil] at h
  | cons s steps ih =>
    have hrest := ih (q.next s)
    rw [ordering_next, ← run_cons] at hrest
    generalize (q.run (s :: steps)).ordering = result at hrest ⊢
    -- Either a later step replaces the ordering once more, or this one decides it.
    cases hrest with
    | replaced before hsteps hs hafter =>
      exact .replaced (s :: before) (congrArg (s :: ·) hsteps) hs hafter
    | extended hsteps =>
      cases hs : s.order? with
      | some keys =>
        rw [Step.tiebreak?_of_order? hs, Option.getD_some, Option.toList_none, List.append_nil]
        exact .replaced [] rfl hs hsteps
      | none =>
        have hall : ∀ t ∈ s :: steps, t.order? = none := by
          rintro t (_ | ⟨_, ht⟩)
          · exact hs
          · exact hsteps t ht
        have hkeys : (s :: steps).filterMap Step.tiebreak? =
            s.tiebreak?.toList ++ steps.filterMap Step.tiebreak? := by
          rw [List.filterMap_cons]
          cases s.tiebreak? <;> rfl
        have h : Ordered q.ordering (s :: steps) _ := .extended hall
        rwa [hkeys, ← List.append_assoc] at h

/-! ## The values of a statement -/

theorem values_conditionFragments (b : Backend) (lead : String) (cs : List Condition) :
    Fragment.values (conditionFragments b lead cs) = cs.flatMap Condition.values := by
  induction cs generalizing lead with
  | nil => rfl
  | cons c cs ih =>
    have hc : Fragment.values (c.fragments b) = c.values := by
      cases c with
      | oneOf column vs => exact Fragment.values_parenthesised vs
      | _ => rfl
    rw [conditionFragments, List.cons_append, Fragment.values, Fragment.values_append, hc, ih,
      List.flatMap_cons]

theorem values_statement (q : Query) (b : Backend) :
    (q.statement b).values =
      q.conditions.flatMap Condition.values ++ (q.window.map Window.values).getD [] := by
  have horder : Fragment.values (orderFragments b q.ordering) = [] := by
    cases q.ordering <;> rfl
  have hwindow : Fragment.values (windowFragments q.window) =
      (q.window.map Window.values).getD [] := by
    cases q.window <;> rfl
  rw [statement, Statement.ofFragments, fragments, Fragment.values_append, Fragment.values_append,
    Fragment.values, values_conditionFragments, horder, hwindow, List.append_nil]

/-- **A whole run.**  Its steps may come in any number and in any order, and some of them may fail.
The query works on the same source; it keeps the rows that pass its own conditions and those of all
steps, in the order of the steps; its order is that of the last step which replaces the order, with
what later steps have added; its window is the last that has been taken; and its statement has the
values of the conditions, with limit and offset behind them. -/
theorem run_eq (q : Query) (steps : List Step) :
    (q.run steps).source = q.source ∧
      (q.run steps).conditions = q.conditions ++ steps.flatMap Step.conditions ∧
      Ordered q.ordering steps (q.run steps).ordering ∧
      (q.run steps).window = ((steps.filterMap Step.window?).getLast?).or q.window ∧
      ∀ b : Backend, ((q.run steps).statement b).values =
        (q.conditions ++ steps.flatMap Step.conditions).flatMap Condition.values ++
          ((((steps.filterMap Step.window?).getLast?).or q.window).map Window.values).getD [] := by
  refine ⟨q.source_run steps, q.conditions_run steps, q.ordered_run steps, q.window_run steps,
    fun b => ?_⟩
  rw [values_statement, conditions_run, window_run]

end Query
end ListQuery
