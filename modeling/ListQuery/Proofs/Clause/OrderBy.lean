import ListQuery.Clause.OrderBy
import ListQuery.Proofs.Scanning.Rendering
import ListQuery.Proofs.Sort.Terms

/-!
# Orderings in a statement

* `orderByPiece_eq_ok_iff` — what becomes of one term.
* `orderBySort_eq_ok_iff` — **a clause has one column for each term**, in their order and in their
  directions.
* `ColumnMapping.IsQuiet` — the columns of a mapping have no special characters.
* `quietText_orderByClause` — **nor has an ordering**, whatever the client has sent: it is made of
  columns and of text that is written here.
-/

set_option autoImplicit false
namespace ListQuery

variable {mapping : ColumnMapping}

/-! ## What is written -/

/-- A column in a direction, as it stands in an ordering clause. -/
def orderPiece (chosen : String × Direction) : String :=
  match chosen.2 with
  | .ascending => chosen.1
  | .descending => chosen.1 ++ " DESC"

theorem orderByPiece_eq_ok_iff {term : SortTerm} {piece : String} :
    orderByPiece mapping term = .ok piece ↔
      ∃ chosen : String × Direction,
        (mapping.resolve? term.key = some chosen.1 ∧ chosen.2 = term.direction) ∧
          piece = orderPiece chosen := by
  have hpiece : ∀ column, (if term.isDescending then column ++ " DESC" else column) =
      orderPiece (column, term.direction) := by
    intro column
    rw [SortTerm.isDescending, orderPiece]
    cases term.direction <;> rfl
  constructor
  · intro h
    unfold orderByPiece at h
    split at h
    · next column hcolumn =>
      cases h
      exact ⟨(column, term.direction), ⟨hcolumn, rfl⟩, hpiece column⟩
    · cases h
  · rintro ⟨⟨column, direction⟩, ⟨hcolumn, rfl⟩, rfl⟩
    rw [orderByPiece, hcolumn]
    exact congrArg Except.ok (hpiece column)

theorem orderBySort_eq_forTerms (mapping : ColumnMapping) (sort : String) :
    orderBySort mapping sort =
      SortSpec.forTerms sort (orderByPiece mapping) fun pieces =>
        "ORDER BY " ++ ", ".intercalate pieces := by
  unfold orderBySort SortSpec.forTerms
  cases SortSpec.parse sort with
  | error e => rfl
  | ok spec =>
    show (spec.terms.mapM (orderByPiece mapping)).bind _ =
      (spec.terms.mapM (orderByPiece mapping)).map _
    cases spec.terms.mapM (orderByPiece mapping) <;> rfl

/-- **A clause has one column for each term** of a sort text, in the order and in the directions of
the terms. -/
theorem orderBySort_eq_ok_iff {sort order : String} :
    orderBySort mapping sort = .ok order ↔
      ∃ spec, SortSpec.parse sort = .ok spec ∧ ∃ chosen : List (String × Direction),
        List.Forall₂ (fun term c => mapping.resolve? term.key = some c.1 ∧ c.2 = term.direction)
          spec.terms chosen ∧
        order = "ORDER BY " ++ ", ".intercalate (chosen.map orderPiece) := by
  rw [orderBySort_eq_forTerms]
  exact SortSpec.forTerms_eq_ok_iff fun _ _ => orderByPiece_eq_ok_iff

/-- A sort text that says something decides the clause. -/
theorem orderByClause_of_sort {page : Page} {sort : String} (hsort : page.sort = some sort)
    (hblank : Text.isBlankText sort = false) (mapping : ColumnMapping) (defaultSort : String) :
    orderByClause mapping defaultSort (some page) = orderBySort mapping sort := by
  rw [orderByClause, Option.bind_some, hsort]
  exact if_neg (by rw [hblank]; exact Bool.false_ne_true)

/-! ## Special characters -/

/-- No column of a mapping has a special character. -/
def ColumnMapping.IsQuiet (mapping : ColumnMapping) : Prop :=
  ∀ key column, mapping.resolve? key = some column → QuietText column

theorem quietText_orderPiece {chosen : String × Direction} (h : QuietText chosen.1) :
    QuietText (orderPiece chosen) := by
  unfold orderPiece
  split
  · exact h
  · exact h.append (by decide)

theorem quietText_intercalate {separator : String} (hseparator : QuietText separator)
    {pieces : List String} (h : ∀ piece ∈ pieces, QuietText piece) :
    QuietText (separator.intercalate pieces) := by
  induction pieces with
  | nil => exact nofun
  | cons piece pieces ih =>
    have hpiece : QuietText piece := h piece List.mem_cons_self
    by_cases hnil : pieces = []
    · rw [hnil, String.intercalate_singleton]
      exact hpiece
    · rw [String.intercalate_cons_of_ne_nil hnil]
      exact (hpiece.append hseparator).append (ih fun q hq => h q (List.mem_cons_of_mem piece hq))

theorem quietText_orderBySort (hmapping : mapping.IsQuiet) {sort order : String}
    (h : orderBySort mapping sort = .ok order) : QuietText order := by
  obtain ⟨spec, -, chosen, hchosen, rfl⟩ := orderBySort_eq_ok_iff.1 h
  refine .append (by decide) (quietText_intercalate (by decide) fun piece hpiece => ?_)
  obtain ⟨c, hc, rfl⟩ := List.mem_map.1 hpiece
  obtain ⟨term, -, hcolumn, -⟩ := exists_right_of_mem hchosen.flip hc
  exact quietText_orderPiece (hmapping term.key c.1 hcolumn)

/-- The ordering that a client asks for has no special character, whatever the client has sent. -/
theorem quietText_orderByClause (hmapping : mapping.IsQuiet) {defaultSort : String}
    (hdefault : QuietText defaultSort) {page : Option Page} {order : String}
    (h : orderByClause mapping defaultSort page = .ok order) : QuietText order := by
  have hstandard : QuietText ("ORDER BY " ++ defaultSort) := .append (by decide) hdefault
  unfold orderByClause at h
  split at h
  · cases h
    exact hstandard
  · split at h
    · cases h
      exact hstandard
    · exact quietText_orderBySort hmapping h

end ListQuery
