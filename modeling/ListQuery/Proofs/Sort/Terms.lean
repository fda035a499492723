import ListQuery.Proofs.Outcome
import ListQuery.Proofs.Text.Pieces
import ListQuery.Sort

/-!
# The terms of a sort text

* `IsSortPath` — a path that a sort text can ask for: at least one name, and no separator in any.
* `SortSpec.terms_of_parse` — the terms are those of the parts, in order.
* `SortSpec.isSortPath_of_parse` — **all paths of a parsed text are such paths**, whatever
  characters the text has.
* `SortSpec.forTerms` — the shape of every use of a sort text: it is read, a step is taken for each
  term, and the results are put together.  `SortSpec.forTerms_eq_ok_iff` says when this succeeds.
-/

set_option autoImplicit false
namespace ListQuery

/-- A path that a sort text can ask for.  Its names may be empty or blank, but no name has a dot or
a comma in it. -/
structure IsSortPath (path : List String) : Prop where
  ne_nil : path ≠ []
  no_dot : ∀ name ∈ path, '.' ∉ name.toList
  no_comma : ∀ name ∈ path, ',' ∉ name.toList

/-- A dotted name without a comma, cut at its dots. -/
theorem isSortPath_pieces {s : String} (h : ',' ∉ s.toList) : IsSortPath (Text.pieces '.' s) where
  ne_nil := Text.pieces_ne_nil '.' s
  no_dot := fun _ hname => Text.not_mem_of_mem_pieces hname
  no_comma := fun _ hname hcomma => h (Text.mem_of_mem_pieces hname hcomma)

/-- The key of a path leads back to the path. -/
theorem IsSortPath.pieces_join {path : List String} (h : IsSortPath path) :
    Text.pieces '.' (Text.join '.' path) = path :=
  Text.pieces_join h.ne_nil h.no_dot

theorem SortTerm.isSortPath_ofText {part : String} (h : ',' ∉ part.toList) :
    IsSortPath (SortTerm.ofText part).path := by
  unfold SortTerm.ofText
  split
  · next rest hpart =>
    refine isSortPath_pieces fun hcomma => h ?_
    rw [String.toList_ofList] at hcomma
    rw [hpart]
    exact List.mem_cons_of_mem '-' hcomma
  · exact isSortPath_pieces h

namespace SortSpec

theorem no_comma_of_mem_parts {raw part : String} (h : part ∈ parts raw) : ',' ∉ part.toList := by
  obtain ⟨piece, hpiece, rfl⟩ := List.mem_map.1 (List.mem_filter.1 h).1
  exact fun hcomma => Text.not_mem_of_mem_pieces hpiece (Text.mem_of_mem_trim hcomma)

/-- A text of blanks is refused as such, however long it is. -/
theorem parse_of_isBlankText {raw : String} (h : Text.isBlankText raw = true) :
    parse raw = .error (.invalidSort .blank) :=
  if_pos h

theorem terms_of_parse {raw : String} {spec : SortSpec} (h : parse raw = .ok spec) :
    spec.terms = (parts raw).map SortTerm.ofText := by
  simp only [parse] at h
  split at h
  · cases h
  · split at h
    · cases h
    · split at h
      · cases h
      · cases h
        rfl

/-- **All paths of a parsed text are paths without separators.** -/
theorem isSortPath_of_parse {raw : String} {spec : SortSpec} (h : parse raw = .ok spec)
    {term : SortTerm} (hterm : term ∈ spec.terms) : IsSortPath term.path := by
  rw [terms_of_parse h] at hterm
  obtain ⟨part, hpart, rfl⟩ := List.mem_map.1 hterm
  exact SortTerm.isSortPath_ofText (no_comma_of_mem_parts hpart)

/-! ## Using a sort text -/

section

variable {β γ : Type} {step : SortTerm → Except QueryError β} {finish : List β → γ} {sort : String}

/-- Reads a sort text, takes a step for each of its terms, and puts the results together. -/
def forTerms (sort : String) (step : SortTerm → Except QueryError β) (finish : List β → γ) :
    Except QueryError γ :=
  (parse sort).bind fun spec => (spec.terms.mapM step).map finish

theorem forTerms_of_parse {spec : SortSpec} (h : parse sort = .ok spec) :
    forTerms sort step finish = (spec.terms.mapM step).map finish := by
  rw [forTerms, h]
  rfl

theorem forTerms_of_unreadable {e : QueryError} (h : parse sort = .error e) :
    forTerms sort step finish = .error e := by
  rw [forTerms, h]
  rfl

/-- A use of a sort text succeeds if the text can be read and something is found for each of its
terms. -/
theorem forTerms_eq_ok_iff {ρ : Type} {found : SortTerm → ρ → Prop} {result : ρ → β}
    (h : ∀ term y, step term = .ok y ↔ ∃ r, found term r ∧ y = result r) {value : γ} :
    forTerms sort step finish = .ok value ↔
      ∃ spec, parse sort = .ok spec ∧ ∃ rs, List.Forall₂ found spec.terms rs ∧
        value = finish (rs.map result) := by
  constructor
  · intro hvalue
    cases hparse : parse sort with
    | error e =>
      rw [forTerms_of_unreadable hparse] at hvalue
      cases hvalue
    | ok spec =>
      rw [forTerms_of_parse hparse] at hvalue
      obtain ⟨results, hsteps, rfl⟩ := map_eq_ok_iff.1 hvalue
      obtain ⟨rs, hrs, rfl⟩ := (mapM_eq_ok_iff_map fun term _ => h term).1 hsteps
      exact ⟨spec, rfl, rs, hrs, rfl⟩
  · rintro ⟨spec, hparse, rs, hrs, rfl⟩
    rw [forTerms_of_parse hparse, (mapM_eq_ok_iff_map fun term _ => h term).2 ⟨rs, hrs, rfl⟩]
    rfl

end

end SortSpec
end ListQuery
