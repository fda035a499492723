import Mathlib.Data.List.Basic
import ListQuery.Text.Blank
import ListQuery.Text.Split

/-!
# The pieces of a text

* `Text.not_mem_of_mem_pieces`, `Text.mem_of_mem_pieces` — what a piece cannot contain, and that it
  is made of characters of the text.
* `Text.pieces_of_not_mem`, `Text.exists_pieces_of_mem` — a text without the separator is its only
  piece, and one with it has a second piece.
* `Text.pieces_join`, `Text.mem_of_mem_join` — parts that do not contain the separator are found
  again, and what is joined consists of the parts and the separator.
* `Text.pieces_of_toList_eq` — two texts with a separator between them are cut independently.
* `Text.splitOn_flatMap` — cutting commutes with rewriting a text character by character, as long
  as the rewriting neither makes nor destroys separators.
* `Text.mem_of_mem_trim` — trimming brings in no new characters.
-/

set_option autoImplicit false
namespace ListQuery
namespace Text

/-! ## Lists of characters -/

variable {separator : Char}

/-- Reading one character of a text that is cut: it is a separator, or belongs to the first
piece. -/
theorem splitOn_cons_of_ne {c : Char} (h : c ≠ separator) {cs piece : List Char}
    {rest : List (List Char)} (hcs : cs.splitOn separator = piece :: rest) :
    (c :: cs).splitOn separator = (c :: piece) :: rest := by
  rw [List.splitOn_cons_eq_if_modifyHead, if_neg (by simpa using h), hcs, List.modifyHead_cons]

theorem splitOn_cons_self (cs : List Char) :
    (separator :: cs).splitOn separator = [] :: cs.splitOn separator := by
  rw [List.splitOn_cons_eq_if_modifyHead, if_pos (beq_self_eq_true _)]

theorem exists_splitOn_eq_cons (separator : Char) (cs : List Char) :
    ∃ piece rest, cs.splitOn separator = piece :: rest :=
  List.exists_cons_of_ne_nil (List.splitOn_ne_nil separator cs)

theorem not_mem_of_mem_splitOn {cs piece : List Char} (h : piece ∈ cs.splitOn separator) :
    separator ∉ piece := by
  induction cs generalizing piece with
  | nil =>
    obtain rfl := List.mem_singleton.1 h
    exact List.not_mem_nil
  | cons c cs ih =>
    by_cases hc : c = separator
    · subst hc
      rw [splitOn_cons_self] at h
      obtain rfl | h := List.mem_cons.1 h
      · exact List.not_mem_nil
      · exact ih h
    · obtain ⟨first, rest, hcs⟩ := exists_splitOn_eq_cons separator cs
      rw [splitOn_cons_of_ne hc hcs] at h
      obtain rfl | h := List.mem_cons.1 h
      · have hfirst : separator ∉ first := ih (hcs ▸ List.mem_cons_self)
        rw [List.mem_cons, not_or]
        exact ⟨Ne.symm hc, hfirst⟩
      · exact ih (hcs ▸ List.mem_cons_of_mem first h)

theorem mem_of_mem_splitOn {cs piece : List Char} (h : piece ∈ cs.splitOn separator) {c : Char}
    (hc : c ∈ piece) : c ∈ cs := by
  induction cs generalizing piece with
  | nil =>
    obtain rfl := List.mem_singleton.1 h
    exact hc
  | cons d cs ih =>
    by_cases hd : d = separator
    · subst hd
      rw [splitOn_cons_self] at h
      obtain rfl | h := List.mem_cons.1 h
      · cases hc
      · exact List.mem_cons_of_mem d (ih h hc)
    · obtain ⟨first, rest, hcs⟩ := exists_splitOn_eq_cons separator cs
      rw [splitOn_cons_of_ne hd hcs] at h
      obtain rfl | h := List.mem_cons.1 h
      · obtain rfl | hc := List.mem_cons.1 hc
        · exact List.mem_cons_self
        · exact List.mem_cons_of_mem d (ih (hcs ▸ List.mem_cons_self) hc)
      · exact List.mem_cons_of_mem d (ih (hcs ▸ List.mem_cons_of_mem first h) hc)

/-- Text in front that has no separator becomes part of the first piece. -/
theorem splitOn_append {front cs piece : List Char} {rest : List (List Char)}
    (h : separator ∉ front) (hcs : cs.splitOn separator = piece :: rest) :
    (front ++ cs).splitOn separator = (front ++ piece) :: rest := by
  induction front with
  | nil => exact hcs
  | cons c front ih =>
    rw [List.mem_cons, not_or] at h
    exact splitOn_cons_of_ne (Ne.symm h.1) (ih h.2)

/-- Text that is rewritten character by character is cut at the same places. -/
theorem splitOn_flatMap {f : Char → List Char} (hself : f separator = [separator])
    (hother : ∀ c, c ≠ separator → separator ∉ f c) (cs : List Char) :
    (cs.flatMap f).splitOn separator = (cs.splitOn separator).map (List.flatMap f) := by
  induction cs with
  | nil => rfl
  | cons c cs ih =>
    by_cases hc : c = separator
    · subst hc
      rw [List.flatMap_cons, hself, List.singleton_append, splitOn_cons_self, splitOn_cons_self, ih]
      rfl
    · obtain ⟨first, rest, hcs⟩ := exists_splitOn_eq_cons separator cs
      rw [hcs] at ih
      rw [splitOn_cons_of_ne hc hcs, List.flatMap_cons]
      exact splitOn_append (hother c hc) ih

/-- What is put together consists of the parts and the separator. -/
theorem mem_of_mem_intercalate {parts : List (List Char)} {c : Char}
    (h : c ∈ [separator].intercalate parts) : c = separator ∨ ∃ part ∈ parts, c ∈ part := by
  induction parts with
  | nil => cases h
  | cons part parts ih =>
    by_cases hnil : parts = []
    · rw [hnil, List.intercalate_singleton] at h
      exact Or.inr ⟨part, List.mem_cons_self, h⟩
    · rw [List.intercalate_cons_of_ne_nil hnil, List.append_assoc, List.mem_append,
        List.mem_append, List.mem_singleton] at h
      rcases h with h | h | h
      · exact Or.inr ⟨part, List.mem_cons_self, h⟩
      · exact Or.inl h
      · rcases ih h with hc | ⟨other, hother, hc⟩
        · exact Or.inl hc
        · exact Or.inr ⟨other, List.mem_cons_of_mem part hother, hc⟩

/-! ## Texts -/

theorem not_mem_of_mem_pieces {s piece : String} (h : piece ∈ pieces separator s) :
    separator ∉ piece.toList := by
  obtain ⟨cs, hcs, rfl⟩ := List.mem_map.1 h
  rw [String.toList_ofList]
  exact not_mem_of_mem_splitOn hcs

theorem mem_of_mem_pieces {s piece : String} (h : piece ∈ pieces separator s) {c : Char}
    (hc : c ∈ piece.toList) : c ∈ s.toList := by
  obtain ⟨cs, hcs, rfl⟩ := List.mem_map.1 h
  rw [String.toList_ofList] at hc
  exact mem_of_mem_splitOn hcs hc

/-- A text without the separator is its own only piece. -/
theorem pieces_of_not_mem {s : String} (h : separator ∉ s.toList) : pieces separator s = [s] := by
  rw [pieces, List.splitOn_eq_singleton h, List.map_singleton, String.ofList_toList]

/-- A text with the separator has at least two pieces. -/
theorem exists_pieces_of_mem {s : String} (h : separator ∈ s.toList) :
    ∃ first rest, pieces separator s = first :: rest ∧ rest ≠ [] := by
  obtain ⟨first, rest, hpieces⟩ := List.exists_cons_of_ne_nil (pieces_ne_nil separator s)
  refine ⟨first, rest, hpieces, ?_⟩
  rintro rfl
  have hjoin : join separator [first] = s := by rw [← hpieces, join_pieces]
  have hfirst : first = s := by
    rw [← hjoin, join, List.map_singleton, List.intercalate_singleton, String.ofList_toList]
  have hmem : s ∈ pieces separator s := by rw [hpieces, hfirst]; exact List.mem_singleton_self s
  exact not_mem_of_mem_pieces hmem h

/-- Parts that were put together are found again, if none of them contains the separator. -/
theorem pieces_join {parts : List String} (hne : parts ≠ [])
    (h : ∀ part ∈ parts, separator ∉ part.toList) :
    pieces separator (join separator parts) = parts := by
  have hparts : ∀ cs ∈ parts.map String.toList, separator ∉ cs := by
    intro cs hcs
    obtain ⟨part, hpart, rfl⟩ := List.mem_map.1 hcs
    exact h part hpart
  have hne : parts.map String.toList ≠ [] := fun hnil => hne (List.map_eq_nil_iff.1 hnil)
  rw [pieces, toList_join, List.splitOn_intercalate separator hparts hne, List.map_map]
  simp only [Function.comp_def, String.ofList_toList, List.map_id']

/-- A text that consists of two texts with a separator between them has the pieces of both. -/
theorem pieces_of_toList_eq {s t u : String} (h : u.toList = s.toList ++ separator :: t.toList) :
    pieces separator u = pieces separator s ++ pieces separator t := by
  simp only [pieces, h, List.splitOn_append_cons_self, List.map_append]

theorem mem_of_mem_join {parts : List String} {c : Char} (h : c ∈ (join separator parts).toList) :
    c = separator ∨ ∃ part ∈ parts, c ∈ part.toList := by
  rw [toList_join] at h
  simpa using mem_of_mem_intercalate h

theorem mem_of_mem_trim {s : String} {c : Char} (h : c ∈ (trim s).toList) : c ∈ s.toList := by
  rw [trim, String.toList_ofList, trimChars, List.mem_reverse] at h
  have hback := List.dropWhile_subset isBlank h
  rw [List.mem_reverse] at hback
  exact List.dropWhile_subset isBlank hback

end Text
end ListQuery
