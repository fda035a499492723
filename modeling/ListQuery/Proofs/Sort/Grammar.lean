import ListQuery.Proofs.Sort.Terms
import ListQuery.Proofs.Text.Trim

/-!
# The grammar of sort texts

A sort text is read by cutting it at commas, trimming the parts, dropping the empty ones, taking a
minus sign off and cutting the rest at dots.  Nothing is lost on the way: a term, written with its
sign, is the part that it was read from, and a text is refused only if it is too long or has nothing
in it to order by.

## What is here

* `SortTerm.written` — a term as a client writes it.  `SortTerm.ReadsAs` says which part of a
  text asks for a term; `SortTerm.readsAs_iff` says that it is one term, the one that is read.
* `SortSpec.segments` — the parts between commas that are not blank, as they stand in the text.
  `SortSpec.segments_ne_nil_iff` says when there are any.
* `SortSpec.Outcome` — what becomes of a text: one of three faults, or its terms.
* `SortSpec.parse_eq_ok_iff` — which texts are read as a given specification.
* `SortSpec.parse_follows_grammar` — **the grammar**: the accepted texts, the terms of an accepted
  text, and the reason for which any other text is refused.
-/

set_option autoImplicit false
namespace ListQuery

/-! ## Terms -/

namespace SortTerm

/-- The sign in front of a term: a minus for descending order and nothing for ascending order. -/
def sign (t : SortTerm) : String :=
  match t.direction with
  | .ascending => ""
  | .descending => "-"

/-- A term as a client writes it. -/
def written (t : SortTerm) : String :=
  t.sign ++ t.key

/-- A part of a sort text asks for a term: without the blanks around it, it is the term as it is
written; a minus sign at its front makes the order descending; and what remains is a path of names
with dots between them. -/
structure ReadsAs (part : String) (t : SortTerm) : Prop where
  trims : Text.Trims part t.written
  descending_iff : t.isDescending = true ↔ t.written.toList.head? = some '-'
  path_eq : t.path = Text.pieces '.' t.key

theorem key_mk (s : String) (direction : Direction) : key ⟨Text.pieces '.' s, direction⟩ = s :=
  Text.join_pieces '.' s

theorem written_ascending (path : List String) :
    written ⟨path, .ascending⟩ = key ⟨path, .ascending⟩ :=
  String.empty_append

theorem toList_written_descending (path : List String) :
    (written ⟨path, .descending⟩).toList = '-' :: (key ⟨path, .descending⟩).toList := by
  simp [written, sign]

/-- One minus sign is the direction, and the rest is the key. -/
theorem ofText_of_minus {part : String} {cs : List Char} (h : part.toList = '-' :: cs) :
    ofText part = ⟨Text.pieces '.' (String.ofList cs), .descending⟩ := by
  rw [ofText]
  split
  · next rest hrest =>
    rw [h, List.cons.injEq] at hrest
    rw [hrest.2]
  · next hne => exact absurd h (hne cs)

theorem ofText_of_plain {part : String} (h : part.toList.head? ≠ some '-') :
    ofText part = ⟨Text.pieces '.' part, .ascending⟩ := by
  rw [ofText]
  split
  · next rest hrest => exact absurd (by rw [hrest, List.head?_cons]) h
  · rfl

/-- The term of a trimmed part is written as the part is. -/
theorem ofText_spec (part : String) :
    (ofText part).written = part ∧
      ((ofText part).isDescending = true ↔ part.toList.head? = some '-') ∧
      (ofText part).path = Text.pieces '.' (ofText part).key := by
  by_cases h : part.toList.head? = some '-'
  · obtain ⟨cs, hcs⟩ := List.head?_eq_some_iff.1 h
    rw [ofText_of_minus hcs, key_mk]
    refine ⟨?_, iff_of_true rfl h, rfl⟩
    rw [← String.toList_inj, toList_written_descending, key_mk, String.toList_ofList, hcs]
  · rw [ofText_of_plain h, key_mk]
    refine ⟨?_, iff_of_false Bool.false_ne_true h, rfl⟩
    rw [written_ascending, key_mk]

/-- **A part asks for one term**, the one that is read from it. -/
theorem readsAs_iff {t : SortTerm} {part : String} :
    ReadsAs part t ↔ t = ofText (Text.trim part) := by
  constructor
  · rintro ⟨htrims, hdescending, hpath⟩
    rw [htrims.trim_eq]
    rcases t with ⟨path, _ | _⟩
    · have hplain : (written ⟨path, .ascending⟩).toList.head? ≠ some '-' :=
        fun h => Bool.false_ne_true (hdescending.2 h)
      rw [ofText_of_plain hplain, written_ascending, ← hpath]
    · rw [ofText_of_minus (toList_written_descending path), String.ofList_toList, ← hpath]
  · rintro rfl
    obtain ⟨hwritten, hdescending, hpath⟩ := ofText_spec (Text.trim part)
    refine ⟨?_, ?_, hpath⟩
    · rw [hwritten]
      exact Text.trims_trim part
    · rw [hwritten]
      exact hdescending

/-- The key of an ascending term stands in the text as it is, and so it has neither blanks nor a
minus sign at its front. -/
theorem ReadsAs.key_of_ascending {t : SortTerm} {part : String} (h : ReadsAs part t)
    (hpart : ∃ c ∈ part.toList, Text.isBlank c = false) (hascending : t.isDescending = false) :
    t.key ≠ "" ∧ Text.IsTrimmed t.key ∧ t.key.toList.head? ≠ some '-' := by
  rcases t with ⟨path, _ | _⟩
  · obtain ⟨htrims, hdescending, -⟩ := h
    rw [written_ascending] at htrims hdescending
    refine ⟨?_, htrims.trimmed, fun hhead => Bool.false_ne_true (hdescending.2 hhead)⟩
    rw [← htrims.trim_eq]
    exact Text.trim_ne_empty_iff.2 hpart
  · cases hascending

end SortTerm

/-! ## Parts -/

namespace SortSpec

/-- The parts of a sort text between its commas that hold more than blanks, as they stand in the
text. -/
def segments (raw : String) : List String :=
  (Text.pieces ',' raw).filter fun part => !Text.isBlankText part

theorem mem_segments_iff {raw part : String} :
    part ∈ segments raw ↔
      part ∈ Text.pieces ',' raw ∧ ∃ c ∈ part.toList, Text.isBlank c = false := by
  rw [segments, List.mem_filter, Bool.not_eq_true', Text.isBlankText_eq_false_iff]

/-- Trimming first and dropping what is empty comes to the same as dropping what is blank first. -/
theorem parts_eq (raw : String) : parts raw = (segments raw).map Text.trim := by
  rw [parts, segments, List.filter_map]
  refine congrArg (List.map Text.trim) (List.filter_congr fun part _ => ?_)
  rw [Bool.eq_iff_iff, Function.comp_apply, bne_iff_ne, Text.trim_ne_empty_iff, Bool.not_eq_true',
    Text.isBlankText_eq_false_iff]

/-- There is something to order by if and only if some character is neither blank nor a comma. -/
theorem segments_ne_nil_iff {raw : String} :
    segments raw ≠ [] ↔ ∃ c ∈ raw.toList, Text.isBlank c = false ∧ c ≠ ',' := by
  constructor
  · intro hne
    obtain ⟨part, hpart⟩ := List.exists_mem_of_ne_nil _ hne
    obtain ⟨hpiece, c, hc, hblank⟩ := mem_segments_iff.1 hpart
    refine ⟨c, Text.mem_of_mem_pieces hpiece hc, hblank, ?_⟩
    rintro rfl
    exact Text.not_mem_of_mem_pieces hpiece hc
  · rintro ⟨c, hc, hblank, hcomma⟩
    rw [← Text.join_pieces ',' raw] at hc
    obtain rfl | ⟨part, hpiece, hpart⟩ := Text.mem_of_mem_join hc
    · exact absurd rfl hcomma
    · exact List.ne_nil_of_mem (mem_segments_iff.2 ⟨hpiece, c, hpart, hblank⟩)

/-! ## Texts -/

theorem map_ofText_parts (raw : String) :
    (parts raw).map SortTerm.ofText =
      (segments raw).map fun part => SortTerm.ofText (Text.trim part) := by
  rw [parts_eq, List.map_map]
  rfl

theorem readsAs_terms (raw : String) :
    List.Forall₂ SortTerm.ReadsAs (segments raw) ((parts raw).map SortTerm.ofText) := by
  rw [map_ofText_parts, List.forall₂_map_right_iff, List.forall₂_same]
  exact fun part _ => SortTerm.readsAs_iff.2 rfl

/-- What can become of a sort text. -/
inductive Outcome (raw : String) : Except QueryError SortSpec → Prop
  | blank (hblank : ∀ c ∈ raw.toList, Text.isBlank c) : Outcome raw (.error (.invalidSort .blank))
  | tooLong (hsome : ∃ c ∈ raw.toList, Text.isBlank c = false) (hlong : 1024 < raw.utf8ByteSize) :
    Outcome raw (.error (.invalidSort .tooLong))
  | noColumns (hsome : ∃ c ∈ raw.toList, Text.isBlank c = false)
      (hshort : raw.utf8ByteSize ≤ 1024) (hnone : segments raw = []) :
    Outcome raw (.error (.invalidSort .noColumns))
  | terms (spec : SortSpec) (hshort : raw.utf8ByteSize ≤ 1024)
      (hterms : List.Forall₂ SortTerm.ReadsAs (segments raw) spec.terms) :
    Outcome raw (.ok spec)

/-- The three faults are looked for in this order. -/
theorem outcome_parse (raw : String) : Outcome raw (parse raw) := by
  unfold parse
  split
  · next hblank => exact .blank (List.all_eq_true.1 hblank)
  · next hblank =>
    have hsome : ∃ c ∈ raw.toList, Text.isBlank c = false :=
      Text.isBlankText_eq_false_iff.1 (Bool.not_eq_true _ ▸ hblank)
    split
    · next hlong => exact .tooLong hsome hlong
    · next hlong =>
      have hshort : raw.utf8ByteSize ≤ 1024 := Nat.le_of_not_lt hlong
      dsimp only
      split
      · next hnil =>
        rw [map_ofText_parts, List.map_eq_nil_iff] at hnil
        exact .noColumns hsome hshort hnil
      · exact .terms _ hshort (readsAs_terms raw)

/-- **A text that is short enough is read as the terms of its parts**, if it has any. -/
theorem parse_eq_ok_iff {raw : String} {spec : SortSpec} :
    parse raw = .ok spec ↔
      raw.utf8ByteSize ≤ 1024 ∧ spec.terms = (parts raw).map SortTerm.ofText := by
  have houtcome := outcome_parse raw
  constructor
  · intro h
    rw [h] at houtcome
    rcases houtcome with _ | _ | _ | ⟨_, hshort, -⟩
    exact ⟨hshort, terms_of_parse h⟩
  · rintro ⟨hshort, hterms⟩
    have hsegments : segments raw ≠ [] := by
      intro hnil
      rw [map_ofText_parts, hnil] at hterms
      exact spec.terms_ne_nil hterms
    obtain ⟨c, hc, hblank, -⟩ := segments_ne_nil_iff.1 hsegments
    cases hparse : parse raw with
    | ok other =>
      have hsame : other.terms = spec.terms := (terms_of_parse hparse).trans hterms.symm
      rcases spec with ⟨_, _⟩
      rcases other with ⟨_, _⟩
      cases hsame
      rfl
    | error e =>
      rw [hparse] at houtcome
      rcases houtcome with hall | ⟨-, hlong⟩ | ⟨-, -, hnone⟩ | _
      · rw [hall c hc] at hblank
        cases hblank
      · omega
      · exact absurd hnone hsegments

/-- The fault that is reported says which of the three it is. -/
theorem Outcome.exists_fault {raw : String} {e : QueryError} (h : Outcome raw (.error e)) :
    ∃ fault, e = .invalidSort fault ∧
      (fault.reason = "sort specification is empty" ↔ ∀ c ∈ raw.toList, Text.isBlank c) ∧
      (fault.reason = "sort specification is too long" ↔
        (∃ c ∈ raw.toList, Text.isBlank c = false) ∧ 1024 < raw.utf8ByteSize) ∧
      (fault.reason = "no valid columns specified in sort specification" ↔
        (∃ c ∈ raw.toList, Text.isBlank c = false) ∧ raw.utf8ByteSize ≤ 1024) := by
  have hsome_iff : (∃ c ∈ raw.toList, Text.isBlank c = false) ↔
      ¬ ∀ c ∈ raw.toList, Text.isBlank c := by simp
  rw [hsome_iff, ← Nat.not_lt]
  rcases h with hblank | ⟨hsome, hlong⟩ | ⟨hsome, hshort, -⟩ | _
  · refine ⟨.blank, rfl, iff_of_true rfl hblank, ?_, ?_⟩
    · exact iff_of_false (by simp [SortFault.reason]) fun h => h.1 hblank
    · exact iff_of_false (by simp [SortFault.reason]) fun h => h.1 hblank
  · rw [hsome_iff] at hsome
    exact ⟨.tooLong, rfl, by simp [SortFault.reason, hsome, hlong]⟩
  · rw [hsome_iff] at hsome
    rw [← Nat.not_lt] at hshort
    exact ⟨.noColumns, rfl, by simp [SortFault.reason, hsome, hshort]⟩

/-- **The grammar of sort texts.**  A text is accepted if and only if it has at most 1024 bytes and
some character that is neither blank nor a comma.  Its terms are asked for by its parts between
commas, one by each part that is not blank and in their order; the paths have at least one name and
no separators, and the key of an ascending term stands there as it is.  A text of blanks is refused
as empty, however many blanks there are; any other text that is refused is too long or else names no
columns. -/
theorem parse_follows_grammar (raw : String) :
    ((∃ spec, parse raw = .ok spec) ↔
      raw.utf8ByteSize ≤ 1024 ∧ ∃ c ∈ raw.toList, Text.isBlank c = false ∧ c ≠ ',') ∧
    (∀ spec, parse raw = .ok spec →
      List.Forall₂ SortTerm.ReadsAs (segments raw) spec.terms ∧
      ∀ term ∈ spec.terms, IsSortPath term.path ∧
        (term.isDescending = false →
          term.key ≠ "" ∧ Text.IsTrimmed term.key ∧ term.key.toList.head? ≠ some '-')) ∧
    (∀ e, parse raw = .error e → ∃ fault, e = .invalidSort fault ∧
      (fault.reason = "sort specification is empty" ↔ ∀ c ∈ raw.toList, Text.isBlank c) ∧
      (fault.reason = "sort specification is too long" ↔
        (∃ c ∈ raw.toList, Text.isBlank c = false) ∧ 1024 < raw.utf8ByteSize) ∧
      (fault.reason = "no valid columns specified in sort specification" ↔
        (∃ c ∈ raw.toList, Text.isBlank c = false) ∧ raw.utf8ByteSize ≤ 1024)) := by
  have houtcome := outcome_parse raw
  refine ⟨⟨?_, ?_⟩, ?_, ?_⟩
  · rintro ⟨spec, hspec⟩
    rw [hspec] at houtcome
    rcases houtcome with _ | _ | _ | ⟨_, hshort, hterms⟩
    refine ⟨hshort, segments_ne_nil_iff.1 fun hnil => ?_⟩
    rw [hnil, List.forall₂_nil_left_iff] at hterms
    exact spec.terms_ne_nil hterms
  · rintro ⟨hshort, c, hc, hblank, hcomma⟩
    generalize parse raw = result at houtcome
    rcases houtcome with hall | ⟨-, hlong⟩ | ⟨-, -, hnone⟩ | ⟨spec, -, -⟩
    · rw [hall c hc] at hblank
      cases hblank
    · omega
    · exact absurd hnone (segments_ne_nil_iff.2 ⟨c, hc, hblank, hcomma⟩)
    · exact ⟨spec, rfl⟩
  · intro spec hspec
    rw [hspec] at houtcome
    rcases houtcome with _ | _ | _ | ⟨_, hshort, hterms⟩
    refine ⟨hterms, fun term hterm => ⟨isSortPath_of_parse hspec hterm, fun hascending => ?_⟩⟩
    obtain ⟨part, hpart, hreads⟩ := exists_right_of_mem hterms.flip hterm
    exact hreads.key_of_ascending (mem_segments_iff.1 hpart).2 hascending
  · intro e he
    rw [he] at houtcome
    exact houtcome.exists_fault

end SortSpec
end ListQuery
