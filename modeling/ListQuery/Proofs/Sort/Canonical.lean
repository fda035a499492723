import Mathlib.Data.String.Basic
import ListQuery.Proofs.Sort.Grammar

/-!
# The canonical form of a sort text

A specification is written as tokens, each with a sign, and the terms of a sort text have only the
minus sign.  Taken off the tokens again, the plus signs leave a sort text for the same
specification, which is the original one without its blanks and empty parts.  A sign that a client
writes as part of a name does not get in the way: of two signs in a row, only the first one counts
each time.

## What is here

* `Text.toList_join_sublist` — a joined text gets shorter if parts are dropped or shortened.
* `SortTerm.withoutPlus`, `SortTerm.withoutPlus_signed` — a token without its plus sign is the term
  as a client writes it.
* `SortSpec.canonical` — the tokens of a specification, without plus signs, as a sort text.
* `SortSpec.canonical_of_parse` — it consists of the parts of the text that was read, and
  `SortSpec.parts_join_parts` says that these are found again.
* `SortSpec.canonical_form` — **the canonical form is read as the same specification** and is no
  longer than the text, and tokens stand for one specification only.
-/

set_option autoImplicit false
namespace ListQuery

/-! ## Shorter texts -/

namespace Text

theorem intercalate_sublist {separator : List Char} {xs ys : List (List Char)}
    (h : List.SublistForall₂ List.Sublist xs ys) :
    (separator.intercalate xs).Sublist (separator.intercalate ys) := by
  induction h with
  | nil => simp
  | @cons x y xs ys hxy hrest ih =>
    rcases ys with _ | ⟨z, ys⟩
    · cases hrest
      simpa using hxy
    · have hlonger : (separator.intercalate (y :: z :: ys)) =
          y ++ separator ++ separator.intercalate (z :: ys) := List.intercalate_cons_cons
      rcases xs with _ | ⟨w, xs⟩
      · rw [hlonger, List.intercalate_singleton, List.append_assoc]
        exact hxy.trans (List.sublist_append_left y _)
      · rw [hlonger, List.intercalate_cons_cons]
        exact (hxy.append_right separator).append ih
  | @cons_right y xs ys hrest ih =>
    rcases ys with _ | ⟨z, ys⟩
    · cases hrest
      simp
    · rw [List.intercalate_cons_cons]
      exact ih.trans (List.sublist_append_right _ _)

/-- Parts that are dropped or lose characters leave no new characters in a joined text. -/
theorem toList_join_sublist {separator : Char} {kept parts : List String}
    (h : List.SublistForall₂ (fun s t => s.toList.Sublist t.toList) kept parts) :
    (join separator kept).toList.Sublist (join separator parts).toList := by
  rw [toList_join, toList_join]
  refine intercalate_sublist ?_
  rw [List.sublistForall₂_map_left_iff, List.sublistForall₂_map_right_iff]
  exact h

theorem utf8ByteSize_le_of_sublist {s t : String} (h : s.toList.Sublist t.toList) :
    s.utf8ByteSize ≤ t.utf8ByteSize := by
  rw [← String.utf8Len_toList, ← String.utf8Len_toList]
  exact String.utf8Len_le_of_sublist h

end Text

/-! ## Tokens -/

namespace SortTerm

/-- A token with one plus sign taken off its front, if it has one there. -/
def withoutPlus (token : String) : String :=
  match token.toList with
  | '+' :: rest => String.ofList rest
  | _ => token

theorem withoutPlus_of_plus {token : String} {cs : List Char} (h : token.toList = '+' :: cs) :
    withoutPlus token = String.ofList cs := by
  rw [withoutPlus]
  split
  · next rest hrest =>
    rw [h, List.cons.injEq] at hrest
    rw [hrest.2]
  · next hne => exact absurd h (hne cs)

theorem withoutPlus_of_minus {token : String} {cs : List Char} (h : token.toList = '-' :: cs) :
    withoutPlus token = token := by
  rw [withoutPlus]
  split
  · next rest hrest =>
    rw [h] at hrest
    cases hrest
  · rfl

/-- Without its plus sign, a token is the term as a client writes it, whatever signs the names of
the term begin with. -/
theorem withoutPlus_signed (t : SortTerm) : withoutPlus t.signed = t.written := by
  rcases t with ⟨path, _ | _⟩
  · have htoken : (signed ⟨path, .ascending⟩).toList = '+' :: (key ⟨path, .ascending⟩).toList := by
      simp [signed]
    rw [withoutPlus_of_plus htoken, String.ofList_toList, written_ascending]
  · exact withoutPlus_of_minus (toList_written_descending path)

theorem comma_not_mem_signed {t : SortTerm} (h : IsSortPath t.path) : ',' ∉ t.signed.toList := by
  have hkey : ',' ∉ t.key.toList := by
    intro hmem
    obtain hdot | ⟨name, hname, hcomma⟩ := Text.mem_of_mem_join hmem
    · exact absurd hdot (by decide)
    · exact h.no_comma name hname hcomma
  rcases t with ⟨path, _ | _⟩ <;> simpa [signed] using hkey

end SortTerm

/-! ## Specifications -/

namespace SortSpec

/-- The tokens of a specification, without their plus signs, as a sort text. -/
def canonical (s : SortSpec) : String :=
  Text.join ',' ((Text.pieces ',' s.signedTokens).map SortTerm.withoutPlus)

/-- Cut at its commas, the text of the tokens gives one token for each term. -/
theorem pieces_signedTokens {raw : String} {spec : SortSpec} (h : parse raw = .ok spec) :
    Text.pieces ',' spec.signedTokens = spec.terms.map SortTerm.signed := by
  refine Text.pieces_join (by simpa using spec.terms_ne_nil) fun token htoken => ?_
  obtain ⟨term, hterm, rfl⟩ := List.mem_map.1 htoken
  exact SortTerm.comma_not_mem_signed (isSortPath_of_parse h hterm)

/-- The canonical form of what is read from a text consists of the parts of the text. -/
theorem canonical_of_parse {raw : String} {spec : SortSpec} (h : parse raw = .ok spec) :
    spec.canonical = Text.join ',' (parts raw) := by
  have hwritten : ∀ part, SortTerm.withoutPlus (SortTerm.ofText part).signed = part := by
    intro part
    rw [SortTerm.withoutPlus_signed, (SortTerm.ofText_spec part).1]
  rw [canonical, pieces_signedTokens h, terms_of_parse h, List.map_map, List.map_map]
  exact congrArg (Text.join ',') (List.map_id'' hwritten _)

/-- Parts are trimmed already, and none of them is empty or has a comma in it.  So the text that
they make up has just these parts. -/
theorem parts_join_parts {raw : String} (h : parts raw ≠ []) :
    parts (Text.join ',' (parts raw)) = parts raw := by
  have htrim : ∀ part ∈ parts raw, Text.trim part = part := by
    intro part hpart
    obtain ⟨piece, -, rfl⟩ := List.mem_map.1 (List.mem_filter.1 hpart).1
    exact (Text.isTrimmed_trim piece).trim_eq
  have hpieces : Text.pieces ',' (Text.join ',' (parts raw)) = parts raw :=
    Text.pieces_join h fun _ => no_comma_of_mem_parts
  rw [parts, hpieces, List.map_congr_left htrim, List.map_id', List.filter_eq_self]
  exact fun part hpart => (List.mem_filter.1 hpart).2

/-- The parts are cut from the text, and blanks, commas or both may have been around them. -/
theorem utf8ByteSize_join_parts_le (raw : String) :
    (Text.join ',' (parts raw)).utf8ByteSize ≤ raw.utf8ByteSize := by
  have hparts : List.SublistForall₂ (fun s t => s.toList.Sublist t.toList) (parts raw)
      (Text.pieces ',' raw) := by
    rw [parts_eq, List.sublistForall₂_map_left_iff, List.sublistForall₂_iff]
    refine ⟨segments raw, ?_, List.filter_sublist⟩
    exact List.forall₂_same.2 fun segment _ => Text.trim_sublist segment
  have hsublist : (Text.join ',' (parts raw)).toList.Sublist
      (Text.join ',' (Text.pieces ',' raw)).toList := Text.toList_join_sublist hparts
  rw [Text.join_pieces] at hsublist
  exact Text.utf8ByteSize_le_of_sublist hsublist

/-- The canonical form is no longer than the text and is read as the same specification. -/
theorem parse_canonical {raw : String} {spec : SortSpec} (h : parse raw = .ok spec) :
    spec.canonical.utf8ByteSize ≤ raw.utf8ByteSize ∧ parse spec.canonical = .ok spec := by
  obtain ⟨hshort, hterms⟩ := parse_eq_ok_iff.1 h
  have hne : parts raw ≠ [] := by
    intro hnil
    rw [hnil] at hterms
    exact spec.terms_ne_nil hterms
  have hsize := utf8ByteSize_join_parts_le raw
  rw [canonical_of_parse h]
  refine ⟨hsize, parse_eq_ok_iff.2 ⟨hsize.trans hshort, ?_⟩⟩
  rw [parts_join_parts hne, hterms]

/-- The tokens lead back to the specification through its canonical form. -/
theorem eq_of_signedTokens_eq {raw otherRaw : String} {spec other : SortSpec}
    (h : parse raw = .ok spec) (hother : parse otherRaw = .ok other)
    (htokens : other.signedTokens = spec.signedTokens) : other = spec := by
  have hsame : parse other.canonical = parse spec.canonical := by
    rw [canonical, canonical, htokens]
  rw [(parse_canonical hother).2, (parse_canonical h).2] at hsame
  exact Except.ok.inj hsame

/-- **The canonical form of a sort text.**  A specification that was read from a text has one token
for each term, also if its tokens are cut at the commas.  Without plus signs the tokens make up a
text that is no longer than the first one and is read as the same specification.  So no other
specification that can be read from a text has the same tokens or is shown in the same way. -/
theorem canonical_form {raw : String} {spec : SortSpec} (h : parse raw = .ok spec) :
    (Text.pieces ',' spec.signedTokens).length = spec.size ∧
      spec.canonical.utf8ByteSize ≤ raw.utf8ByteSize ∧
      parse spec.canonical = .ok spec ∧
      ∀ otherRaw other, parse otherRaw = .ok other →
        (other.signedTokens = spec.signedTokens → other = spec) ∧
        (toString other = toString spec → other = spec) := by
  obtain ⟨hsize, hparse⟩ := parse_canonical h
  refine ⟨?_, hsize, hparse, fun otherRaw other hother => ?_⟩
  · rw [pieces_signedTokens h, List.length_map, size]
  · have hunique := eq_of_signedTokens_eq h hother
    exact ⟨hunique, hunique⟩

/-- Signs at the front of names, a sign alone, blanks behind a sign and around a part, and parts
without anything in them. -/
theorem canonical_form_signs_and_blanks :
    let raw := " --x,+y ,, - z.,-"
    let spec : SortSpec := ⟨[⟨["-x"], .descending⟩, ⟨["+y"], .ascending⟩, ⟨[" z", ""], .descending⟩,
      ⟨[""], .descending⟩], List.cons_ne_nil _ _⟩
    parse raw = .ok spec ∧ spec.canonical = "--x,+y,- z.,-" ∧ parse spec.canonical = .ok spec := by
  intro raw spec
  have hraw : parse raw = .ok spec := parse_eq_ok_iff.2 (by decide +kernel)
  exact ⟨hraw, by decide +kernel, (canonical_form hraw).2.2.1⟩

end SortSpec
end ListQuery
