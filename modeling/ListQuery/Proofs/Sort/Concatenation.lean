import Mathlib.Logic.Relation
import ListQuery.Proofs.Sort.Grammar

/-!
# Sort texts put together

A text that consists of two sort texts with a comma between them asks for the terms of the first one
and then for those of the second one.  This also holds if one of the two is refused for having no
terms, and if both are, their common text is refused for the same reason, even if each of them is
refused as empty: the comma between them is not blank.

## What is here

* `SortSpec.parts_append_comma` — the parts of two texts with a comma between them.
* `SortSpec.Joined`, `SortSpec.joined_parse` — what becomes of such a text, by what becomes of each
  of the two.
* `SortSpec.Respaced`, `SortSpec.parts_eq_of_respaced` — blanks around a part and parts without
  anything in them make no difference.
* `SortSpec.concatenation_keeps_terms` — **concatenation and spacing**: no terms are lost, added or
  moved.
-/

set_option autoImplicit false
namespace ListQuery
namespace SortSpec

/-! ## Two texts -/

theorem parts_append_comma (a b : String) : parts (a ++ "," ++ b) = parts a ++ parts b := by
  have hpieces : Text.pieces ',' (a ++ "," ++ b) = Text.pieces ',' a ++ Text.pieces ',' b :=
    Text.pieces_of_toList_eq (by simp)
  rw [parts, parts, parts, hpieces, List.map_append, List.filter_append]

/-- A text that is refused although it is short enough has no parts. -/
theorem parts_eq_nil_of_parse {raw : String} {e : QueryError} (hshort : raw.utf8ByteSize ≤ 1024)
    (h : parse raw = .error e) : parts raw = [] := by
  by_contra hne
  have hok : parse raw = .ok ⟨(parts raw).map SortTerm.ofText, by simpa using hne⟩ :=
    parse_eq_ok_iff.2 ⟨hshort, rfl⟩
  rw [h] at hok
  cases hok

/-- A text without parts that has a comma is not refused as empty. -/
theorem parse_of_comma {raw : String} (hshort : raw.utf8ByteSize ≤ 1024) (hcomma : ',' ∈ raw.toList)
    (hparts : parts raw = []) : parse raw = .error (.invalidSort .noColumns) := by
  have houtcome := outcome_parse raw
  generalize hresult : parse raw = result at houtcome
  rcases houtcome with hblank | ⟨-, hlong⟩ | _ | ⟨spec, -, -⟩
  · exact absurd (hblank ',' hcomma) (by decide)
  · omega
  · rfl
  · have hterms := terms_of_parse hresult
    rw [hparts] at hterms
    exact absurd hterms spec.terms_ne_nil

/-- What becomes of two texts with a comma between them, by what becomes of each of the two. -/
inductive Joined : (left right both : Except QueryError SortSpec) → Prop
  /-- The terms of the first text and then those of the second one. -/
  | both {s t u : SortSpec} (hterms : u.terms = s.terms ++ t.terms) :
      Joined (.ok s) (.ok t) (.ok u)
  | left (s : SortSpec) (e : QueryError) : Joined (.ok s) (.error e) (.ok s)
  | right (e : QueryError) (t : SortSpec) : Joined (.error e) (.ok t) (.ok t)
  /-- Whatever the two faults are. -/
  | neither (e e' : QueryError) {fault : SortFault}
      (hfault : fault.reason = "no valid columns specified in sort specification") :
      Joined (.error e) (.error e') (.error (.invalidSort fault))

theorem joined_parse {a b : String} (hshort : (a ++ "," ++ b).utf8ByteSize ≤ 1024) :
    Joined (parse a) (parse b) (parse (a ++ "," ++ b)) := by
  have hsizes : a.utf8ByteSize ≤ 1024 ∧ b.utf8ByteSize ≤ 1024 := by
    rw [String.utf8ByteSize_append, String.utf8ByteSize_append] at hshort
    omega
  have hparts := parts_append_comma a b
  cases ha : parse a with
  | ok s =>
    cases hb : parse b with
    | ok t =>
      have hne : s.terms ++ t.terms ≠ [] := by simp [s.terms_ne_nil]
      have hboth : parse (a ++ "," ++ b) = .ok ⟨s.terms ++ t.terms, hne⟩ := by
        refine parse_eq_ok_iff.2 ⟨hshort, ?_⟩
        show s.terms ++ t.terms = _
        rw [hparts, List.map_append, terms_of_parse ha, terms_of_parse hb]
      rw [hboth]
      exact .both rfl
    | error e =>
      have hleft : parse (a ++ "," ++ b) = .ok s := by
        refine parse_eq_ok_iff.2 ⟨hshort, ?_⟩
        rw [hparts, parts_eq_nil_of_parse hsizes.2 hb, List.append_nil, terms_of_parse ha]
      rw [hleft]
      exact .left s e
  | error e =>
    rw [parts_eq_nil_of_parse hsizes.1 ha, List.nil_append] at hparts
    cases hb : parse b with
    | ok t =>
      have hright : parse (a ++ "," ++ b) = .ok t := by
        refine parse_eq_ok_iff.2 ⟨hshort, ?_⟩
        rw [hparts, terms_of_parse hb]
      rw [hright]
      exact .right e t
    | error e' =>
      rw [parts_eq_nil_of_parse hsizes.2 hb] at hparts
      rw [parse_of_comma hshort (by simp) hparts]
      exact .neither e e' rfl

/-! ## Blanks and empty parts -/

/-- The second text differs from the first one in its spacing, at one place. -/
inductive Respaced (raw other : String) : Prop
  /-- There are further blanks around what stands between two commas. -/
  | padded (before : List String) (front segment back : String) (after : List String)
      (hfront : ∀ c ∈ front.toList, Text.isBlank c) (hback : ∀ c ∈ back.toList, Text.isBlank c)
      (hraw : Text.pieces ',' raw = before ++ segment :: after)
      (hother : Text.pieces ',' other = before ++ (front ++ segment ++ back) :: after)
  /-- There is nothing between two further commas, in front of the text or behind it. -/
  | inserted (before after : List String) (hraw : Text.pieces ',' raw = before ++ after)
      (hother : Text.pieces ',' other = before ++ "" :: after)

theorem Respaced.parts_eq {raw other : String} (h : Respaced raw other) :
    parts raw = parts other := by
  rcases h with ⟨before, front, segment, back, after, hfront, hback, hraw, hother⟩ |
    ⟨before, after, hraw, hother⟩
  · rw [parts, parts, hraw, hother]
    simp [Text.trim_blanks_around hfront hback]
  · have hempty : Text.trim "" = "" := by decide
    rw [parts, parts, hraw, hother]
    simp [hempty]

/-- However often the spacing of a text is changed, its parts remain. -/
theorem parts_eq_of_respaced {raw other : String} (h : Relation.EqvGen Respaced raw other) :
    parts raw = parts other := by
  induction h with
  | rel _ _ h => exact h.parts_eq
  | refl _ => rfl
  | symm _ _ _ ih => exact ih.symm
  | trans _ _ _ _ _ ih ih' => exact ih.trans ih'

/-- **Concatenation and spacing.**  If they are short enough together, two texts with a comma
between them are read as the terms of the first one followed by those of the second one; a text that
is refused adds nothing to the other one; and if both are refused, their common text names no
columns.  The spacing of a text, however often it is changed, does not decide what is read as long
as the text stays short enough. -/
theorem concatenation_keeps_terms :
    (∀ a b : String, (a ++ "," ++ b).utf8ByteSize ≤ 1024 →
      Joined (parse a) (parse b) (parse (a ++ "," ++ b))) ∧
    ∀ raw other : String, Relation.EqvGen Respaced raw other →
      raw.utf8ByteSize ≤ 1024 → other.utf8ByteSize ≤ 1024 →
      ∀ spec, parse raw = .ok spec ↔ parse other = .ok spec := by
  refine ⟨fun a b => joined_parse, fun raw other hspacing hraw hother spec => ?_⟩
  rw [parse_eq_ok_iff, parse_eq_ok_iff, parts_eq_of_respaced hspacing, and_congr_left_iff]
  exact fun _ => iff_of_true hraw hother

/-- A text of blanks in front of a term adds nothing to it, and neither do a comma and a blank
around it. -/
theorem concatenation_keeps_terms_behind_blanks :
    let spec : SortSpec := ⟨[⟨["x"], .descending⟩], List.cons_ne_nil _ _⟩
    parse "\t" = .error (.invalidSort .blank) ∧ parse "-x" = .ok spec ∧
      parse ("\t" ++ "," ++ "-x") = .ok spec ∧ parse ",-x " = .ok spec := by
  intro spec
  have hblank : parse "\t" = .error (.invalidSort .blank) := parse_of_isBlankText (by decide)
  have hterm : parse "-x" = .ok spec := parse_eq_ok_iff.2 (by decide +kernel)
  obtain ⟨hjoined, hspacing⟩ := concatenation_keeps_terms
  refine ⟨hblank, hterm, ?_, ?_⟩
  · have h := hjoined "\t" "-x" (by decide +kernel)
    rw [hblank, hterm] at h
    generalize parse ("\t" ++ "," ++ "-x") = result at h
    cases h with
    | right => rfl
  · have hpadded : Respaced "-x" "-x " :=
      .padded [] "" "-x" " " [] (by simp) (List.all_eq_true.1 (by decide)) (by decide +kernel)
        (by decide +kernel)
    have hinserted : Respaced "-x " ",-x " :=
      .inserted [] ["-x "] (by decide +kernel) (by decide +kernel)
    have hsame : Relation.EqvGen Respaced "-x" ",-x " :=
      .trans _ _ _ (.rel _ _ hpadded) (.rel _ _ hinserted)
    exact (hspacing "-x" ",-x " hsame (by decide +kernel) (by decide +kernel) spec).1 hterm

end SortSpec
end ListQuery
