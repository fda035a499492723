import Mathlib.Data.List.TakeWhile
import ListQuery.Text.Blank

/-!
# What trimming leaves

`Text.trim` drops blanks from the front of a text and then, on the reversed text, from its back.
Described without saying how it is done, it leaves the one part of the text that neither begins nor
ends with a blank and has nothing but blanks around it.

* `Text.IsTrimmed` — a text has no blanks at its ends.
* `Text.Trims` — a text, and the part of it between the blanks at its ends.
* `Text.trims_iff` — **this part is what trimming leaves**: there is one, and no other.
* `Text.trim_blanks_around`, `Text.trim_sublist` — blanks that are put around a text make no
  difference, and nothing is left that was not there.
* `Text.trim_ne_empty_iff` — something is left if and only if not all characters are blanks.
-/

set_option autoImplicit false
namespace ListQuery
namespace Text

/-- A text that neither begins nor ends with a blank.  The empty text is one. -/
structure IsTrimmed (t : String) : Prop where
  head : ∀ c, t.toList.head? = some c → isBlank c = false
  last : ∀ c, t.toList.getLast? = some c → isBlank c = false

/-- `t` is what stands in `s` between the blanks at both ends. -/
structure Trims (s t : String) : Prop where
  between : ∃ front back, s.toList = front ++ (t.toList ++ back) ∧ (∀ c ∈ front, isBlank c) ∧
    ∀ c ∈ back, isBlank c
  trimmed : IsTrimmed t

/-! ## Blanks at the front -/

theorem dropBlanks_append {front : List Char} (h : ∀ c ∈ front, isBlank c) (cs : List Char) :
    dropBlanks (front ++ cs) = dropBlanks cs :=
  List.dropWhile_append_of_pos h

theorem dropBlanks_of_head {cs : List Char} (h : ∀ c, cs.head? = some c → isBlank c = false) :
    dropBlanks cs = cs := by
  cases cs with
  | nil => rfl
  | cons c cs => simp [dropBlanks, h c rfl]

theorem head_dropBlanks {cs : List Char} {c : Char} (h : (dropBlanks cs).head? = some c) :
    isBlank c = false := by
  induction cs with
  | nil => simp [dropBlanks] at h
  | cons d cs ih =>
    by_cases hd : isBlank d
    · rw [dropBlanks, List.dropWhile_cons_of_pos hd] at h
      exact ih h
    · rw [dropBlanks, List.dropWhile_cons_of_neg hd, List.head?_cons, Option.some.injEq] at h
      subst h
      simpa using hd

/-- What is dropped at the front is blank. -/
theorem exists_blanks_append_dropBlanks (cs : List Char) :
    ∃ front, cs = front ++ dropBlanks cs ∧ ∀ c ∈ front, isBlank c :=
  ⟨cs.takeWhile isBlank, List.takeWhile_append_dropWhile.symm, fun _ h => List.mem_takeWhile_imp h⟩

/-! ## Blanks at both ends -/

theorem trims_trim (s : String) : Trims s (trim s) := by
  obtain ⟨front, hfront, hblank⟩ := exists_blanks_append_dropBlanks s.toList
  obtain ⟨back, hback, hblank'⟩ := exists_blanks_append_dropBlanks (dropBlanks s.toList).reverse
  have hmid : dropBlanks s.toList = (trim s).toList ++ back.reverse := by
    have h := congrArg List.reverse hback
    rw [List.reverse_reverse, List.reverse_append] at h
    rw [trim, String.toList_ofList, trimChars, ← h]
  refine ⟨⟨front, back.reverse, ?_, hblank, ?_⟩, ?_, ?_⟩
  · rw [← hmid, ← hfront]
  · intro c hc
    exact hblank' c (List.mem_reverse.1 hc)
  · -- What is left after both steps begins like what was left after the first one.
    intro c hc
    have hfirst : (dropBlanks s.toList).head? = some c := by
      rw [hmid, List.head?_append, hc, Option.some_or]
    exact head_dropBlanks hfirst
  · intro c hc
    rw [trim, String.toList_ofList, trimChars, List.getLast?_reverse] at hc
    exact head_dropBlanks hc

theorem Trims.trim_eq {s t : String} (h : Trims s t) : trim s = t := by
  obtain ⟨⟨front, back, hs, hfront, hback⟩, hhead, hlast⟩ := h
  have hfirst : dropBlanks s.toList = dropBlanks (t.toList ++ back) := by
    rw [hs, dropBlanks_append hfront]
  have hback' : ∀ c ∈ back.reverse, isBlank c := fun c hc => hback c (List.mem_reverse.1 hc)
  have hlast' : dropBlanks t.toList.reverse = t.toList.reverse := by
    refine dropBlanks_of_head fun c hc => hlast c ?_
    rwa [List.head?_reverse] at hc
  by_cases ht : t.toList = []
  · have hnone : dropBlanks s.toList = [] := by
      rw [hfirst, ht, List.nil_append]
      exact List.dropWhile_eq_nil_iff.2 hback
    rw [trim, trimChars, hnone, ← String.toList_inj, String.toList_ofList, ht]
    rfl
  · obtain ⟨d, ds, hds⟩ := List.exists_cons_of_ne_nil ht
    have hkept : dropBlanks (t.toList ++ back) = t.toList ++ back := by
      refine dropBlanks_of_head fun c hc => hhead c ?_
      rw [hds, List.cons_append, List.head?_cons] at hc
      rw [hds, List.head?_cons, hc]
    rw [trim, trimChars, hfirst, hkept, List.reverse_append, dropBlanks_append hback', hlast',
      List.reverse_reverse, String.ofList_toList]

/-- **What trimming leaves is the part between the blanks at both ends.** -/
theorem trims_iff {s t : String} : Trims s t ↔ t = trim s :=
  ⟨fun h => h.trim_eq.symm, fun h => h ▸ trims_trim s⟩

/-- A text without blanks at its ends is left as it is. -/
theorem IsTrimmed.trim_eq {t : String} (h : IsTrimmed t) : trim t = t :=
  Trims.trim_eq ⟨⟨[], [], by simp⟩, h⟩

theorem isTrimmed_trim (s : String) : IsTrimmed (trim s) :=
  (trims_trim s).trimmed

/-- Further blanks around a text do not show once it is trimmed. -/
theorem trim_blanks_around {front back : String} (hfront : ∀ c ∈ front.toList, isBlank c)
    (hback : ∀ c ∈ back.toList, isBlank c) (s : String) : trim (front ++ s ++ back) = trim s := by
  obtain ⟨⟨before, after, hs, hbefore, hafter⟩, htrimmed⟩ := trims_trim s
  refine Trims.trim_eq ⟨⟨front.toList ++ before, after ++ back.toList, ?_, ?_, ?_⟩, htrimmed⟩
  · simp [hs]
  · simpa [or_imp, forall_and] using ⟨hfront, hbefore⟩
  · simpa [or_imp, forall_and] using ⟨hafter, hback⟩

theorem trim_sublist (s : String) : (trim s).toList.Sublist s.toList := by
  obtain ⟨⟨front, back, hs, -, -⟩, -⟩ := trims_trim s
  rw [hs]
  exact (List.sublist_append_left _ back).trans (List.sublist_append_right front _)

theorem isBlankText_eq_false_iff {s : String} :
    isBlankText s = false ↔ ∃ c ∈ s.toList, isBlank c = false := by
  simp [isBlankText]

theorem trim_ne_empty_iff {s : String} : trim s ≠ "" ↔ ∃ c ∈ s.toList, isBlank c = false := by
  obtain ⟨⟨front, back, hs, hfront, hback⟩, hhead, -⟩ := trims_trim s
  constructor
  · intro hne
    obtain ⟨c, cs, hcs⟩ := List.exists_cons_of_ne_nil fun h => hne (String.toList_eq_nil_iff.1 h)
    refine ⟨c, ?_, hhead c (by rw [hcs, List.head?_cons])⟩
    simp [hs, hcs]
  · rintro ⟨c, hc, hblank⟩ hempty
    have hall : ∀ d ∈ s.toList, isBlank d := by
      intro d hd
      rw [hs, hempty, String.toList_empty, List.nil_append, List.mem_append] at hd
      exact hd.elim (hfront d) (hback d)
    rw [hall c hc] at hblank
    cases hblank

end Text
end ListQuery
