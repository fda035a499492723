import ListQuery.Proofs.Text.Pieces
import ListQuery.Text.Ascii
import ListQuery.Text.Case

/-!
# Dotted names in lower case

Names are compared in lower case, and a dotted name is compared either as a whole or name by name.
The two are not the same: a capital sigma becomes `ς` or `σ` by what stands around it, and a dot
does not count there.  They are the same for every key without these two letters.

* `Text.toList_lower` — without a capital sigma, every character is lowered by itself.
* `Text.eq_dot_of_mem_lowerChar`, `Text.lowerChar_dot` — lowering neither makes nor destroys dots.
* `Text.lower_join_eq_iff` — **a path in lower case is a key without sigmas if and only if its names
  in lower case are the pieces of the key**.
-/

set_option autoImplicit false
namespace ListQuery
namespace Text

/-! ## Capital sigma -/

theorem lowerAfter_of_not_mem {cs : List Char} (h : 'Σ' ∉ cs) (before : List Char) :
    lowerAfter before cs = cs.flatMap lowerChar := by
  induction cs generalizing before with
  | nil => rfl
  | cons c cs ih =>
    rw [List.mem_cons, not_or] at h
    rw [lowerAfter, if_neg (Ne.symm h.1), ih h.2, List.flatMap_cons]

theorem toList_lower {s : String} (h : 'Σ' ∉ s.toList) :
    (lower s).toList = s.toList.flatMap lowerChar := by
  rw [lower, String.toList_ofList, lowerAfter_of_not_mem h]

/-- A capital sigma leaves one of the small ones. -/
theorem small_sigma_mem_lowerAfter {cs : List Char} (h : 'Σ' ∈ cs) (before : List Char) :
    'σ' ∈ lowerAfter before cs ∨ 'ς' ∈ lowerAfter before cs := by
  induction cs generalizing before with
  | nil => cases h
  | cons c cs ih =>
    rw [lowerAfter, List.mem_append, List.mem_append]
    obtain rfl | h := List.mem_cons.1 h
    · rw [if_pos rfl]
      split
      · exact Or.inr (Or.inl List.mem_cons_self)
      · exact Or.inl (Or.inl List.mem_cons_self)
    · obtain hs | hs := ih h (c :: before)
      · exact Or.inl (Or.inr hs)
      · exact Or.inr (Or.inr hs)

/-- A text in lower case that has no sigma comes from a text that has no capital one. -/
theorem not_mem_of_lower {s key : String} (hlower : lower s = key) (hsmall : 'σ' ∉ key.toList)
    (hfinal : 'ς' ∉ key.toList) : 'Σ' ∉ s.toList := by
  intro h
  rw [← hlower, lower, String.toList_ofList] at hsmall hfinal
  obtain hs | hs := small_sigma_mem_lowerAfter h []
  · exact hsmall hs
  · exact hfinal hs

/-! ## Dots -/

/-- All lower-case forms outside ASCII lie above the dot. -/
theorem dot_lt_of_mem_lowercaseRuns :
    ∀ run ∈ lowercaseRuns, (0x2E : Int) < run.first + run.shift := by decide +kernel

theorem eq_of_ofNat_eq_dot {n : Nat} (h : Char.ofNat n = '.') : n = 0x2E := by
  by_cases hvalid : n.isValidChar
  · rw [Char.ofNat, dif_pos hvalid] at h
    exact congrArg Char.toNat h
  · rw [Char.ofNat, dif_neg hvalid] at h
    cases h

theorem eq_dot_of_toLower {c : Char} (hascii : c.toNat < 0x80) (h : c.toLower = '.') : c = '.' := by
  have hall : ∀ n < 0x80, (Char.ofNat n).toLower = '.' → Char.ofNat n = '.' := by decide
  exact forall_ascii (p := fun c => c.toLower = '.' → c = '.') hall hascii h

/-- Lowering makes no dots. -/
theorem eq_dot_of_mem_lowerChar {c : Char} (h : '.' ∈ lowerChar c) : c = '.' := by
  unfold lowerChar at h
  -- ASCII, the capital I with a dot, the runs of the table, and what has no lower case.
  split at h
  · next hascii => exact eq_dot_of_toLower hascii (List.mem_singleton.1 h).symm
  · split at h
    · simp at h
    · split at h
      · next run hrun =>
        have hlt := dot_lt_of_mem_lowercaseRuns run (List.mem_of_find?_eq_some hrun)
        have hcontains := List.find?_some hrun
        have hcode := eq_of_ofNat_eq_dot (List.mem_singleton.1 h).symm
        simp only [CaseRun.contains, Bool.and_eq_true, decide_eq_true_eq] at hcontains
        omega
      · exact (List.mem_singleton.1 h).symm

theorem lowerChar_dot : lowerChar '.' = ['.'] := by decide

/-- Without a capital sigma, a text in lower case has its pieces in lower case. -/
theorem pieces_lower {s : String} (h : 'Σ' ∉ s.toList) :
    pieces '.' (lower s) = (pieces '.' s).map lower := by
  have hpiece : ∀ piece ∈ s.toList.splitOn '.', String.ofList (piece.flatMap lowerChar) =
      lower (String.ofList piece) := by
    intro piece hp
    rw [← String.toList_inj, String.toList_ofList, toList_lower, String.toList_ofList]
    rw [String.toList_ofList]
    exact fun hsigma => h (mem_of_mem_splitOn hp hsigma)
  rw [pieces, toList_lower h, splitOn_flatMap lowerChar_dot
    (fun c hc hdot => hc (eq_dot_of_mem_lowerChar hdot)), pieces, List.map_map, List.map_map]
  exact List.map_congr_left hpiece

/-- **A path is compared name by name or as a whole.**  In lower case, its key is a given text
without sigmas if and only if its names are the pieces of that text. -/
theorem lower_join_eq_iff {path : List String} (hne : path ≠ [])
    (hdot : ∀ name ∈ path, '.' ∉ name.toList) {key : String} (hsmall : 'σ' ∉ key.toList)
    (hfinal : 'ς' ∉ key.toList) :
    lower (join '.' path) = key ↔ path.map lower = pieces '.' key := by
  constructor
  · intro h
    have hsigma := not_mem_of_lower h hsmall hfinal
    rw [← h, pieces_lower hsigma, pieces_join hne hdot]
  · intro h
    have hsigma : 'Σ' ∉ (join '.' path).toList := by
      intro hmem
      obtain hc | ⟨name, hname, hc⟩ := mem_of_mem_join hmem
      · exact absurd hc (by decide)
      · have hpiece : lower name ∈ pieces '.' key := h ▸ List.mem_map_of_mem hname
        exact not_mem_of_lower rfl (fun hs => hsmall (mem_of_mem_pieces hpiece hs))
          (fun hs => hfinal (mem_of_mem_pieces hpiece hs)) hc
    have hpieces : pieces '.' (lower (join '.' path)) = pieces '.' key := by
      rw [pieces_lower hsigma, pieces_join hne hdot, h]
    rw [← join_pieces '.' (lower (join '.' path)), hpieces, join_pieces]

end Text
end ListQuery
