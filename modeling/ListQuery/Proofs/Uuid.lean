import ListQuery.Proofs.Text.Pieces
import ListQuery.Text.Blank
import ListQuery.Uuid

/-!
# Identifiers in text

An identifier is written with hyphens between its groups of digits, and read by cutting the text at
the hyphens again.  Neither the values of the digits nor the hyphens depend on the case of letters,
so the text may have been written in any.

* `Text.hexDigit?_toLower`, `Uuid.ofHyphenated?_map_toLower` — case does not matter.
* `Uuid.groups`, `Uuid.ofHyphenated?_text` — what is written is read back.
* `Uuid.parse?_of_sameAscii_text` — **an identifier is read from its hyphenated form in any case**.
-/

set_option autoImplicit false
namespace ListQuery

theorem Text.hexDigit?_toLower (c : Char) : hexDigit? c.toLower = hexDigit? c :=
  toLower_congr (by decide) c

theorem Text.toLower_eq_hyphen_iff {c : Char} : c.toLower = '-' ↔ c = '-' :=
  (toLower_congr (f := fun c => c = '-') (by decide) c).to_iff

theorem Text.isBlank_toLower (c : Char) : isBlank c.toLower = isBlank c :=
  toLower_congr (by decide) c

namespace Uuid

/-! ## Case -/

theorem ofDigits?_map_toLower (cs : List Char) :
    ofDigits? (cs.map Char.toLower) = ofDigits? cs := by
  have hdigits : Text.hexDigit? ∘ Char.toLower = Text.hexDigit? := funext Text.hexDigit?_toLower
  rw [ofDigits?, ofDigits?, List.mapM_map, hdigits]

theorem ofHyphenated?_map_toLower (cs : List Char) :
    ofHyphenated? (cs.map Char.toLower) = ofHyphenated? cs := by
  have hgroups : (cs.map Char.toLower).splitOn '-' =
      (cs.splitOn '-').map (List.map Char.toLower) := by
    have hlower : List.map Char.toLower = List.flatMap fun c => [c.toLower] :=
      funext fun _ => List.map_eq_flatMap
    rw [hlower]
    refine Text.splitOn_flatMap (f := fun c => [c.toLower]) (show ['-'.toLower] = ['-'] from rfl)
      (fun c hc hmem => ?_) cs
    exact hc (Text.toLower_eq_hyphen_iff.1 (List.mem_singleton.1 hmem).symm)
  have hlengths : List.length ∘ List.map Char.toLower = List.length :=
    funext fun group => List.length_map Char.toLower
  simp only [ofHyphenated?, hgroups, List.map_map, hlengths, ← List.map_flatten,
    ofDigits?_map_toLower]

/-! ## The hyphenated form -/

variable (u : Uuid)

/-- The digits as characters. -/
def digitChars : List Char :=
  u.digits.map fun d => Nat.digitChar d.val

/-- The groups that hyphens stand between. -/
def groups : List (List Char) :=
  [(u.digitChars.drop 0).take 8, (u.digitChars.drop 8).take 4, (u.digitChars.drop 12).take 4,
    (u.digitChars.drop 16).take 4, (u.digitChars.drop 20).take 12]

theorem toList_text : u.text.toList = ['-'].intercalate u.groups :=
  String.toList_ofList

@[simp] theorem length_digitChars : u.digitChars.length = 32 := by
  rw [digitChars, List.length_map, u.length_digits]

theorem flatten_groups : u.groups.flatten = u.digitChars := by
  have hlast : (u.digitChars.drop 20).take 12 = u.digitChars.drop 20 :=
    List.take_of_length_le (by simp)
  have hjoin (start size : Nat) : (u.digitChars.drop start).take size ++
      u.digitChars.drop (start + size) = u.digitChars.drop start := by
    rw [← List.drop_drop, List.take_append_drop]
  simp only [groups, List.flatten_cons, List.flatten_nil, List.append_nil, hlast]
  rw [hjoin 16 4, hjoin 12 4, hjoin 8 4, hjoin 0 8, List.drop_zero]

theorem ofDigits?_digitChars : ofDigits? u.digitChars = some u := by
  have hdigit : ∀ d : Fin 16, Text.hexDigit? (Nat.digitChar d.val) = some d := by decide
  have hread (ds : List (Fin 16)) :
      (ds.map fun d => Nat.digitChar d.val).mapM Text.hexDigit? = some ds := by
    induction ds with
    | nil => rfl
    | cons d ds ih => rw [List.map_cons, List.mapM_cons, hdigit, ih]; rfl
  rw [ofDigits?, digitChars, hread]
  exact dif_pos u.length_digits

theorem hyphen_not_mem_digitChars : '-' ∉ u.digitChars := by
  have hdigit : ∀ d : Fin 16, Nat.digitChar d.val ≠ '-' := by decide
  intro h
  obtain ⟨d, -, hd⟩ := List.mem_map.1 h
  exact hdigit d hd

/-- **What is written is read back.** -/
theorem ofHyphenated?_text : ofHyphenated? u.text.toList = some u := by
  have hhyphen : ∀ group ∈ u.groups, '-' ∉ group := by
    intro group hgroup hmem
    refine u.hyphen_not_mem_digitChars ?_
    rw [← u.flatten_groups]
    exact List.mem_flatten_of_mem hgroup hmem
  have hlengths : u.groups.map List.length = [8, 4, 4, 4, 12] := by
    simp [groups]
  rw [ofHyphenated?, toList_text, List.splitOn_intercalate '-' hhyphen (List.cons_ne_nil _ _)]
  simp only [hlengths, if_true, flatten_groups, ofDigits?_digitChars]

theorem length_text : u.text.toList.length = 36 := by
  rw [toList_text]
  simp [groups, List.intercalate, List.intersperse]

/-- The hyphenated form is made of digits and hyphens. -/
theorem isBlank_of_mem_text {c : Char} (h : c ∈ u.text.toList) : Text.isBlank c = false := by
  have hdigit : ∀ d : Fin 16, Text.isBlank (Nat.digitChar d.val) = false := by decide
  rw [toList_text] at h
  rcases Text.mem_of_mem_intercalate h with rfl | ⟨group, hgroup, hc⟩
  · decide
  · have hchar : c ∈ u.digitChars := by
      rw [← u.flatten_groups]
      exact List.mem_flatten_of_mem hgroup hc
    obtain ⟨d, -, rfl⟩ := List.mem_map.1 hchar
    exact hdigit d

variable {u}

/-- **An identifier is read from its hyphenated form in any case.** -/
theorem parse?_of_sameAscii_text {s : String} (h : Text.sameAscii s u.text = true) :
    parse? s = some u := by
  rw [Text.sameAscii_iff_map] at h
  have hlength : s.toList.length = 36 := by
    rw [← List.length_map Char.toLower, h, List.length_map, length_text]
  have hread : ofHyphenated? s.toList = some u := by
    rw [← ofHyphenated?_map_toLower, h, ofHyphenated?_map_toLower, ofHyphenated?_text]
  simp [parse?, hlength, hread]

theorem isBlank_of_sameAscii_text {s : String} (h : Text.sameAscii s u.text = true) {c : Char}
    (hc : c ∈ s.toList) : Text.isBlank c = false := by
  rw [Text.sameAscii_iff_map] at h
  have hlower : c.toLower ∈ u.text.toList.map Char.toLower := h ▸ List.mem_map_of_mem hc
  obtain ⟨d, hd, hdc⟩ := List.mem_map.1 hlower
  rw [← Text.isBlank_toLower, ← hdc, Text.isBlank_toLower, u.isBlank_of_mem_text hd]

end Uuid
end ListQuery
