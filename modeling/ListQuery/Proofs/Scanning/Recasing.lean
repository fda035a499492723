import Mathlib.Data.List.Forall2
import Mathlib.Data.List.TakeWhile
import ListQuery.Proofs.Params.History
import ListQuery.Proofs.Scanning.Rendering

/-!
# Parameters in other cases

Parameters are looked up without regard to case, so a text may write them in any.  But a text that
is written anew is also read anew.  This file shows that a change of case does not go further than
it should: the reader finds the same characters in the same regions and the same parameters, each in
its new case.

The reason is that a change of case makes no name longer or shorter and leaves what follows it as it
is.  So the induction goes from one name to the next, and between them the two texts are the same.

## What is here

* `Lexeme.isNameChar_toLower`, `IsName.of_sameAscii` — names remain names in any case.
* `Atom.Recased`, `Recased` — atoms, and texts, that differ in the case of parameters at most.
* `Region.AfterAt` — the three ways in which a text can go on behind an `@`.
* `Recased.atoms` — **a text with its parameters in other cases is read as just that.**
-/

set_option autoImplicit false
namespace ListQuery

/-! ## Names -/

theorem Lexeme.isNameChar_toLower (c : Char) : isNameChar c.toLower = isNameChar c :=
  Text.toLower_congr (f := isNameChar) (by decide) c

/-- A text that is compared to a name and found the same is a name. -/
theorem IsName.of_sameAscii {s name : String} (hname : IsName name)
    (h : Text.sameAscii s name = true) : IsName s := by
  rw [Text.sameAscii_iff_map] at h
  obtain ⟨hne, hchars⟩ := hname
  refine ⟨fun hnil => ?_, fun c hc => ?_⟩
  · rw [hnil, List.map_nil, eq_comm, List.map_eq_nil_iff] at h
    exact hne h
  · have hlower : c.toLower ∈ name.toList.map Char.toLower := h ▸ List.mem_map_of_mem hc
    obtain ⟨d, hd, hdc⟩ := List.mem_map.1 hlower
    rw [← Lexeme.isNameChar_toLower, ← hdc, Lexeme.isNameChar_toLower]
    exact hchars d hd

/-! ## Atoms in other cases -/

/-- The same character in the same region, or a parameter in two cases. -/
inductive Atom.Recased : (atom other : Atom) → Prop
  | copied (c : Char) (shielded : Bool) : Recased (.copied c shielded) (.copied c shielded)
  | reference {name other : List Char}
      (h : Text.sameAscii (String.ofList name) (String.ofList other) = true) :
      Recased (.reference name) (.reference other)

theorem Atom.recased_self (atom : Atom) : atom.Recased atom := by
  cases atom with
  | copied c shielded => exact .copied c shielded
  | reference name => exact .reference (Text.sameAscii_self _)

/-- The text `t` is the text `s` with its parameters written in other cases. -/
def Recased (s t : String) : Prop :=
  ∃ as, List.Forall₂ Atom.Recased (atoms s) as ∧ t.toList = as.flatMap Atom.spell

theorem exists_of_recased_copied {c : Char} {shielded : Bool} {as bs : List Atom}
    (h : List.Forall₂ Atom.Recased (.copied c shielded :: as) bs) :
    ∃ cs, bs = .copied c shielded :: cs ∧ List.Forall₂ Atom.Recased as cs := by
  obtain ⟨_, cs, ⟨⟩, htail, rfl⟩ := List.forall₂_cons_left_iff.1 h
  exact ⟨cs, rfl, htail⟩

/-- Texts that differ in the case of parameters begin alike: a parameter begins with its `@`. -/
theorem head?_spell_of_recased {as bs : List Atom} (h : List.Forall₂ Atom.Recased as bs) :
    (bs.flatMap Atom.spell).head? = (as.flatMap Atom.spell).head? := by
  cases h with
  | nil => rfl
  | cons hab _ => cases hab <;> rfl

namespace Region

theorem finish_of_pending_eq_nil {r : Region} (h : r.pending = []) : r.finish = [] := by
  match r with
  | .code .none | .code .dash | .code .slash | .quoted _ | .lineComment | .blockComment _ => rfl
  | .code .at | .code (.name _) => cases h

/-- If nothing is pending, a character is copied at once, unless it is an `@` in code. -/
theorem step_of_pending_eq_nil {r : Region} (h : r.pending = []) (c : Char) :
    (∃ shielded next, r.step c = ([.copied c shielded], next) ∧ next.pending = []) ∨
      c = '@' ∧ r.step c = ([], .code .at) := by
  have hfresh : (∃ shielded next, fresh c = ([.copied c shielded], next) ∧ next.pending = []) ∨
      c = '@' ∧ fresh c = ([], .code .at) := by
    by_cases hc : c = '@'
    · exact Or.inr ⟨hc, if_pos hc⟩
    · exact Or.inl ⟨false, opened c, fresh_of_ne hc, pending_opened c⟩
  match r with
  | .code .none => exact hfresh
  | .code .dash | .code .slash =>
    rw [step]
    split
    · exact Or.inl ⟨_, _, rfl, rfl⟩
    · exact hfresh
  | .code .at | .code (.name begun) => cases h
  | .quoted quote => by_cases hc : c = quote.mark <;> simp [step, pending, hc]
  | .lineComment => by_cases hc : c = '\n' <;> simp [step, pending, hc]
  | .blockComment star => by_cases hc : star ∧ c = '/' <;> simp [step, pending, hc]

theorem spell_read_code (cs : List Char) : (read (.code .none) cs).flatMap Atom.spell = cs :=
  spell_read (.code .none) cs

/-- What a text is read as behind an `@`. -/
inductive AfterAt : (cs : List Char) → (as : List Atom) → Prop
  /-- Another `@`: both are copied. -/
  | doubled (rest : List Char) :
      AfterAt ('@' :: rest) (.copied '@' false :: .copied '@' false :: read (.code .none) rest)
  /-- A name, to its end. -/
  | name {name : String} {rest : List Char} (hname : IsName name)
      (hstop : ∀ c, rest.head? = some c → ¬ Lexeme.isNameChar c) :
      AfterAt (name.toList ++ rest) (.reference name.toList :: read (.code .none) rest)
  /-- Neither of them. -/
  | alone {rest : List Char}
      (hstop : ∀ c, rest.head? = some c → c ≠ '@' ∧ ¬ Lexeme.isNameChar c) :
      AfterAt rest (.copied '@' false :: read (.code .none) rest)

theorem AfterAt.read_eq {cs : List Char} {as : List Atom} (h : AfterAt cs as) :
    read (.code .at) cs = as := by
  cases h with
  | doubled rest => rfl
  | @name name rest hname hstop =>
    have hopen : read (.code .at) (name.toList ++ rest) =
        read (.code .none) ('@' :: name.toList ++ rest) := rfl
    obtain ⟨hknown, hafter⟩ := known_after_reference hname
    rw [hopen, read_append, hknown, hafter, List.nil_append, read_name]
    cases rest with
    | nil => rw [List.takeWhile_nil, List.dropWhile_nil, List.append_nil]
    | cons c rest =>
      have hc := hstop c rfl
      rw [List.takeWhile_cons_of_neg hc, List.dropWhile_cons_of_neg hc, List.append_nil]
  | alone hstop =>
    cases cs with
    | nil => rfl
    | cons c cs =>
      obtain ⟨hat, hname⟩ := hstop c rfl
      rw [read, step, if_neg hat, if_neg hname]
      rfl

/-- Behind an `@` there is another one, or a name, or nothing that belongs to it. -/
theorem afterAt_read (cs : List Char) : AfterAt cs (read (.code .at) cs) := by
  suffices hcases : ∃ as, AfterAt cs as by
    obtain ⟨as, h⟩ := hcases
    rwa [h.read_eq]
  cases cs with
  | nil => exact ⟨_, .alone nofun⟩
  | cons c cs =>
    by_cases hat : c = '@'
    · subst hat
      exact ⟨_, .doubled cs⟩
    by_cases hc : Lexeme.isNameChar c
    · have hname : IsName (String.ofList ((c :: cs).takeWhile Lexeme.isNameChar)) := by
        rw [IsName, String.toList_ofList, List.takeWhile_cons_of_pos hc]
        refine ⟨List.cons_ne_nil _ _, ?_⟩
        rw [List.forall_mem_cons]
        exact ⟨hc, List.all_eq_true.1 List.all_takeWhile⟩
      have hstop : ∀ d, ((c :: cs).dropWhile Lexeme.isNameChar).head? = some d →
          ¬ Lexeme.isNameChar d := by
        intro d hd
        rw [← List.find?_not_eq_head?_dropWhile] at hd
        simpa using List.find?_some hd
      have h := AfterAt.name hname hstop
      rw [String.toList_ofList, List.takeWhile_append_dropWhile] at h
      exact ⟨_, h⟩
    · refine ⟨_, .alone fun d hd => ?_⟩
      obtain rfl := Option.some.inj hd
      exact ⟨hat, hc⟩

/-- What is read behind an `@` stays as it is if what is read from plain code does. -/
theorem read_at_of_recased {cs : List Char}
    (hrest : ∀ ds : List Char, ds.length ≤ cs.length → ∀ bs : List Atom,
      List.Forall₂ Atom.Recased (read (.code .none) ds) bs →
        read (.code .none) (bs.flatMap Atom.spell) = bs)
    {bs : List Atom} (h : List.Forall₂ Atom.Recased (read (.code .at) cs) bs) :
    read (.code .none) (bs.flatMap Atom.spell) = bs := by
  have hcases := afterAt_read cs
  generalize read (.code .at) cs = as at h hcases
  cases hcases with
  | doubled rest =>
    obtain ⟨_, rfl, hsecond⟩ := exists_of_recased_copied h
    obtain ⟨bs, rfl, htail⟩ := exists_of_recased_copied hsecond
    have hread := (AfterAt.doubled (bs.flatMap Atom.spell)).read_eq
    rwa [hrest rest (Nat.le_succ rest.length) bs htail] at hread
  | @name name rest hname hstop =>
    cases h with
    | @cons _ _ _ bs hrecased htail =>
    cases hrecased with
    | @reference _ other hsame =>
    rw [String.ofList_toList, Text.sameAscii_comm] at hsame
    have hlength : rest.length ≤ (name.toList ++ rest).length := by simp
    have hhead := head?_spell_of_recased htail
    rw [spell_read_code] at hhead
    have hread := (AfterAt.name (hname.of_sameAscii hsame) (hhead ▸ hstop)).read_eq
    rwa [hrest rest hlength bs htail, String.toList_ofList] at hread
  | alone hstop =>
    obtain ⟨bs, rfl, htail⟩ := exists_of_recased_copied h
    have hhead := head?_spell_of_recased htail
    rw [spell_read_code] at hhead
    have hread := (AfterAt.alone (hhead ▸ hstop)).read_eq
    rwa [hrest cs (Nat.le_refl cs.length) bs htail] at hread

/-- **Text that is written in another case of its parameters is read in that case**, from wherever
nothing is pending. -/
theorem read_of_recased {r : Region} (hr : r.pending = []) {cs : List Char} {bs : List Atom}
    (h : List.Forall₂ Atom.Recased (r.read cs) bs) : r.read (bs.flatMap Atom.spell) = bs := by
  induction hn : cs.length using Nat.strong_induction_on generalizing r cs bs with
  | _ n ih =>
  subst hn
  cases cs with
  | nil =>
    rw [read, finish_of_pending_eq_nil hr] at h
    cases h
    exact finish_of_pending_eq_nil hr
  | cons c cs =>
    obtain ⟨shielded, next, hstep, hnext⟩ | ⟨rfl, hstep⟩ := step_of_pending_eq_nil hr c
    · rw [read, hstep] at h
      obtain ⟨bs, rfl, htail⟩ := exists_of_recased_copied h
      show r.read (c :: bs.flatMap Atom.spell) = _
      rw [read, hstep, ih cs.length (Nat.lt_succ_self cs.length) hnext htail rfl]
      rfl
    · -- From wherever nothing is pending, an `@` is read as in plain code.
      have hread (ds : List Char) : r.read ('@' :: ds) = read (.code .at) ds := by
        rw [read, hstep]
        rfl
      have hhead := head?_spell_of_recased h
      rw [spell_read, hr] at hhead
      obtain ⟨ds, hds⟩ := List.head?_eq_some_iff.1 hhead
      rw [hread] at h
      have hcode := read_at_of_recased
        (fun ds hle bs hbs => ih ds.length (Nat.lt_succ_of_le hle) rfl hbs rfl) h
      rw [hds] at hcode ⊢
      exact (hread ds).trans hcode

end Region

/-- **A text with its parameters in other cases is read as just that.** -/
theorem Recased.atoms {s t : String} (h : Recased s t) :
    List.Forall₂ Atom.Recased (atoms s) (atoms t) := by
  obtain ⟨as, has, ht⟩ := h
  have hread : ListQuery.atoms t = as := by
    rw [ListQuery.atoms, ht]
    exact Region.read_of_recased rfl has
  rwa [hread]

end ListQuery
