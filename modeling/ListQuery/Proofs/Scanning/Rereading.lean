import ListQuery.Proofs.Scanning.Region

/-!
# Reading what has been written

When the parameters of a text have given way to other text, does a reader of the result find the
regions of the text it came from?  It does, as long as what stands for a parameter is not empty and
consists of inert characters, of which none begins or completes a token: the result is then read
with every copied character in the region that it had before.

* `Region.isInert` — the characters that are no part of any token but a name.
* `Expands` — a text that comes from atoms by putting inert text in the place of parameters, and the
  atoms it is expected to have.
* `Region.Follows` — where the two readers stand, the one of the text and the one of the result.
  They stand in the same place, but for a parameter or an `@` that the first has begun to read and
  the second has not seen yet.
* `Expands.atoms_eq` — **the result has the atoms that are expected of it.**
-/

set_option autoImplicit false
namespace ListQuery

namespace Region

/-- A quiet character that does not complete the beginning of a block comment either. -/
def isInert (c : Char) : Bool :=
  isQuiet c && c != '*'

theorem isQuiet_of_isInert {c : Char} (h : isInert c) : isQuiet c := by
  rw [isInert, Bool.and_eq_true] at h
  exact h.1

/-- Nothing that is pending has to be written down before the next character is looked at. -/
def Settled (r : Region) : Prop :=
  r = .code .none ∨ r = .code .dash ∨ r = .code .slash

/-- Where the reader of a result may stand while the reader of the text it comes from stands in
`r`. -/
def Follows (r r' : Region) : Prop :=
  match r with
  | .code .at | .code (.name _) => Settled r'
  | _ => r' = r

theorem follows_opened (c : Char) : Follows (opened c) (opened c) := by
  unfold opened
  repeat' split
  all_goals rfl

theorem Settled.step_at {r : Region} (h : Settled r) : r.step '@' = ([], .code .at) := by
  obtain rfl | rfl | rfl := h <;> rfl

theorem Settled.step_inert {r : Region} (h : Settled r) {c : Char} (hc : isInert c) :
    r.step c = ([.copied c false], .code .none) := by
  have hfresh := fresh_of_isQuiet (isQuiet_of_isInert hc)
  obtain rfl | rfl | rfl := h
  · exact hfresh
  · have hdash : c ≠ '-' := by
      rintro rfl
      exact absurd hc (by decide)
    rw [step, if_neg hdash, hfresh]
  · have hstar : c ≠ '*' := by
      rintro rfl
      exact absurd hc (by decide)
    rw [step, if_neg hstar, hfresh]

/-- Inert text is copied, whatever stands before it and behind it. -/
theorem Settled.read_inert {r : Region} (h : Settled r) {e : List Char} (hne : e ≠ [])
    (he : ∀ c ∈ e, isInert c) (cs : List Char) :
    r.read (e ++ cs) = bare e ++ read (.code .none) cs := by
  obtain ⟨c, e, rfl⟩ := List.exists_cons_of_ne_nil hne
  have hrest : ∀ d ∈ e, isQuiet d := fun d hd =>
    isQuiet_of_isInert (he d (List.mem_cons_of_mem c hd))
  rw [List.cons_append, read, h.step_inert (he c List.mem_cons_self), read_append,
    known_quiet hrest, after_quiet hrest]
  rfl

end Region

/-- `text` comes from atoms by putting inert text in the place of parameters.  The atoms of `text`
should then be `out`. -/
inductive Expands : List Atom → (text : List Char) → (out : List Atom) → Prop
  | nil : Expands [] [] []
  | copied {c : Char} {shielded : Bool} {as out : List Atom} {text : List Char}
      (rest : Expands as text out) :
      Expands (.copied c shielded :: as) (c :: text) (.copied c shielded :: out)
  | reference {name e : List Char} {as out : List Atom} {text : List Char}
      (ne_nil : e ≠ []) (inert : ∀ c ∈ e, Region.isInert c) (rest : Expands as text out) :
      Expands (.reference name :: as) (e ++ text) (Region.bare e ++ out)

/-- Whatever a text becomes is read as expected, wherever the readers stand. -/
def Rereads (cs : List Char) : Prop :=
  ∀ r r' : Region, Region.Follows r r' → ∀ text out, Expands (r.read cs) text out →
    r'.read text = out

namespace Expands

open Region

/-- The end of the text. -/
theorem read_finish {r r' : Region} (hf : Follows r r') {text : List Char} {out : List Atom}
    (h : Expands r.finish text out) : r'.read text = out := by
  match r with
  | .code .at =>
    cases h with
    | copied rest =>
      cases rest
      rw [Region.read, Settled.step_at hf]
      rfl
  | .code (.name begun) =>
    cases h with
    | reference hne he rest =>
      cases rest
      rw [Settled.read_inert hf hne he]
      rfl
  | .code .none | .code .dash | .code .slash | .quoted _ | .lineComment | .blockComment _ =>
    cases h
    rw [hf]
    rfl

section

variable {c : Char} {cs text : List Char} {out : List Atom}

/-- A character that is copied at once, by readers that stand in the same place. -/
theorem read_copied (ih : Rereads cs) {r next : Region} {shielded : Bool}
    (hstep : r.step c = ([.copied c shielded], next)) (hnext : Follows next next)
    (h : Expands (r.read (c :: cs)) text out) : r.read text = out := by
  rw [Region.read, hstep] at h
  cases h with
  | copied rest =>
    rw [Region.read, hstep, ih next next hnext _ _ rest]
    rfl

/-- A character that both readers take as the first of a token. -/
theorem read_fresh (ih : Rereads cs) {r' : Region} (hs : Settled r') (hstep : r'.step c = fresh c)
    (h : Expands ((fresh c).1 ++ (fresh c).2.read cs) text out) : r'.read text = out := by
  by_cases hc : c = '@'
  · subst hc
    exact ih (.code .at) r' hs text out h
  · rw [← hstep] at h
    exact read_copied ih (hstep.trans (fresh_of_ne hc)) (follows_opened c) h

/-- An `@` that the first reader has begun to read and the second one meets only now. -/
theorem read_at (ih : Rereads cs) {r' : Region} (hs : Settled r')
    (h : Expands (read (.code .at) (c :: cs)) text out) : r'.read text = out := by
  rw [Region.read] at h
  by_cases hc : c = '@'
  · rw [step, if_pos hc] at h
    cases h with
    | copied rest =>
      cases rest with
      | copied rest =>
        rw [Region.read, hs.step_at, Region.read, step, if_pos hc,
          ih (.code .none) (.code .none) rfl _ _ rest]
        rfl
  · by_cases hn : Lexeme.isNameChar c
    · rw [step, if_neg hc, if_pos hn] at h
      exact ih (.code (.name [c])) r' hs text out h
    · rw [step, if_neg hc, if_neg hn, fresh_of_ne hc] at h
      cases h with
      | copied rest =>
        cases rest with
        | copied rest =>
          rw [Region.read, hs.step_at, Region.read, step, if_neg hc, if_neg hn, fresh_of_ne hc,
            ih _ _ (follows_opened c) _ _ rest]
          rfl

/-- A name that the first reader is in, and that the second one finds replaced. -/
theorem read_name (ih : Rereads cs) {r' : Region} (hs : Settled r') {begun : List Char}
    (h : Expands (read (.code (.name begun)) (c :: cs)) text out) : r'.read text = out := by
  rw [Region.read] at h
  by_cases hn : Lexeme.isNameChar c
  · rw [step, if_pos hn] at h
    exact ih (.code (.name (begun ++ [c]))) r' hs text out h
  · rw [step, if_neg hn] at h
    cases h with
    | reference hne he rest =>
      rw [hs.read_inert hne he, read_fresh ih (Or.inl rfl) rfl rest]

end

theorem rereads (cs : List Char) : Rereads cs := by
  induction cs with
  | nil => exact fun r r' hf text out h => read_finish hf h
  | cons c cs ih =>
    intro r r' hf text out h
    match r with
    | .code .at => exact read_at ih hf h
    | .code (.name begun) => exact read_name ih hf h
    | .code .none =>
      rw [hf]
      exact read_fresh ih (Or.inl rfl) rfl h
    | .code .dash =>
      rw [hf]
      by_cases hc : c = '-'
      · have hstep : step (.code .dash) c = ([.copied c false], .lineComment) := by
          rw [step, if_pos hc]
        exact read_copied ih hstep rfl h
      · have hstep : step (.code .dash) c = fresh c := by rw [step, if_neg hc]
        rw [Region.read, hstep] at h
        exact read_fresh ih (Or.inr (Or.inl rfl)) hstep h
    | .code .slash =>
      rw [hf]
      by_cases hc : c = '*'
      · have hstep : step (.code .slash) c = ([.copied c false], .blockComment false) := by
          rw [step, if_pos hc]
        exact read_copied ih hstep rfl h
      · have hstep : step (.code .slash) c = fresh c := by rw [step, if_neg hc]
        rw [Region.read, hstep] at h
        exact read_fresh ih (Or.inr (Or.inr rfl)) hstep h
    | .quoted quote =>
      rw [hf]
      refine read_copied ih rfl ?_ h
      by_cases hc : c = quote.mark
      · rw [if_pos hc]; rfl
      · rw [if_neg hc]; rfl
    | .lineComment =>
      rw [hf]
      by_cases hc : c = '\n'
      · have hstep : step .lineComment c = ([.copied c false], .code .none) := by
          rw [step, if_pos hc]
        exact read_copied ih hstep rfl h
      · have hstep : step .lineComment c = ([.copied c true], .lineComment) := by
          rw [step, if_neg hc]
        exact read_copied ih hstep rfl h
    | .blockComment star =>
      rw [hf]
      refine read_copied ih rfl ?_ h
      by_cases hc : star ∧ c = '/'
      · rw [if_pos hc]; rfl
      · rw [if_neg hc]; rfl

/-- **A result is read like the text it comes from.** -/
theorem atoms_eq {sql : String} {text : List Char} {out : List Atom}
    (h : Expands (atoms sql) text out) : atoms (String.ofList text) = out := by
  rw [atoms, String.toList_ofList]
  exact rereads sql.toList (.code .none) (.code .none) rfl text out h

end Expands
end ListQuery
