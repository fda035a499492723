import ListQuery.Proofs.Scanning.Region

/-!
# Jumping over a run and reading through it

`Lexeme.first` takes a whole lexeme off a text at once, and `Region.read` goes through the same
characters one by one.  This file shows that they agree.

* `Region.read_quoted`, `Region.read_lineComment`, `Region.read_blockComment`, `Region.read_name` —
  a reader that has entered a run comes out of it where the jump lands, whether or not the run is
  closed within the text.
* `Region.read_first` — one lexeme of the jumping scanner, read character by character.
* `unshielded_atoms` — the two give the same pieces of every text.
-/

set_option autoImplicit false
namespace ListQuery

/-- An atom without the note whether it was shielded. -/
def Atom.unshielded : Atom → Atom
  | copied c _ => copied c false
  | reference name => reference name

/-- A lexeme as atoms. -/
def Lexeme.atoms : Lexeme → List Atom
  | plain text => Region.bare text
  | reference name => [.reference name]

namespace Region

/-- The atoms of a text that is copied as part of a quoted run or of a comment. -/
def shielded (cs : List Char) : List Atom :=
  cs.map (.copied · true)

/-! ## Runs -/

theorem read_quoted (quote : Quote) (cs : List Char) :
    read (.quoted quote) cs =
      shielded (Lexeme.throughQuote quote.mark cs).1 ++
        read (.code .none) (Lexeme.throughQuote quote.mark cs).2 := by
  induction cs with
  | nil => rfl
  | cons c cs ih =>
    by_cases h : c = quote.mark
    · rw [read, step, if_pos h, Lexeme.throughQuote, if_pos h]
      rfl
    · rw [read, step, if_neg h, Lexeme.throughQuote, if_neg h, ih]
      rfl

/-- The newline after a line comment is read as code, like every newline that is met in code. -/
theorem read_lineComment (cs : List Char) :
    read .lineComment cs =
      shielded (cs.takeWhile (· != '\n')) ++ read (.code .none) (cs.dropWhile (· != '\n')) := by
  induction cs with
  | nil => rfl
  | cons c cs ih =>
    by_cases h : c = '\n'
    · subst h
      rfl
    · have hc : (c != '\n') = true := by simpa using h
      rw [read, step, if_neg h, ih, List.takeWhile_cons_of_pos (p := (· != '\n')) hc,
        List.dropWhile_cons_of_pos (p := (· != '\n')) hc]
      rfl

/-- A star matters to the next character only if that is a slash. -/
theorem read_star {cs : List Char} (h : ∀ rest, cs ≠ '/' :: rest) (star : Bool) :
    read (.blockComment star) cs = read (.blockComment false) cs := by
  cases cs with
  | nil => rfl
  | cons c cs =>
    have hc : c ≠ '/' := fun e => h cs (by rw [e])
    simp [read, step, hc]

theorem read_blockComment (cs : List Char) :
    read (.blockComment false) cs =
      shielded (Lexeme.throughComment cs).1 ++
        read (.code .none) (Lexeme.throughComment cs).2 := by
  fun_induction Lexeme.throughComment cs with
  | case1 => rfl
  | case2 cs => rfl
  | case3 c cs h r ih =>
    have hread : read (.blockComment (c = '*')) cs = read (.blockComment false) cs := by
      by_cases hc : c = '*'
      · exact read_star (fun rest e => h rest hc e) _
      · rw [decide_eq_false hc]
    rw [read, step, if_neg (by simp), hread, ih]
    rfl

theorem read_name (begun cs : List Char) :
    read (.code (.name begun)) cs =
      .reference (begun ++ cs.takeWhile Lexeme.isNameChar) ::
        read (.code .none) (cs.dropWhile Lexeme.isNameChar) := by
  induction cs generalizing begun with
  | nil => simp [read, finish]
  | cons c cs ih =>
    by_cases h : Lexeme.isNameChar c
    · rw [read, step, if_pos h, ih, List.takeWhile_cons_of_pos h, List.dropWhile_cons_of_pos h,
        List.append_assoc]
      rfl
    · rw [read, step, if_neg h, List.takeWhile_cons_of_neg h, List.dropWhile_cons_of_neg h,
        List.append_nil]
      rfl

/-! ## Tokens that are begun and not completed -/

theorem read_dash {cs : List Char} (h : ∀ rest, cs ≠ '-' :: rest) :
    read (.code .dash) cs = read (.code .none) cs := by
  cases cs with
  | nil => rfl
  | cons c cs =>
    have hc : c ≠ '-' := fun e => h cs (by rw [e])
    rw [read, step, if_neg hc, read, step]

theorem read_slash {cs : List Char} (h : ∀ rest, cs ≠ '*' :: rest) :
    read (.code .slash) cs = read (.code .none) cs := by
  cases cs with
  | nil => rfl
  | cons c cs =>
    have hc : c ≠ '*' := fun e => h cs (by rw [e])
    rw [read, step, if_neg hc, read, step]

/-- An `@` in front of anything but another one begins a parameter if a name follows, and is copied
otherwise. -/
theorem read_at {cs : List Char} (h : ∀ rest, cs ≠ '@' :: rest) :
    read (.code .at) cs =
      if (cs.takeWhile Lexeme.isNameChar).isEmpty then .copied '@' false :: read (.code .none) cs
      else .reference (cs.takeWhile Lexeme.isNameChar) ::
        read (.code .none) (cs.dropWhile Lexeme.isNameChar) := by
  cases cs with
  | nil => rfl
  | cons c cs =>
    have hc : c ≠ '@' := fun e => h cs (by rw [e])
    by_cases hn : Lexeme.isNameChar c
    · rw [read, step, if_neg hc, if_pos hn, read_name, List.takeWhile_cons_of_pos hn,
        List.dropWhile_cons_of_pos hn]
      rfl
    · rw [read, step, if_neg hc, if_neg hn, List.takeWhile_cons_of_neg hn]
      rfl

/-! ## Lexemes -/

theorem opened_of_isQuote {c : Char} (h : Lexeme.isQuote c) :
    ∃ quote : Quote, quote.mark = c ∧ opened c = .quoted quote := by
  simp only [Lexeme.isQuote, Bool.or_eq_true, beq_iff_eq] at h
  obtain (rfl | rfl) | rfl := h
  · exact ⟨.single, rfl, rfl⟩
  · exact ⟨.double, rfl, rfl⟩
  · exact ⟨.back, rfl, rfl⟩

/-- A `-` or `/` that begins no comment leaves no trace. -/
theorem read_opened {c : Char} {cs : List Char} (hquote : Lexeme.isQuote c = false)
    (hdash : ∀ rest, c = '-' → cs = '-' :: rest → False)
    (hslash : ∀ rest, c = '/' → cs = '*' :: rest → False) :
    read (opened c) cs = read (.code .none) cs := by
  simp only [Lexeme.isQuote, Bool.or_eq_false_iff, beq_eq_false_iff_ne] at hquote
  obtain ⟨⟨hsingle, hdouble⟩, hback⟩ := hquote
  simp only [opened, Quote.mark, hsingle, hdouble, hback, if_false]
  split
  · next h => exact read_dash fun rest e => hdash rest h e
  · split
    · next h => exact read_slash fun rest e => hslash rest h e
    · rfl

/-- **One lexeme, read character by character.** -/
theorem read_first (c : Char) (cs : List Char) :
    (read (.code .none) (c :: cs)).map Atom.unshielded =
      (Lexeme.first c cs).1.atoms ++
        (read (.code .none) (Lexeme.first c cs).2).map Atom.unshielded := by
  rw [read, step]
  unfold Lexeme.first
  split
  · next hq =>
    obtain ⟨quote, rfl, hopen⟩ := opened_of_isQuote hq
    have hat : quote.mark ≠ '@' := by cases quote <;> decide
    rw [fresh_of_ne hat, hopen, read_quoted]
    simp [Lexeme.atoms, bare, shielded, Atom.unshielded]
  · next hq =>
    split
    · next rest =>
      show (Atom.copied '-' false :: Atom.copied '-' false :: read .lineComment rest).map _ = _
      rw [read_lineComment]
      simp [Lexeme.atoms, bare, shielded, Atom.unshielded]
    · next rest =>
      show (Atom.copied '/' false :: Atom.copied '*' false ::
        read (.blockComment false) rest).map _ = _
      rw [read_blockComment]
      simp [Lexeme.atoms, bare, shielded, Atom.unshielded]
    · rfl
    · next hat =>
      show (read (.code .at) cs).map _ = _
      rw [read_at fun rest e => hat rest e]
      split <;> rfl
    · next hat hdash hslash _ =>
      rw [fresh_of_ne hat, List.map_append, read_opened (by simpa using hq) hdash hslash]
      rfl

end Region

/-- **Jumping and reading agree**: the pieces that the scanner cuts off a text are those that a
reader meets on its way through it. -/
theorem unshielded_atoms (sql : String) :
    (atoms sql).map Atom.unshielded = (Lexeme.scan sql.toList).flatMap Lexeme.atoms := by
  rw [atoms]
  generalize sql.toList = cs
  fun_induction Lexeme.scan cs with
  | case1 => rfl
  | case2 c cs ih => rw [Region.read_first, ih, List.flatMap_cons]

end ListQuery
