/-!
# Parameters in SQL text

A parameter is written as `@` and a name. It counts only in plain text: not between quotes, not in
a comment, and not behind a doubled `@`.

* `Lexeme` — a parameter, or a run of text without one.
* `Lexeme.scan` — the lexemes of a text.
* `Lexeme.spell` — the text of lexemes; `spell_scan` says that scanning loses nothing.
-/

set_option autoImplicit false
namespace ListQuery

/-- A piece of SQL text. -/
inductive Lexeme where
  /-- Text that is copied. -/
  | plain (text : List Char)
  /-- A parameter, without its `@`. -/
  | reference (name : List Char)
  deriving DecidableEq, Repr

namespace Lexeme

/-- The characters of parameter names: ASCII letters, digits and the underscore. -/
def isNameChar (c : Char) : Bool :=
  c.isAlphanum || c == '_'

/-- The characters that open a quoted run and close it again. -/
def isQuote (c : Char) : Bool :=
  c == '\'' || c == '"' || c == '\x60'

/-- The text up to and with a closing quote, and what follows. Without one it is the whole text. -/
def throughQuote (quote : Char) : List Char → List Char × List Char
  | [] => ([], [])
  | c :: cs =>
    if c = quote then ([c], cs)
    else
      let r := throughQuote quote cs
      (c :: r.1, r.2)

/-- The text up to and with the end of a block comment, and what follows. Without an end it is the
whole text. -/
def throughComment : List Char → List Char × List Char
  | [] => ([], [])
  | '*' :: '/' :: cs => (['*', '/'], cs)
  | c :: cs =>
    let r := throughComment cs
    (c :: r.1, r.2)

/-- The first lexeme of the text `c :: cs`, and what follows it. -/
def first (c : Char) (cs : List Char) : Lexeme × List Char :=
  if isQuote c then
    let r := throughQuote c cs
    (plain (c :: r.1), r.2)
  else
    match c, cs with
    | '-', '-' :: rest =>
      (plain ('-' :: '-' :: rest.takeWhile (· != '\n')), rest.dropWhile (· != '\n'))
    | '/', '*' :: rest =>
      let r := throughComment rest
      (plain ('/' :: '*' :: r.1), r.2)
    | '@', '@' :: rest => (plain ['@', '@'], rest)
    | '@', rest =>
      if (rest.takeWhile isNameChar).isEmpty then (plain ['@'], rest)
      else (reference (rest.takeWhile isNameChar), rest.dropWhile isNameChar)
    | c, rest => (plain [c], rest)

/-- The text of a lexeme. -/
def spell : Lexeme → List Char
  | plain text => text
  | reference name => '@' :: name

theorem throughQuote_append (quote : Char) (cs : List Char) :
    (throughQuote quote cs).1 ++ (throughQuote quote cs).2 = cs := by
  induction cs with
  | nil => rfl
  | cons c cs ih => simp only [throughQuote]; split <;> simp_all

theorem throughComment_append (cs : List Char) :
    (throughComment cs).1 ++ (throughComment cs).2 = cs := by
  fun_induction throughComment cs with
  | case1 => rfl
  | case2 => rfl
  | case3 c cs r _ ih => simpa [r] using ih

/-- The first lexeme and what follows make up the text. -/
theorem first_append (c : Char) (cs : List Char) :
    (first c cs).1.spell ++ (first c cs).2 = c :: cs := by
  unfold first
  split
  · simp [spell, throughQuote_append]
  · split
    · simp [spell]
    · simp [spell, throughComment_append]
    · simp [spell]
    · split <;> simp [spell]
    · simp [spell]

theorem first_spell_ne_nil (c : Char) (cs : List Char) : (first c cs).1.spell ≠ [] := by
  unfold first
  split
  · simp [spell]
  · split <;> (try split) <;> simp [spell]

theorem first_length (c : Char) (cs : List Char) : (first c cs).2.length ≤ cs.length := by
  have h := congrArg List.length (first_append c cs)
  have := List.length_pos_iff.2 (first_spell_ne_nil c cs)
  simp only [List.length_append, List.length_cons] at h
  omega

/-- The lexemes of a text. -/
def scan : List Char → List Lexeme
  | [] => []
  | c :: cs => (first c cs).1 :: scan (first c cs).2
termination_by cs => cs.length
decreasing_by
  have := first_length c cs
  simp only [List.length_cons]
  omega

/-- Scanning splits a text and changes nothing. -/
theorem spell_scan (cs : List Char) : (scan cs).flatMap spell = cs := by
  fun_induction scan cs with
  | case1 => rfl
  | case2 c cs ih => rw [List.flatMap_cons, ih, first_append]

end Lexeme
end ListQuery
