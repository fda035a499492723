import ListQuery.Sql.Lexeme

/-!
# Reading SQL text one character at a time

`Lexeme.scan` jumps: from an opening quote to the closing one, from `--` to the end of the line,
over the whole of a name.  The reader of this file never looks ahead.  It knows where it stands
and what it has begun to read, takes the next character, and moves on.

## What is here

* `Region` — where the reader stands: in code, in one of three quoted runs, in a line comment or in
  a block comment.  In code it also remembers the beginning of a token of several characters.
* `Region.step` — what a character adds to the atoms read so far, and where it leads.
* `Region.read`, `atoms` — the atoms of a text.  `Region.read_append` is what the lack of look-ahead
  buys: a text in two parts is read by reading one part after the other.
* `spell_atoms` — reading loses nothing and adds nothing.
* `Region.known_quiet`, `Region.after_quiet` — a text without special characters is copied as it
  stands and leaves the reader in plain code.
-/

set_option autoImplicit false
namespace ListQuery

/-- An indivisible piece of SQL text. -/
inductive Atom where
  /-- A character that is copied.  It is shielded if it was read inside of a quoted run or of a
  comment. -/
  | copied (c : Char) (shielded : Bool)
  /-- A parameter, without its `@`. -/
  | reference (name : List Char)
  deriving DecidableEq, Repr

/-- The text of an atom. -/
def Atom.spell : Atom → List Char
  | copied c _ => [c]
  | reference name => '@' :: name

/-- The kinds of quoted runs. -/
inductive Quote where
  | single
  | double
  | back
  deriving DecidableEq, Repr

/-- The character that opens a quoted run and closes it again. -/
def Quote.mark : Quote → Char
  | single => '\''
  | double => '"'
  | back => '\x60'

/-- The token of several characters that has been begun in code. -/
inductive Lead where
  | none
  /-- A `-`, which another one makes a line comment. -/
  | dash
  /-- A `/`, which a `*` makes a block comment. -/
  | slash
  /-- An `@`, which is not written down yet. -/
  | at
  /-- An `@` and these characters of a name, which are not written down yet. -/
  | name (begun : List Char)
  deriving DecidableEq, Repr

/-- Where a reader of SQL text stands. -/
inductive Region where
  | code (lead : Lead)
  | quoted (quote : Quote)
  | lineComment
  /-- A block comment, and whether the last character of its text is a `*`. -/
  | blockComment (star : Bool)
  deriving DecidableEq, Repr

namespace Region

/-! ## One step -/

/-- Where a character other than `@` leads from code in which nothing has been begun. -/
def opened (c : Char) : Region :=
  if c = Quote.single.mark then .quoted .single
  else if c = Quote.double.mark then .quoted .double
  else if c = Quote.back.mark then .quoted .back
  else if c = '-' then .code .dash
  else if c = '/' then .code .slash
  else .code .none

/-- Reads a character in code in which nothing has been begun. -/
def fresh (c : Char) : List Atom × Region :=
  if c = '@' then ([], .code .at) else ([.copied c false], opened c)

/-- Reads a character: the atoms that are now known, and where the reader stands. -/
def step : Region → Char → List Atom × Region
  | .code .none, c => fresh c
  | .code .dash, c => if c = '-' then ([.copied c false], .lineComment) else fresh c
  | .code .slash, c => if c = '*' then ([.copied c false], .blockComment false) else fresh c
  | .code .at, c =>
    if c = '@' then ([.copied '@' false, .copied c false], .code .none)
    else if Lexeme.isNameChar c then ([], .code (.name [c]))
    else (.copied '@' false :: (fresh c).1, (fresh c).2)
  | .code (.name begun), c =>
    if Lexeme.isNameChar c then ([], .code (.name (begun ++ [c])))
    else (.reference begun :: (fresh c).1, (fresh c).2)
  | .quoted quote, c =>
    ([.copied c true], if c = quote.mark then .code .none else .quoted quote)
  | .lineComment, c =>
    if c = '\n' then ([.copied c false], .code .none) else ([.copied c true], .lineComment)
  | .blockComment star, c =>
    ([.copied c true], if star ∧ c = '/' then .code .none else .blockComment (c = '*'))

/-- The atoms that are known only once the text has ended. -/
def finish : Region → List Atom
  | .code .at => [.copied '@' false]
  | .code (.name begun) => [.reference begun]
  | _ => []

/-- The characters that have been read and are not written down yet. -/
def pending : Region → List Char
  | .code .at => ['@']
  | .code (.name begun) => '@' :: begun
  | _ => []

theorem fresh_of_ne {c : Char} (h : c ≠ '@') : fresh c = ([.copied c false], opened c) :=
  if_neg h

theorem spell_finish (r : Region) : r.finish.flatMap Atom.spell = r.pending := by
  rcases r with ⟨_ | _ | _ | _ | _⟩ | _ | _ | _ <;> simp [finish, pending, Atom.spell]

@[simp] theorem pending_opened (c : Char) : (opened c).pending = [] := by
  unfold opened
  repeat' split
  all_goals rfl

theorem spell_fresh (c : Char) :
    (fresh c).1.flatMap Atom.spell ++ (fresh c).2.pending = [c] := by
  unfold fresh
  split
  · next h => simp [pending, h]
  · simp [Atom.spell]

/-- One step writes down what was pending and the character, or keeps them pending. -/
theorem spell_step (r : Region) (c : Char) :
    (r.step c).1.flatMap Atom.spell ++ (r.step c).2.pending = r.pending ++ [c] := by
  match r with
  | .code .none => simpa [step, pending] using spell_fresh c
  | .code .dash | .code .slash =>
    simp only [step]
    split
    · simp [Atom.spell, pending]
    · simpa [pending] using spell_fresh c
  | .code .at =>
    simp only [step]
    split
    · simp [Atom.spell, pending]
    · split
      · simp [pending]
      · simpa [pending, Atom.spell] using spell_fresh c
  | .code (.name begun) =>
    simp only [step]
    split
    · simp [pending]
    · simpa [pending, Atom.spell] using spell_fresh c
  | .quoted quote => by_cases h : c = quote.mark <;> simp [step, pending, Atom.spell, h]
  | .lineComment => by_cases h : c = '\n' <;> simp [step, pending, Atom.spell, h]
  | .blockComment star =>
    by_cases h : star ∧ c = '/' <;> simp [step, pending, Atom.spell, h]

/-! ## Reading a text -/

/-- The atoms of a text whose reader stands in a region. -/
def read : Region → List Char → List Atom
  | r, [] => r.finish
  | r, c :: cs => (r.step c).1 ++ read (r.step c).2 cs

/-- The atoms that are known when a text has been read and may go on. -/
def known : Region → List Char → List Atom
  | _, [] => []
  | r, c :: cs => (r.step c).1 ++ known (r.step c).2 cs

/-- Where the reader stands after a text. -/
def after (r : Region) (cs : List Char) : Region :=
  cs.foldl (fun r c => (r.step c).2) r

@[simp] theorem after_nil (r : Region) : r.after [] = r := rfl

@[simp] theorem after_cons (r : Region) (c : Char) (cs : List Char) :
    r.after (c :: cs) = (r.step c).2.after cs := rfl

theorem after_append (r : Region) (cs ds : List Char) :
    r.after (cs ++ ds) = (r.after cs).after ds :=
  List.foldl_append

/-- **The reader does not look ahead.**  What it makes of a text does not depend on what follows,
and what it makes of the rest depends only on where it stands. -/
theorem read_append (r : Region) (cs ds : List Char) :
    r.read (cs ++ ds) = r.known cs ++ (r.after cs).read ds := by
  induction cs generalizing r with
  | nil => rfl
  | cons c cs ih => rw [List.cons_append, read, known, after_cons, ih, List.append_assoc]

theorem read_eq_known (r : Region) (cs : List Char) :
    r.read cs = r.known cs ++ (r.after cs).finish := by
  have h := r.read_append cs []
  rwa [List.append_nil, read] at h

theorem known_append (r : Region) (cs ds : List Char) :
    r.known (cs ++ ds) = r.known cs ++ (r.after cs).known ds := by
  induction cs generalizing r with
  | nil => rfl
  | cons c cs ih => rw [List.cons_append, known, known, after_cons, ih, List.append_assoc]

theorem spell_read (r : Region) (cs : List Char) :
    (r.read cs).flatMap Atom.spell = r.pending ++ cs := by
  induction cs generalizing r with
  | nil => rw [read, spell_finish, List.append_nil]
  | cons c cs ih =>
    rw [read, List.flatMap_append, ih, ← List.append_assoc, spell_step, List.append_assoc,
      List.singleton_append]

/-! ## Text without special characters -/

/-- The characters that neither open a region in code nor begin a parameter. -/
def isQuiet (c : Char) : Bool :=
  !Lexeme.isQuote c && c != '-' && c != '/' && c != '@'

theorem opened_of_isQuiet {c : Char} (h : isQuiet c) : opened c = .code .none := by
  simp only [isQuiet, Lexeme.isQuote, Bool.and_eq_true, Bool.not_eq_true', Bool.or_eq_false_iff,
    beq_eq_false_iff_ne, bne_iff_ne, ne_eq] at h
  simp [opened, Quote.mark, h]

theorem fresh_of_isQuiet {c : Char} (h : isQuiet c) :
    fresh c = ([.copied c false], .code .none) := by
  have hat : c ≠ '@' := by
    rintro rfl
    exact absurd h (by decide)
  rw [fresh_of_ne hat, opened_of_isQuiet h]

/-- The atoms of a text that is copied as code. -/
def bare (cs : List Char) : List Atom :=
  cs.map (.copied · false)

theorem known_quiet {cs : List Char} (h : ∀ c ∈ cs, isQuiet c) :
    known (.code .none) cs = bare cs := by
  induction cs with
  | nil => rfl
  | cons c cs ih =>
    rw [known, step, fresh_of_isQuiet (h c List.mem_cons_self),
      ih fun d hd => h d (List.mem_cons_of_mem c hd)]
    rfl

theorem after_quiet {cs : List Char} (h : ∀ c ∈ cs, isQuiet c) :
    after (.code .none) cs = .code .none := by
  induction cs with
  | nil => rfl
  | cons c cs ih =>
    rw [after_cons, step, fresh_of_isQuiet (h c List.mem_cons_self),
      ih fun d hd => h d (List.mem_cons_of_mem c hd)]

end Region

/-- The atoms of a text. -/
def atoms (sql : String) : List Atom :=
  Region.read (.code .none) sql.toList

/-- **Reading loses nothing and adds nothing.** -/
theorem spell_atoms (sql : String) : (atoms sql).flatMap Atom.spell = sql.toList :=
  Region.spell_read (.code .none) sql.toList

end ListQuery
