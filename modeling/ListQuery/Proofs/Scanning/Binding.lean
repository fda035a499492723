import ListQuery.Proofs.Scanning.Lexemes
import ListQuery.Sql.Params

/-!
# Binding one character at a time

`Params.bind` cuts a text into lexemes, turns each into fragments, and spells the placeholders at
the end.  `bindByCharacter` does everything at once: it reads a character, writes down what has
become known, counts the placeholders as it writes them, and gives up at the first parameter
without a value.

## What is here

* `bindByCharacter` — the reference: a `Region` and a `Draft`, moved on by every character.
* `Written` — what the text and the values of a bound statement are, atom by atom: every copied
  character as it stands, every parameter as its placeholders.
* `FirstUnbound` — the name in question is the first one of the text that has no value.
* `bind_eq_bindByCharacter` — **the two ways of binding agree** on every text, whether it is bound
  or refused, and `Written` and `FirstUnbound` say exactly when each of the two happens.
-/

set_option autoImplicit false
namespace ListQuery

/-! ## Placeholders -/

/-- The values that a parameter stands for. -/
def ParamValue.values : ParamValue → List SqlValue
  | scalar v => [v]
  | list vs => vs

/-- The placeholders of `n` values behind `used` others. -/
def Backend.placeholders (backend : Backend) (used n : Nat) : List (List Char) :=
  (List.range' (used + 1) n).map fun k => (backend.placeholder k).toList

theorem Backend.placeholders_succ (backend : Backend) (used n : Nat) :
    backend.placeholders used (n + 1) =
      (backend.placeholder (used + 1)).toList :: backend.placeholders (used + 1) n := rfl

/-- What is written for a parameter behind `used` placeholders. -/
def ParamValue.spelled (backend : Backend) (used : Nat) : ParamValue → List Char
  | scalar _ => (backend.placeholder (used + 1)).toList
  | list [] => ['(', 'N', 'U', 'L', 'L', ')']
  | list (v :: vs) =>
    '(' :: [',', ' '].intercalate (backend.placeholders used (v :: vs).length) ++ [')']

/-! ## The reference -/

/-- The part of a statement that is written so far. -/
structure Draft where
  text : List Char
  values : List SqlValue

namespace Draft

/-- Writes an atom: a character as it is, a parameter as its placeholders. -/
def write (params : Params) (backend : Backend) (d : Draft) : Atom → Except BindError Draft
  | .copied c _ => .ok ⟨d.text ++ [c], d.values⟩
  | .reference name =>
    match params.get? (String.ofList name) with
    | some value =>
      .ok ⟨d.text ++ value.spelled backend d.values.length, d.values ++ value.values⟩
    | none => .error (.unbound (String.ofList name))

/-- Writes atoms one after the other. -/
def writeAll (params : Params) (backend : Backend) (d : Draft) (as : List Atom) :
    Except BindError Draft :=
  as.foldlM (write params backend) d

/-- Reads a character and writes what has become known. -/
def read (params : Params) (backend : Backend) (state : Region × Draft) (c : Char) :
    Except BindError (Region × Draft) := do
  let d ← state.2.writeAll params backend (state.1.step c).1
  .ok ((state.1.step c).2, d)

end Draft

/-- Binds a text by reading it one character at a time. -/
def bindByCharacter (params : Params) (sql : String) (backend : Backend) :
    Except BindError Statement := do
  let (region, d) ← sql.toList.foldlM (Draft.read params backend) (.code .none, ⟨[], []⟩)
  let d ← d.writeAll params backend region.finish
  .ok ⟨String.ofList d.text, d.values, backend⟩

/-! ## The specification -/

/-- The text and the values that atoms become behind `used` placeholders. -/
inductive Written (params : Params) (backend : Backend) :
    (used : Nat) → List Atom → List Char → List SqlValue → Prop
  | nil {used : Nat} : Written params backend used [] [] []
  /-- A copied character stays as it is and where it is. -/
  | copied {used : Nat} {c : Char} {shielded : Bool} {as : List Atom} {text : List Char}
      {values : List SqlValue} (rest : Written params backend used as text values) :
      Written params backend used (.copied c shielded :: as) (c :: text) values
  /-- A parameter gives way to its placeholders, which are numbered on from `used`. -/
  | reference {used : Nat} {name : List Char} {value : ParamValue} {as : List Atom}
      {text : List Char} {values : List SqlValue}
      (bound : params.get? (String.ofList name) = some value)
      (rest : Written params backend (used + value.values.length) as text values) :
      Written params backend used (.reference name :: as) (value.spelled backend used ++ text)
        (value.values ++ values)

/-- Of the parameters in a list of atoms, the first one without a value is called `name`. -/
def FirstUnbound (params : Params) (as : List Atom) (name : String) : Prop :=
  ∃ before after, as = before ++ .reference name.toList :: after ∧ params.get? name = none ∧
    ∀ other, .reference other ∈ before → params.get? (String.ofList other) ≠ none

namespace Draft

variable {params : Params} {backend : Backend}

/-! ## Characters and atoms -/

theorem writeAll_append (d : Draft) (as bs : List Atom) :
    d.writeAll params backend (as ++ bs) =
      (d.writeAll params backend as).bind fun e => e.writeAll params backend bs :=
  List.foldlM_append

/-- Reading and writing by turns is the same as reading everything and then writing it. -/
theorem foldlM_read (r : Region) (d : Draft) (cs : List Char) :
    ((cs.foldlM (read params backend) (r, d)).bind fun s =>
        s.2.writeAll params backend s.1.finish) =
      d.writeAll params backend (r.read cs) := by
  induction cs generalizing r d with
  | nil => rfl
  | cons c cs ih =>
    rw [Region.read, writeAll_append, List.foldlM_cons]
    show ((read params backend (r, d) c).bind _).bind _ = _
    rw [read]
    cases h : d.writeAll params backend (r.step c).1 with
    | error e => rfl
    | ok e => exact ih (r.step c).2 e

theorem write_unshielded (d : Draft) (a : Atom) :
    d.write params backend a.unshielded = d.write params backend a := by
  cases a <;> rfl

theorem writeAll_unshielded (d : Draft) (as : List Atom) :
    d.writeAll params backend (as.map Atom.unshielded) = d.writeAll params backend as := by
  rw [writeAll, List.foldlM_map]
  simp only [write_unshielded]
  rfl

theorem writeAll_cons (d : Draft) (a : Atom) (as : List Atom) :
    d.writeAll params backend (a :: as) =
      (d.write params backend a).bind fun e => e.writeAll params backend as := by
  rw [writeAll, List.foldlM_cons]
  rfl

/-! ## Bound and refused texts -/

theorem writeAll_of_written {used : Nat} {as : List Atom} {text : List Char}
    {values : List SqlValue} (h : Written params backend used as text values) :
    ∀ d : Draft, d.values.length = used →
      d.writeAll params backend as = .ok ⟨d.text ++ text, d.values ++ values⟩ := by
  induction h with
  | nil =>
    intro d _
    rw [List.append_nil, List.append_nil]
    rfl
  | @copied used c shielded as text values _ ih =>
    intro d hd
    rw [writeAll_cons, write, Except.bind, ih ⟨d.text ++ [c], d.values⟩ hd, List.append_assoc,
      List.singleton_append]
  | @reference used name value as text values bound _ ih =>
    intro d hd
    rw [writeAll_cons, write, bound, hd, Except.bind,
      ih ⟨d.text ++ value.spelled backend used, d.values ++ value.values⟩ (by simp [hd]),
      List.append_assoc, List.append_assoc]

theorem writeAll_of_firstUnbound {as : List Atom} {name : String}
    (h : FirstUnbound params as name) (d : Draft) :
    d.writeAll params backend as = .error (.unbound name) := by
  obtain ⟨before, after, rfl, hnone, hbefore⟩ := h
  induction before generalizing d with
  | nil => rw [List.nil_append, writeAll_cons, write, String.ofList_toList, hnone]; rfl
  | cons a before ih =>
    have hrest : ∀ other, .reference other ∈ before → params.get? (String.ofList other) ≠ none :=
      fun other ho => hbefore other (List.mem_cons_of_mem a ho)
    rw [List.cons_append, writeAll_cons]
    cases a with
    | copied c shielded => exact ih _ hrest
    | reference other =>
      obtain ⟨value, hvalue⟩ := Option.ne_none_iff_exists'.1 (hbefore other List.mem_cons_self)
      rw [write, hvalue]
      exact ih _ hrest

end Draft

theorem FirstUnbound.cons {params : Params} {as : List Atom} {name : String}
    (h : FirstUnbound params as name) {a : Atom}
    (ha : ∀ other, a = .reference other → params.get? (String.ofList other) ≠ none) :
    FirstUnbound params (a :: as) name := by
  obtain ⟨before, after, rfl, hnone, hbefore⟩ := h
  refine ⟨a :: before, after, rfl, hnone, fun other ho => ?_⟩
  obtain h | h := List.mem_cons.1 ho
  · exact ha other h.symm
  · exact hbefore other h

/-- Either all parameters have values, and then there is something to write, or one of them is the
first that has none. -/
theorem written_or_firstUnbound (params : Params) (backend : Backend) (used : Nat)
    (as : List Atom) :
    (∃ text values, Written params backend used as text values) ∨
      ∃ name, FirstUnbound params as name := by
  induction as generalizing used with
  | nil => exact Or.inl ⟨[], [], .nil⟩
  | cons a as ih =>
    cases a with
    | copied c shielded =>
      obtain ⟨text, values, h⟩ | ⟨name, h⟩ := ih used
      · exact Or.inl ⟨c :: text, values, .copied h⟩
      · exact Or.inr ⟨name, h.cons nofun⟩
    | reference other =>
      cases hv : params.get? (String.ofList other) with
      | none => exact Or.inr ⟨String.ofList other, [], as, by simp, hv, nofun⟩
      | some value =>
        obtain ⟨text, values, h⟩ | ⟨name, h⟩ := ih (used + value.values.length)
        · exact Or.inl ⟨_, _, .reference hv h⟩
        · refine Or.inr ⟨name, h.cons fun n hn => ?_⟩
          cases hn
          rw [hv]
          exact Option.some_ne_none value

/-- What is bound has a value. -/
theorem Written.get?_ne_none {params : Params} {backend : Backend} {used : Nat} {as : List Atom}
    {text : List Char} {values : List SqlValue} (h : Written params backend used as text values)
    {name : List Char} (hname : .reference name ∈ as) :
    params.get? (String.ofList name) ≠ none := by
  induction h with
  | nil => cases hname
  | copied _ ih =>
    obtain heq | hname := List.mem_cons.1 hname
    · cases heq
    · exact ih hname
  | @reference used other value as text values bound _ ih =>
    obtain heq | hname := List.mem_cons.1 hname
    · rw [Atom.reference.inj heq, bound]
      exact Option.some_ne_none value
    · exact ih hname

theorem FirstUnbound.reference_mem {params : Params} {as : List Atom} {name : String}
    (h : FirstUnbound params as name) : .reference name.toList ∈ as := by
  obtain ⟨before, after, rfl, -, -⟩ := h
  exact List.mem_append_right before List.mem_cons_self

/-! ## Lexemes and fragments -/

theorem Fragment.texts_append (backend : Backend) (used : Nat) (fs gs : List Fragment) :
    texts backend used (fs ++ gs) =
      texts backend used fs ++ texts backend (used + (values fs).length) gs := by
  induction fs generalizing used with
  | nil => rfl
  | cons f fs ih =>
    cases f with
    | text s => rw [List.cons_append, texts, texts, values, ih, List.cons_append]
    | value v =>
      rw [List.cons_append, texts, texts, values, ih, List.cons_append, List.length_cons,
        Nat.add_assoc, Nat.add_comm 1]

theorem Fragment.values_flatMap {α : Type} (xs : List α) (fragments : α → List Fragment) :
    values (xs.flatMap fragments) = xs.flatMap fun x => values (fragments x) := by
  induction xs with
  | nil => rfl
  | cons x xs ih => rw [List.flatMap_cons, List.flatMap_cons, values_append, ih]

theorem texts_commaSeparated (backend : Backend) (used : Nat) (vs : List SqlValue) :
    (String.join (Fragment.texts backend used (Fragment.commaSeparated vs))).toList =
      [',', ' '].intercalate (backend.placeholders used vs.length) := by
  induction vs generalizing used with
  | nil => rfl
  | cons v vs ih =>
    cases vs with
    | nil => simp [Fragment.commaSeparated, Fragment.texts, Backend.placeholders]
    | cons w vs =>
      have hcomma : Fragment.commaSeparated (v :: w :: vs) =
          .value v :: .text ", " :: Fragment.commaSeparated (w :: vs) := rfl
      rw [hcomma, Fragment.texts, Fragment.texts, String.join_cons, String.join_cons,
        String.toList_append, String.toList_append, ih]
      simp only [List.length_cons, Backend.placeholders_succ, List.intercalate_cons_cons]
      rw [List.append_assoc]
      rfl

/-- A parameter is written in the same way as its fragments. -/
theorem texts_expand (backend : Backend) (used : Nat) (value : ParamValue) :
    (String.join (Fragment.texts backend used (Params.expand value))).toList =
      value.spelled backend used := by
  match value with
  | .scalar v => simp [Params.expand, Fragment.texts, ParamValue.spelled]
  | .list [] => simp [Params.expand, Fragment.texts, ParamValue.spelled]
  | .list (v :: vs) =>
    show (String.join (Fragment.texts backend used (Fragment.parenthesised (v :: vs)))).toList = _
    rw [Fragment.parenthesised, Fragment.texts_append, Fragment.texts, String.join_append,
      String.join_cons, String.toList_append, String.toList_append, texts_commaSeparated]
    simp [Fragment.texts, ParamValue.spelled]

theorem values_expand (value : ParamValue) :
    Fragment.values (Params.expand value) = value.values := by
  match value with
  | .scalar v => rfl
  | .list [] => rfl
  | .list (v :: vs) => exact Fragment.values_parenthesised (v :: vs)

namespace Draft

variable {params : Params} {backend : Backend}

/-- Writes fragments. -/
def add (backend : Backend) (d : Draft) (fs : List Fragment) : Draft :=
  ⟨d.text ++ (String.join (Fragment.texts backend d.values.length fs)).toList,
    d.values ++ Fragment.values fs⟩

theorem add_append (d : Draft) (fs gs : List Fragment) :
    d.add backend (fs ++ gs) = (d.add backend fs).add backend gs := by
  simp only [add, Fragment.texts_append, Fragment.values_append, String.join_append,
    String.toList_append, List.append_assoc, List.length_append]

/-- Without parameters there is nothing to replace. -/
theorem writeAll_copied {as : List Atom} (h : ∀ name, .reference name ∉ as) (d : Draft) :
    d.writeAll params backend as = .ok ⟨d.text ++ as.flatMap Atom.spell, d.values⟩ := by
  induction as generalizing d with
  | nil => rw [List.flatMap_nil, List.append_nil]; rfl
  | cons a as ih =>
    rw [writeAll_cons, List.flatMap_cons, ← List.append_assoc]
    cases a with
    | copied c shielded => exact ih (fun name hn => h name (List.mem_cons_of_mem _ hn)) _
    | reference name => exact absurd List.mem_cons_self (h name)

theorem writeAll_bare (d : Draft) (cs : List Char) :
    d.writeAll params backend (Region.bare cs) = .ok ⟨d.text ++ cs, d.values⟩ := by
  have hspell : (Region.bare cs).flatMap Atom.spell = cs := by
    rw [Region.bare, List.flatMap_map]
    exact List.flatMap_singleton' cs
  rw [writeAll_copied (by simp [Region.bare]), hspell]

theorem writeAll_lexeme (d : Draft) (l : Lexeme) :
    d.writeAll params backend l.atoms = (params.fragments l).map (d.add backend) := by
  cases l with
  | plain text => rw [Lexeme.atoms, writeAll_bare]; simp [Params.fragments, Except.map, add,
      Fragment.texts, Fragment.values]
  | reference name =>
    rw [Lexeme.atoms, writeAll_cons, write, Params.fragments]
    cases params.get? (String.ofList name) with
    | none => rfl
    | some value =>
      show Except.ok _ = Except.ok _
      rw [add, texts_expand, values_expand]

theorem writeAll_lexemes (d : Draft) (ls : List Lexeme) :
    d.writeAll params backend (ls.flatMap Lexeme.atoms) =
      (ls.mapM params.fragments).map fun fs => d.add backend fs.flatten := by
  induction ls generalizing d with
  | nil => simp [writeAll, Except.map, add, Fragment.texts, Fragment.values, pure, Except.pure]
  | cons l ls ih =>
    rw [List.flatMap_cons, writeAll_append, writeAll_lexeme, List.mapM_cons]
    cases params.fragments l with
    | error e => rfl
    | ok fs =>
      show (d.add backend fs).writeAll params backend _ = _
      rw [ih]
      show _ = ((ls.mapM params.fragments).bind fun gs => Except.ok (fs :: gs)).map _
      cases ls.mapM params.fragments with
      | error e => rfl
      | ok gs =>
        show Except.ok ((d.add backend fs).add backend gs.flatten) = Except.ok _
        rw [← add_append, ← List.flatten_cons]

/-- A draft as a statement for a database. -/
def statement (backend : Backend) (d : Draft) : Statement :=
  ⟨String.ofList d.text, d.values, backend⟩

theorem statement_add (fs : List Fragment) :
    (add backend ⟨[], []⟩ fs).statement backend = Statement.ofFragments backend fs := by
  simp only [add, statement, Statement.ofFragments, List.nil_append, List.length_nil,
    String.ofList_toList]

end Draft

/-! ## Binding -/

section

variable (params : Params) (sql : String) (backend : Backend)

theorem bind_eq_writeAll :
    params.bind sql backend =
      (Draft.writeAll params backend ⟨[], []⟩ (atoms sql)).map (Draft.statement backend) := by
  rw [← Draft.writeAll_unshielded, unshielded_atoms, Draft.writeAll_lexemes, Params.bind]
  cases (Lexeme.scan sql.toList).mapM params.fragments with
  | error e => rfl
  | ok fs => exact congrArg Except.ok (Draft.statement_add fs.flatten).symm

theorem bindByCharacter_eq_writeAll :
    bindByCharacter params sql backend =
      (Draft.writeAll params backend ⟨[], []⟩ (atoms sql)).map (Draft.statement backend) := by
  rw [atoms, ← Draft.foldlM_read, bindByCharacter]
  cases sql.toList.foldlM (Draft.read params backend) (.code .none, ⟨[], []⟩) with
  | error e => rfl
  | ok s =>
    show (s.2.writeAll params backend s.1.finish).bind _ =
      (s.2.writeAll params backend s.1.finish).map _
    cases s.2.writeAll params backend s.1.finish <;> rfl

variable {params sql backend}

theorem bind_of_written {text : List Char} {values : List SqlValue}
    (h : Written params backend 0 (atoms sql) text values) :
    params.bind sql backend = .ok ⟨String.ofList text, values, backend⟩ := by
  rw [bind_eq_writeAll, Draft.writeAll_of_written h ⟨[], []⟩ rfl]
  rfl

theorem bind_of_firstUnbound {name : String} (h : FirstUnbound params (atoms sql) name) :
    params.bind sql backend = .error (.unbound name) := by
  rw [bind_eq_writeAll, Draft.writeAll_of_firstUnbound h]
  rfl

/-- A text is bound to what is written for its atoms, for the database in question, and to nothing
else. -/
theorem bind_eq_ok_iff {st : Statement} :
    params.bind sql backend = .ok st ↔
      st.backend = backend ∧ Written params backend 0 (atoms sql) st.sql.toList st.values := by
  constructor
  · intro h
    obtain ⟨text, values, hw⟩ | ⟨name, hu⟩ := written_or_firstUnbound params backend 0 (atoms sql)
    · rw [bind_of_written hw, Except.ok.injEq] at h
      rw [← h, String.toList_ofList]
      exact ⟨rfl, hw⟩
    · rw [bind_of_firstUnbound hu] at h
      cases h
  · rintro ⟨rfl, h⟩
    rw [bind_of_written h, String.ofList_toList]

theorem written_of_bind {st : Statement} (h : params.bind sql backend = .ok st) :
    Written params backend 0 (atoms sql) st.sql.toList st.values :=
  (bind_eq_ok_iff.1 h).2

/-- A text is refused for the first of its parameters that has no value, and for nothing else. -/
theorem bind_eq_error_iff {name : String} :
    params.bind sql backend = .error (.unbound name) ↔ FirstUnbound params (atoms sql) name := by
  constructor
  · intro h
    obtain ⟨text, values, hw⟩ | ⟨other, hu⟩ := written_or_firstUnbound params backend 0 (atoms sql)
    · rw [bind_of_written hw] at h
      cases h
    · rw [bind_of_firstUnbound hu, Except.error.injEq, BindError.unbound.injEq] at h
      exact h ▸ hu
  · exact bind_of_firstUnbound

end

/-- **Binding reads a text one character at a time.**  It gives what the reference gives; the atoms
of the text make up the text; a bound text is written atom by atom for the database in question,
every copied character as it stands and every parameter as its placeholders; and it is refused
exactly when some parameter has no value, under the name of the first one. -/
theorem bind_eq_bindByCharacter (params : Params) (sql : String) (backend : Backend) :
    params.bind sql backend = bindByCharacter params sql backend ∧
      (atoms sql).flatMap Atom.spell = sql.toList ∧
      (∀ st : Statement, params.bind sql backend = .ok st ↔
        st.backend = backend ∧
          Written params backend 0 (atoms sql) st.sql.toList st.values) ∧
      (∀ name : String, params.bind sql backend = .error (.unbound name) ↔
        FirstUnbound params (atoms sql) name) := by
  refine ⟨?_, spell_atoms sql, fun st => bind_eq_ok_iff, fun name => bind_eq_error_iff⟩
  rw [bind_eq_writeAll, bindByCharacter_eq_writeAll]

end ListQuery
