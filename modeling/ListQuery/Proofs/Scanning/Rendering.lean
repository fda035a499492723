import ListQuery.Proofs.Scanning.Binding

/-!
# Binding a text piece by piece

SQL text is put together from pieces that know nothing of each other.  A piece that is read from
plain code and leads back to plain code can be bound by itself, and what it becomes does not depend
on its neighbours.

## What is here

* `QuietText`, `IsName` — the texts that are copied wherever plain code stands before them, and the
  names that parameters can have.
* `Region.Passes` — texts that are copied as they stand and lead back to plain code.
* `Renders` — a piece of text and the fragments it becomes.  Pieces are put together by
  `Renders.append`; `renders_passes`, `renders_text`, `renders_reference` and `renders_closed` are
  the pieces there are: text that is copied, quiet text above all, a parameter with quiet text
  behind it, and text in which everything is closed.
* `RendersLast` — the same for the last piece, which may end in the middle of a name.
* `RendersLast.bind` — a text that renders is bound to its fragments, on every database.
-/

set_option autoImplicit false
namespace ListQuery

/-- A text without quotes, minus signs, slashes and `@`. -/
def QuietText (s : String) : Prop :=
  ∀ c ∈ s.toList, Region.isQuiet c

instance (s : String) : Decidable (QuietText s) :=
  decidable_of_iff (s.toList.all Region.isQuiet) List.all_eq_true

theorem QuietText.append {s t : String} (hs : QuietText s) (ht : QuietText t) :
    QuietText (s ++ t) := by
  intro c hc
  rw [String.toList_append] at hc
  exact (List.mem_append.1 hc).elim (hs c) (ht c)

/-- A text that is a name in its full length once an `@` stands before it. -/
def IsName (s : String) : Prop :=
  s.toList ≠ [] ∧ ∀ c ∈ s.toList, Lexeme.isNameChar c

instance (s : String) : Decidable (IsName s) :=
  decidable_of_iff (s.toList ≠ [] ∧ s.toList.all Lexeme.isNameChar)
    (and_congr_right' List.all_eq_true)

namespace Region

/-! ## Reading names and closed texts -/

theorem ne_at_of_isNameChar {c : Char} (h : Lexeme.isNameChar c) : c ≠ '@' := by
  rintro rfl
  exact absurd h (by decide)

theorem known_after_name {cs : List Char} (h : ∀ c ∈ cs, Lexeme.isNameChar c) (begun : List Char) :
    known (.code (.name begun)) cs = [] ∧
      after (.code (.name begun)) cs = .code (.name (begun ++ cs)) := by
  induction cs generalizing begun with
  | nil => exact ⟨rfl, by rw [List.append_nil, after_nil]⟩
  | cons c cs ih =>
    have hstep : step (.code (.name begun)) c = ([], .code (.name (begun ++ [c]))) :=
      if_pos (h c List.mem_cons_self)
    obtain ⟨hknown, hafter⟩ := ih (fun d hd => h d (List.mem_cons_of_mem c hd)) (begun ++ [c])
    rw [known, after_cons, hstep, hknown, hafter, List.append_assoc]
    exact ⟨rfl, rfl⟩

/-- A parameter is not known before its name has ended. -/
theorem known_after_reference {name : String} (h : IsName name) :
    known (.code .none) ('@' :: name.toList) = [] ∧
      after (.code .none) ('@' :: name.toList) = .code (.name name.toList) := by
  obtain ⟨c, cs, hc⟩ := List.exists_cons_of_ne_nil h.1
  have hname : ∀ d ∈ c :: cs, Lexeme.isNameChar d := hc ▸ h.2
  have hfirst : Lexeme.isNameChar c := hname c List.mem_cons_self
  have hat : step (.code .at) c = ([], .code (.name [c])) := by
    rw [step, if_neg (ne_at_of_isNameChar hfirst), if_pos hfirst]
  obtain ⟨hknown, hafter⟩ :=
    known_after_name (fun d hd => hname d (List.mem_cons_of_mem c hd)) [c]
  have hopen : step (.code .none) '@' = ([], .code .at) := rfl
  rw [hc, known, known, after_cons, after_cons, hopen, hat, hknown, hafter]
  exact ⟨rfl, rfl⟩

/-- In plain code nothing is pending. -/
theorem read_of_after {r : Region} {cs : List Char} (h : r.after cs = .code .none) :
    r.read cs = r.known cs := by
  rw [read_eq_known, h]
  exact List.append_nil _

/-- Wherever plain code stands before the text, it is copied and leads back to plain code. -/
structure Passes (text : List Char) : Prop where
  after : after (.code .none) text = .code .none
  unmentioned : ∀ name, .reference name ∉ known (.code .none) text

theorem Passes.append {s t : List Char} (hs : Passes s) (ht : Passes t) : Passes (s ++ t) := by
  constructor
  · rw [after_append, hs.after, ht.after]
  · intro name h
    rw [known_append, hs.after] at h
    exact (List.mem_append.1 h).elim (hs.unmentioned name) (ht.unmentioned name)

theorem passes_quiet {s : String} (h : QuietText s) : Passes s.toList := by
  refine ⟨after_quiet h, fun name hname => ?_⟩
  rw [known_quiet h, bare] at hname
  simp at hname

/-- Whether the reader stands where only a closing mark leads back to code. -/
def isOpen : Region → Bool
  | .quoted _ | .blockComment _ => true
  | .code _ | .lineComment => false

/-- The end of a line leads back to plain code unless something is open. -/
theorem step_newline {r : Region} (h : (r.step '\n').2.isOpen = false) :
    (r.step '\n').2 = .code .none := by
  match r with
  | .code .none | .code .dash | .code .slash | .code .at | .code (.name _) | .lineComment => rfl
  | .quoted .single | .quoted .double | .quoted .back => cases h
  | .blockComment true | .blockComment false => cases h

theorem after_newline {r : Region} {cs : List Char} (hline : cs.getLast? = some '\n')
    (hclosed : (r.after cs).isOpen = false) : r.after cs = .code .none := by
  obtain ⟨ds, rfl⟩ := List.getLast?_eq_some_iff.1 hline
  rw [after_append] at hclosed ⊢
  exact step_newline hclosed

end Region

/-! ## Pieces -/

/-- Wherever plain code stands before the text, it is bound to the fragments and leads back to plain
code. -/
structure Renders (params : Params) (text : List Char) (fragments : List Fragment) : Prop where
  after : Region.after (.code .none) text = .code .none
  written : ∀ (backend : Backend) (d : Draft),
    d.writeAll params backend (Region.known (.code .none) text) = .ok (d.add backend fragments)

/-- Wherever plain code stands before the text and nothing behind it, it is bound to the
fragments. -/
def RendersLast (params : Params) (text : List Char) (fragments : List Fragment) : Prop :=
  ∀ (backend : Backend) (d : Draft),
    d.writeAll params backend (Region.read (.code .none) text) = .ok (d.add backend fragments)

namespace Draft

theorem add_nil (d : Draft) (backend : Backend) : d.add backend [] = d := by
  simp [add, Fragment.texts, Fragment.values]

theorem add_text (d : Draft) (backend : Backend) (s : String) :
    d.add backend [.text s] = ⟨d.text ++ s.toList, d.values⟩ := by
  simp [add, Fragment.texts, Fragment.values]

theorem write_reference {params : Params} {name : String} {value : ParamValue}
    (h : params.get? name = some value) (d : Draft) (backend : Backend) :
    d.write params backend (.reference name.toList) =
      .ok (d.add backend (Params.expand value)) := by
  rw [write, String.ofList_toList, h, add, texts_expand, values_expand]

end Draft

section

variable {params : Params} {s t : List Char} {fs gs : List Fragment}

theorem Renders.nil : Renders params [] [] :=
  ⟨rfl, fun backend d => by rw [Draft.add_nil]; rfl⟩

/-- **Pieces are bound one by one.** -/
theorem Renders.append (hs : Renders params s fs) (ht : Renders params t gs) :
    Renders params (s ++ t) (fs ++ gs) := by
  constructor
  · rw [Region.after_append, hs.after, ht.after]
  · intro backend d
    rw [Region.known_append, hs.after, Draft.writeAll_append, hs.written, Except.bind, ht.written,
      Draft.add_append]

theorem Renders.append_last (hs : Renders params s fs) (ht : RendersLast params t gs) :
    RendersLast params (s ++ t) (fs ++ gs) := by
  intro backend d
  rw [Region.read_append, hs.after, Draft.writeAll_append, hs.written, Except.bind, ht,
    Draft.add_append]

theorem Renders.last (hs : Renders params s fs) : RendersLast params s fs := by
  intro backend d
  rw [Region.read_of_after hs.after, hs.written]

/-- Pieces in a row, each of them rendered by itself. -/
theorem Renders.flatMap {α : Type} {xs : List α} {text : α → List Char}
    {fragments : α → List Fragment} (h : ∀ x ∈ xs, Renders params (text x) (fragments x)) :
    Renders params (xs.flatMap text) (xs.flatMap fragments) := by
  induction xs with
  | nil => exact .nil
  | cons x xs ih =>
    rw [List.flatMap_cons, List.flatMap_cons]
    exact (h x List.mem_cons_self).append (ih fun y hy => h y (List.mem_cons_of_mem x hy))

/-! ## The pieces there are -/

/-- Text that is copied. -/
theorem renders_passes {s : String} (h : Region.Passes s.toList) :
    Renders params s.toList [.text s] := by
  refine ⟨h.after, fun backend d => ?_⟩
  have hspell : (Region.known (.code .none) s.toList).flatMap Atom.spell = s.toList := by
    rw [← Region.read_of_after h.after]
    exact spell_atoms s
  rw [Draft.writeAll_copied h.unmentioned, hspell, Draft.add_text]

theorem renders_text {s : String} (h : QuietText s) : Renders params s.toList [.text s] :=
  renders_passes (Region.passes_quiet h)

/-- A parameter.  What stands behind it is quiet and does not continue its name. -/
theorem renders_reference {name : String} {value : ParamValue} (hname : IsName name)
    (hvalue : params.get? name = some value) (rest : String) (hrest : QuietText rest)
    (hend : ∃ c cs, rest.toList = c :: cs ∧ Lexeme.isNameChar c = false) :
    Renders params ('@' :: name.toList ++ rest.toList) (Params.expand value ++ [.text rest]) := by
  obtain ⟨c, cs, hcs, hc⟩ := hend
  obtain ⟨hknown, hafter⟩ := Region.known_after_reference hname
  have hquiet : Region.isQuiet c := hrest c (hcs ▸ List.mem_cons_self)
  -- The character behind the name makes the parameter known and is itself copied.
  have hstep : Region.step (.code (.name name.toList)) c =
      ([.reference name.toList, .copied c false], .code .none) := by
    rw [Region.step, if_neg (by rw [hc]; exact Bool.false_ne_true),
      Region.fresh_of_isQuiet hquiet]
  have htail : ∀ d ∈ cs, Region.isQuiet d := fun d hd => hrest d (hcs ▸ List.mem_cons_of_mem c hd)
  constructor
  · rw [Region.after_append, hafter, hcs, Region.after_cons, hstep, Region.after_quiet htail]
  · intro backend d
    have hread : Region.known (.code .none) ('@' :: name.toList ++ rest.toList) =
        .reference name.toList :: Region.bare rest.toList := by
      rw [Region.known_append, hknown, hafter, hcs, Region.known, hstep, Region.known_quiet htail]
      rfl
    rw [hread, Draft.writeAll_cons, Draft.write_reference hvalue, Except.bind, Draft.writeAll_bare,
      Draft.add_append, Draft.add_text]

/-- A parameter at the end of a text. -/
theorem rendersLast_reference {name : String} {value : ParamValue} (hname : IsName name)
    (hvalue : params.get? name = some value) :
    RendersLast params ('@' :: name.toList) (Params.expand value) := by
  obtain ⟨hknown, hafter⟩ := Region.known_after_reference hname
  intro backend d
  rw [Region.read_eq_known, hknown, hafter, List.nil_append, Region.finish, Draft.writeAll_cons,
    Draft.write_reference hvalue]
  rfl

/-- A text that ends with a line, mentions no parameter and leaves nothing open. -/
theorem renders_closed {sql : String} (hline : sql.toList.getLast? = some '\n')
    (hclosed : (Region.after (.code .none) sql.toList).isOpen = false)
    (hnone : ∀ name, .reference name ∉ atoms sql) : Renders params sql.toList [.text sql] := by
  have hafter := Region.after_newline hline hclosed
  refine renders_passes ⟨hafter, fun name h => hnone name ?_⟩
  rwa [atoms, Region.read_of_after hafter]

end

/-- **A text that renders is bound**, on every database, to the statement of its fragments. -/
theorem RendersLast.bind {params : Params} {sql : String} {fragments : List Fragment}
    (h : RendersLast params sql.toList fragments) (backend : Backend) :
    params.bind sql backend = .ok (Statement.ofFragments backend fragments) := by
  rw [bind_eq_writeAll, atoms, h, ← Draft.statement_add]
  rfl

end ListQuery
