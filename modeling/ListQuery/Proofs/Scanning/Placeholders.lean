import ListQuery.Proofs.Scanning.Binding
import ListQuery.Proofs.Scanning.Rereading

/-!
# Placeholders and their values

A placeholder does not name its value: the first one takes the first value, the second one the
second, and so on.  One slip, and every value behind it goes to the wrong place.  This file shows
that there is none, on any of the databases.

## What is here

* `Cell` — a place in a bound statement: a copied character, or a slot for a value.
* `Cell.layout` — the cells of a text, which do not depend on the database.  `Cell.fill` writes them
  with given texts in the slots.
* `bind_eq_fill` — a bound statement is its layout, with the placeholders of the database in the
  slots and the values of the slots for its values.
* `bareMarks` — where a reader finds question marks that are neither quoted nor in a comment.
* `aligned_of_bind` — **the n-th placeholder stands in the n-th slot**: the question marks of the
  one spelling and the numbers of the other, and a reader of the statement finds the slots again.
-/

set_option autoImplicit false
namespace ListQuery

/-- A place in a bound statement. -/
inductive Cell where
  | copied (c : Char) (shielded : Bool)
  | slot (v : SqlValue)

namespace Cell

/-! ## Layouts -/

/-- Slots with commas between them. -/
def listed : List SqlValue → List Cell
  | [] => []
  | [v] => [.slot v]
  | v :: w :: vs => .slot v :: .copied ',' false :: .copied ' ' false :: listed (w :: vs)

/-- The cells of a parameter. -/
def ofParam : ParamValue → List Cell
  | .scalar v => [.slot v]
  | .list [] => ['(', 'N', 'U', 'L', 'L', ')'].map (.copied · false)
  | .list (v :: vs) => .copied '(' false :: listed (v :: vs) ++ [.copied ')' false]

/-- The cells of an atom.  A parameter without a value has none. -/
def ofAtom (params : Params) : Atom → List Cell
  | .copied c shielded => [.copied c shielded]
  | .reference name => ((params.get? (String.ofList name)).map ofParam).getD []

/-- The cells of atoms. -/
def layout (params : Params) (as : List Atom) : List Cell :=
  as.flatMap (ofAtom params)

/-- The values of the slots. -/
def values : List Cell → List SqlValue
  | [] => []
  | .copied _ _ :: cells => values cells
  | .slot v :: cells => v :: values cells

/-- Writes cells, with one text after the other in the slots. -/
def fill : List Cell → (texts : List (List Char)) → List Char
  | [], _ => []
  | .copied c _ :: cells, texts => c :: fill cells texts
  | .slot _ :: cells, [] => fill cells []
  | .slot _ :: cells, text :: texts => text ++ fill cells texts

/-- Where the slots are, counted from `k`. -/
def places : (k : Nat) → List Cell → List Nat
  | _, [] => []
  | k, .copied _ _ :: cells => places (k + 1) cells
  | k, .slot _ :: cells => k :: places (k + 1) cells

@[simp] theorem values_append (cs ds : List Cell) : values (cs ++ ds) = values cs ++ values ds := by
  induction cs with
  | nil => rfl
  | cons c cs ih => cases c <;> simp [values, ih]

@[simp] theorem values_listed (vs : List SqlValue) : values (listed vs) = vs := by
  fun_induction listed vs with
  | case1 => rfl
  | case2 v => rfl
  | case3 v w vs ih => simp [values, ih]

@[simp] theorem values_ofParam (value : ParamValue) : values (ofParam value) = value.values := by
  match value with
  | .scalar v => rfl
  | .list [] => rfl
  | .list (v :: vs) => simp [ofParam, values, ParamValue.values]

theorem fill_append {cs : List Cell} {ts : List (List Char)} (h : ts.length = (values cs).length)
    (ds : List Cell) (us : List (List Char)) :
    fill (cs ++ ds) (ts ++ us) = fill cs ts ++ fill ds us := by
  induction cs generalizing ts with
  | nil =>
    rw [List.length_eq_zero_iff.1 h]
    rfl
  | cons c cs ih =>
    cases c with
    | copied c shielded => exact congrArg (c :: ·) (ih h)
    | slot v =>
      cases ts with
      | nil => cases h
      | cons t ts =>
        show t ++ fill (cs ++ ds) (ts ++ us) = (t ++ fill cs ts) ++ fill ds us
        rw [ih (Nat.succ.inj h), List.append_assoc]

theorem places_append (k : Nat) (cs ds : List Cell) :
    places k (cs ++ ds) = places k cs ++ places (k + cs.length) ds := by
  induction cs generalizing k with
  | nil => rfl
  | cons c cs ih =>
    have hk : k + 1 + cs.length = k + (c :: cs).length := by rw [List.length_cons]; omega
    cases c with
    | copied c shielded => rw [List.cons_append, places, places, ih, hk]
    | slot v => rw [List.cons_append, places, places, ih, hk, List.cons_append]

theorem length_places (k : Nat) (cs : List Cell) : (places k cs).length = (values cs).length := by
  induction cs generalizing k with
  | nil => rfl
  | cons c cs ih => cases c <;> simp [places, values, ih]

theorem layout_append (params : Params) (as bs : List Atom) :
    layout params (as ++ bs) = layout params as ++ layout params bs :=
  List.flatMap_append

theorem layout_reference {params : Params} {name : List Char} {value : ParamValue}
    (h : params.get? (String.ofList name) = some value) (as : List Atom) :
    layout params (.reference name :: as) = ofParam value ++ layout params as := by
  rw [layout, List.flatMap_cons, ofAtom, h]
  rfl

end Cell

/-! ## Bound statements -/

theorem Backend.length_placeholders (backend : Backend) (used n : Nat) :
    (backend.placeholders used n).length = n := by
  rw [placeholders, List.length_map, List.length_range']

theorem Backend.placeholders_add (backend : Backend) (used m n : Nat) :
    backend.placeholders used (m + n) =
      backend.placeholders used m ++ backend.placeholders (used + m) n := by
  rw [placeholders, placeholders, placeholders, ← List.map_append, Nat.add_right_comm,
    List.range'_append_1]

theorem fill_listed (backend : Backend) (used : Nat) (vs : List SqlValue) :
    Cell.fill (Cell.listed vs) (backend.placeholders used vs.length) =
      [',', ' '].intercalate (backend.placeholders used vs.length) := by
  fun_induction Cell.listed vs generalizing used with
  | case1 => rfl
  | case2 v => simp [Cell.fill, Backend.placeholders]
  | case3 v w vs ih =>
    rw [List.length_cons, Backend.placeholders_succ, Cell.fill, Cell.fill, Cell.fill, ih,
      List.length_cons, Backend.placeholders_succ, List.intercalate_cons_cons, List.append_assoc]
    rfl

/-- A parameter is written as its cells are. -/
theorem fill_ofParam (backend : Backend) (used : Nat) (value : ParamValue) :
    Cell.fill (Cell.ofParam value) (backend.placeholders used value.values.length) =
      value.spelled backend used := by
  match value with
  | .scalar v => exact List.append_nil _
  | .list [] => rfl
  | .list (v :: vs) =>
    have hlength : (backend.placeholders used (v :: vs).length).length =
        (Cell.values (.copied '(' false :: Cell.listed (v :: vs))).length := by
      rw [Backend.length_placeholders, Cell.values, Cell.values_listed]
    have h := Cell.fill_append hlength [.copied ')' false] []
    rw [List.append_nil, Cell.fill, fill_listed] at h
    exact h

theorem Written.eq_fill {params : Params} {backend : Backend} {used : Nat} {as : List Atom}
    {text : List Char} {values : List SqlValue} (h : Written params backend used as text values) :
    values = Cell.values (Cell.layout params as) ∧
      text = Cell.fill (Cell.layout params as) (backend.placeholders used values.length) := by
  induction h with
  | nil => exact ⟨rfl, rfl⟩
  | @copied used c shielded as text values _ ih =>
    exact ⟨ih.1, congrArg (c :: ·) ih.2⟩
  | @reference used name value as text values bound _ ih =>
    obtain ⟨hvalues, htext⟩ := ih
    rw [Cell.layout_reference bound, Cell.values_append, Cell.values_ofParam, ← hvalues,
      List.length_append, Backend.placeholders_add, Cell.fill_append, fill_ofParam, ← htext]
    · exact ⟨rfl, rfl⟩
    · rw [Backend.length_placeholders, Cell.values_ofParam]

/-- What a text is bound to on any database, once it can be bound on one. -/
theorem bind_eq_fill {params : Params} {sql : String} {backend : Backend} {st : Statement}
    (h : params.bind sql backend = .ok st) (other : Backend) :
    params.bind sql other = .ok ⟨String.ofList (Cell.fill (Cell.layout params (atoms sql))
        (other.placeholders 0 (Cell.values (Cell.layout params (atoms sql))).length)),
      Cell.values (Cell.layout params (atoms sql)), other⟩ := by
  obtain ⟨text, values, hw⟩ | ⟨name, hu⟩ := written_or_firstUnbound params other 0 (atoms sql)
  · obtain ⟨hvalues, htext⟩ := hw.eq_fill
    rw [bind_of_written hw, ← hvalues, ← htext]
  · rw [bind_of_firstUnbound hu] at h
    cases h

/-! ## Inert placeholders -/

theorem Region.isInert_of_isDigit {c : Char} (h : c.isDigit) : isInert c := by
  have hne : ∀ d : Char, d.isDigit = false → c ≠ d := by
    rintro d hd rfl
    rw [h] at hd
    cases hd
  simp [isInert, isQuiet, Lexeme.isQuote, hne]

theorem Backend.toList_placeholder (backend : Backend) (n : Nat) :
    (backend.placeholder n).toList =
      if backend = .postgres then '$' :: (naturalText n).toList else ['?'] := by
  cases backend with
  | sqlite | mysql => rw [placeholder, if_neg nofun]; rfl
  | postgres => rw [placeholder, if_pos rfl, String.toList_append]; rfl

/-- No character of a placeholder belongs to a token. -/
theorem Backend.placeholder_inert (backend : Backend) (n : Nat) :
    ∀ c ∈ (backend.placeholder n).toList, Region.isInert c := by
  intro c hc
  rw [toList_placeholder] at hc
  split at hc
  · obtain rfl | hc := List.mem_cons.1 hc
    · decide
    · rw [naturalText, String.toList_ofList] at hc
      exact Region.isInert_of_isDigit (Nat.isDigit_of_mem_toDigits (by decide) (by decide) hc)
  · obtain rfl : c = '?' := List.mem_singleton.1 hc
    decide

theorem Backend.placeholder_ne_nil (backend : Backend) (n : Nat) :
    (backend.placeholder n).toList ≠ [] := by
  rw [toList_placeholder]
  split <;> exact List.cons_ne_nil _ _

/-- What stands between the slots of a parameter is inert, is no question mark, and is read as
code. -/
theorem Cell.copied_listed (vs : List SqlValue) {c : Char} {shielded : Bool}
    (h : .copied c shielded ∈ listed vs) : Region.isInert c ∧ c ≠ '?' ∧ shielded = false := by
  fun_induction listed vs with
  | case1 => cases h
  | case2 v => cases h with | tail _ h => cases h
  | case3 v w vs ih =>
    simp only [List.mem_cons, Cell.copied.injEq, reduceCtorEq, false_or] at h
    obtain ⟨rfl, rfl⟩ | ⟨rfl, rfl⟩ | h := h
    · decide
    · decide
    · exact ih h

theorem Cell.copied_ofParam (value : ParamValue) {c : Char} {shielded : Bool}
    (h : .copied c shielded ∈ ofParam value) :
    Region.isInert c ∧ c ≠ '?' ∧ shielded = false := by
  match value with
  | .scalar v => cases h with | tail _ h => cases h
  | .list [] =>
    have hall : ['(', 'N', 'U', 'L', 'L', ')'].all (fun d => Region.isInert d && d != '?') := by
      decide
    obtain ⟨d, hd, he⟩ := List.mem_map.1 h
    cases he
    have hd := List.all_eq_true.1 hall c hd
    rw [Bool.and_eq_true, bne_iff_ne] at hd
    exact ⟨hd.1, hd.2, rfl⟩
  | .list (v :: vs) =>
    simp only [ofParam, List.cons_append, List.mem_cons, List.mem_append, Cell.copied.injEq,
      List.not_mem_nil, or_false] at h
    obtain ⟨rfl, rfl⟩ | h | ⟨rfl, rfl⟩ := h
    · decide
    · exact copied_listed (v :: vs) h
    · decide

/-- Cells with nothing but inert characters, and with inert text in their slots. -/
theorem Cell.fill_inert {cells : List Cell} {texts : List (List Char)}
    (hcells : ∀ c shielded, .copied c shielded ∈ cells → Region.isInert c)
    (htexts : ∀ t ∈ texts, ∀ c ∈ t, Region.isInert c) :
    ∀ c ∈ fill cells texts, Region.isInert c := by
  fun_induction fill cells texts with
  | case1 => nofun
  | case2 d shielded cells texts ih =>
    intro c hc
    obtain rfl | hc := List.mem_cons.1 hc
    · exact hcells c shielded List.mem_cons_self
    · exact ih (fun c s hcs => hcells c s (List.mem_cons_of_mem _ hcs)) htexts c hc
  | case3 v cells ih =>
    exact ih (fun c s hcs => hcells c s (List.mem_cons_of_mem _ hcs)) htexts
  | case4 v cells t texts ih =>
    intro c hc
    obtain hc | hc := List.mem_append.1 hc
    · exact htexts t List.mem_cons_self c hc
    · exact ih (fun c s hcs => hcells c s (List.mem_cons_of_mem _ hcs))
        (fun u hu => htexts u (List.mem_cons_of_mem _ hu)) c hc

theorem ParamValue.spelled_inert (backend : Backend) (used : Nat) (value : ParamValue) :
    ∀ c ∈ value.spelled backend used, Region.isInert c := by
  rw [← fill_ofParam]
  refine Cell.fill_inert (fun c shielded h => (Cell.copied_ofParam value h).1) fun t ht => ?_
  obtain ⟨k, -, rfl⟩ := List.mem_map.1 ht
  exact backend.placeholder_inert k

theorem ParamValue.spelled_ne_nil (backend : Backend) (used : Nat) (value : ParamValue) :
    value.spelled backend used ≠ [] := by
  match value with
  | .scalar v => exact backend.placeholder_ne_nil (used + 1)
  | .list [] => exact List.cons_ne_nil _ _
  | .list (v :: vs) => exact List.cons_ne_nil _ _

/-! ## Finding the placeholders again -/

/-- The positions of the question marks that are read as code, counted from `k`. -/
def marks : (k : Nat) → List Atom → List Nat
  | _, [] => []
  | k, .copied c shielded :: as =>
    if c = '?' ∧ shielded = false then k :: marks (k + 1) as else marks (k + 1) as
  | k, .reference name :: as => marks (k + 1 + name.length) as

/-- The positions of the question marks in a text that are neither quoted nor in a comment. -/
def bareMarks (sql : String) : List Nat :=
  marks 0 (atoms sql)

theorem marks_eq_nil {k : Nat} {as : List Atom} (h : marks k as = []) {c : Char}
    {shielded : Bool} (hc : .copied c shielded ∈ as) : ¬(c = '?' ∧ shielded = false) := by
  intro hmark
  fun_induction marks k as with
  | case1 => cases hc
  | case2 => cases h
  | case3 k d s as hd ih =>
    obtain he | hc := List.mem_cons.1 hc
    · cases he
      exact hd hmark
    · exact ih h hc
  | case4 k name as ih =>
    obtain he | hc := List.mem_cons.1 hc
    · cases he
    · exact ih h hc

namespace Cell

/-- A cell as it is read where question marks are written in the slots. -/
def marked : Cell → Atom
  | copied c shielded => .copied c shielded
  | slot _ => .copied '?' false

theorem map_marked {cells : List Cell}
    (h : ∀ c shielded, .copied c shielded ∈ cells → shielded = false) :
    cells.map marked = Region.bare (fill cells (List.replicate (values cells).length ['?'])) := by
  induction cells with
  | nil => rfl
  | cons cell cells ih =>
    have ih := ih fun c s hcs => h c s (List.mem_cons_of_mem _ hcs)
    cases cell with
    | copied c shielded =>
      obtain rfl := h c shielded List.mem_cons_self
      exact congrArg (.copied c false :: ·) ih
    | slot v => exact congrArg (.copied '?' false :: ·) ih

theorem marks_marked {cells : List Cell}
    (h : ∀ c shielded, .copied c shielded ∈ cells → ¬(c = '?' ∧ shielded = false)) (k : Nat) :
    marks k (cells.map marked) = places k cells := by
  induction cells generalizing k with
  | nil => rfl
  | cons cell cells ih =>
    have ih := ih (fun c s hcs => h c s (List.mem_cons_of_mem _ hcs)) (k + 1)
    cases cell with
    | copied c shielded =>
      rw [List.map_cons, marked, marks, if_neg (h c shielded List.mem_cons_self), ih, places]
    | slot v => rw [List.map_cons, marked, marks, if_pos ⟨rfl, rfl⟩, ih, places]

theorem length_fill_marks (cells : List Cell) :
    (fill cells (List.replicate (values cells).length ['?'])).length = cells.length := by
  induction cells with
  | nil => rfl
  | cons cell cells ih =>
    cases cell with
    | copied c shielded => exact congrArg (· + 1) ih
    | slot v => exact congrArg (· + 1) ih

theorem mem_layout {params : Params} {as : List Atom} {c : Char} {shielded : Bool}
    (h : .copied c shielded ∈ layout params as) :
    .copied c shielded ∈ as ∨ ∃ value, .copied c shielded ∈ ofParam value := by
  obtain ⟨a, ha, hc⟩ := List.mem_flatMap.1 h
  cases a with
  | copied d s =>
    cases List.mem_singleton.1 hc
    exact Or.inl ha
  | reference name =>
    cases hv : params.get? (String.ofList name) with
    | none => simp [ofAtom, hv] at hc
    | some value => exact Or.inr ⟨value, by simpa [ofAtom, hv] using hc⟩

end Cell

theorem Backend.placeholders_of_ne {backend : Backend} (h : backend ≠ .postgres) (used n : Nat) :
    backend.placeholders used n = List.replicate n ['?'] := by
  induction n generalizing used with
  | zero => rfl
  | succ n ih => rw [placeholders_succ, ih, toList_placeholder, if_neg h, List.replicate_succ]

theorem Backend.placeholders_postgres (used n : Nat) :
    Backend.postgres.placeholders used n =
      (List.range' (used + 1) n).map fun k => '$' :: (naturalText k).toList := by
  rw [placeholders]
  simp only [toList_placeholder, if_true]

/-- A text that is bound with question marks is read again as its layout. -/
theorem Written.expands {params : Params} {used : Nat} {as : List Atom} {text : List Char}
    {values : List SqlValue} (h : Written params .sqlite used as text values) :
    Expands as text ((Cell.layout params as).map Cell.marked) := by
  induction h with
  | nil => exact .nil
  | copied _ ih => exact .copied ih
  | @reference used name value as text values bound _ ih =>
    have hlite : Backend.sqlite ≠ .postgres := nofun
    have hmarked : (Cell.ofParam value).map Cell.marked =
        Region.bare (value.spelled .sqlite used) := by
      rw [← fill_ofParam, Backend.placeholders_of_ne hlite, ← Cell.values_ofParam]
      exact Cell.map_marked fun c s hc => (Cell.copied_ofParam value hc).2.2
    rw [Cell.layout_reference bound, List.map_append, hmarked]
    exact .reference (value.spelled_ne_nil .sqlite used) (value.spelled_inert .sqlite used) ih

theorem bareMarks_of_bind {params : Params} {sql : String} {st : Statement}
    (h : params.bind sql .sqlite = .ok st) (hsql : bareMarks sql = []) :
    bareMarks st.sql = Cell.places 0 (Cell.layout params (atoms sql)) := by
  have hatoms := (written_of_bind h).expands.atoms_eq
  rw [String.ofList_toList] at hatoms
  rw [bareMarks, hatoms]
  refine Cell.marks_marked (fun c shielded hc => ?_) 0
  obtain hc | ⟨value, hc⟩ := Cell.mem_layout hc
  · exact marks_eq_nil hsql hc
  · exact fun hmark => (Cell.copied_ofParam value hc).2.1 hmark.1

/-! ## Alignment -/

/-- How far behind the beginning of a parameter its `j`-th placeholder is, counted from zero, where
placeholders are question marks. -/
def ParamValue.offset : ParamValue → (j : Nat) → Nat
  | scalar _, _ => 0
  | list _, j => 1 + 3 * j

theorem Cell.places_listed (k : Nat) (vs : List SqlValue) :
    places k (listed vs) = (List.range vs.length).map fun j => k + 3 * j := by
  fun_induction listed vs generalizing k with
  | case1 => rfl
  | case2 v => rfl
  | case3 v w vs ih =>
    have hrange : List.range (v :: w :: vs).length =
        0 :: (List.range (w :: vs).length).map Nat.succ := List.range_succ_eq_map
    rw [places, places, places, ih, hrange, List.map_cons, List.map_map]
    refine congrArg (k :: ·) ?_
    refine List.map_congr_left fun j _ => ?_
    show k + 1 + 1 + 1 + 3 * j = k + 3 * (j + 1)
    omega

theorem Cell.places_ofParam (k : Nat) (value : ParamValue) :
    places k (ofParam value) =
      (List.range value.values.length).map fun j => k + value.offset j := by
  match value with
  | .scalar v => rfl
  | .list [] => rfl
  | .list (v :: vs) =>
    rw [ofParam, places_append, places, places_listed, places, places, List.append_nil]
    refine List.map_congr_left fun j _ => ?_
    show k + 1 + 3 * j = k + (1 + 3 * j)
    omega

section

variable (params : Params) (sql : String)

/-- The number of values that the parameters of some atoms bind. -/
def bound (as : List Atom) : Nat :=
  (Cell.values (Cell.layout params as)).length

/-- A text is bound to `marked` where placeholders are question marks, and to `numbered` where they
are numbers: but for the database that they name, the two differ only in what stands in the
slots. -/
structure Aligned (marked numbered : Statement) : Prop where
  sqlite : params.bind sql .sqlite = .ok marked
  mysql : params.bind sql .mysql = .ok { marked with backend := .mysql }
  postgres : params.bind sql .postgres = .ok numbered
  /-- The values are those of the slots, in the order of the slots. -/
  values : marked.values = Cell.values (Cell.layout params (atoms sql))
  numbered_values : numbered.values = marked.values
  marked_text : marked.sql.toList = Cell.fill (Cell.layout params (atoms sql))
    (List.replicate marked.values.length ['?'])
  /-- The numbers run from one to the number of values. -/
  numbered_text : numbered.sql.toList = Cell.fill (Cell.layout params (atoms sql))
    ((List.range' 1 marked.values.length).map fun k => '$' :: (naturalText k).toList)
  /-- A parameter takes up the numbers behind those of the parameters before it, and leaves off
  where those behind it begin. -/
  numbered_at : ∀ before name value after, atoms sql = before ++ .reference name :: after →
    params.get? (String.ofList name) = some value →
    numbered.sql.toList =
      Cell.fill (Cell.layout params before)
          (Backend.postgres.placeholders 0 (bound params before)) ++
        (value.spelled .postgres (bound params before) ++
          Cell.fill (Cell.layout params after) (Backend.postgres.placeholders
            (bound params before + value.values.length) (bound params after)))

/-- A reader of `marked` finds as many question marks as there are values, and each of them where
the parameter is written that has supplied its value. -/
structure MarksAligned (marked : Statement) : Prop where
  places : bareMarks marked.sql = Cell.places 0 (Cell.layout params (atoms sql))
  length : (bareMarks marked.sql).length = marked.values.length
  /-- The `j`-th value of a parameter is the next one but `j` behind those of the parameters before
  it, and its question mark is found at its place behind what is written before the parameter. -/
  mark_at : ∀ before name value after, atoms sql = before ++ .reference name :: after →
    params.get? (String.ofList name) = some value → ∀ j v, value.values[j]? = some v →
    marked.values[bound params before + j]? = some v ∧
      (bareMarks marked.sql)[bound params before + j]? =
        some ((Cell.fill (Cell.layout params before)
          (List.replicate (bound params before) ['?'])).length + value.offset j)

end

theorem fill_reference {params : Params} {sql : String} {before after : List Atom}
    {name : List Char} {value : ParamValue}
    (hsql : atoms sql = before ++ .reference name :: after)
    (hvalue : params.get? (String.ofList name) = some value) (backend : Backend) :
    Cell.fill (Cell.layout params (atoms sql))
        (backend.placeholders 0 (bound params (atoms sql))) =
      Cell.fill (Cell.layout params before) (backend.placeholders 0 (bound params before)) ++
        (value.spelled backend (bound params before) ++
          Cell.fill (Cell.layout params after) (backend.placeholders
            (bound params before + value.values.length) (bound params after))) := by
  have hbound : bound params (atoms sql) =
      bound params before + (value.values.length + bound params after) := by
    rw [bound, hsql, Cell.layout_append, Cell.layout_reference hvalue, Cell.values_append,
      Cell.values_append, Cell.values_ofParam, List.length_append, List.length_append]
    rfl
  rw [hbound, Backend.placeholders_add, Backend.placeholders_add, Nat.zero_add, hsql,
    Cell.layout_append, Cell.layout_reference hvalue,
    Cell.fill_append (backend.length_placeholders 0 (bound params before)), Cell.fill_append,
    fill_ofParam]
  rw [Backend.length_placeholders, Cell.values_ofParam]

theorem marksAligned_of_bind {params : Params} {sql : String} {st : Statement}
    (h : params.bind sql .sqlite = .ok st)
    (hvalues : st.values = Cell.values (Cell.layout params (atoms sql)))
    (hsql : bareMarks sql = []) : MarksAligned params sql st := by
  have hplaces := bareMarks_of_bind h hsql
  refine ⟨hplaces, ?_, fun before name value after hatoms hvalue j v hj => ?_⟩
  · rw [hplaces, Cell.length_places, hvalues]
  · have hlt : j < value.values.length := (List.getElem?_eq_some_iff.1 hj).1
    rw [hplaces, hvalues, hatoms, Cell.layout_append, Cell.layout_reference hvalue]
    constructor
    · rw [bound, Cell.values_append, Cell.values_append, Cell.values_ofParam,
        List.getElem?_append_right (Nat.le_add_right _ _), Nat.add_sub_cancel_left,
        List.getElem?_append_left hlt, hj]
    · have hbefore : (Cell.places 0 (Cell.layout params before)).length = bound params before :=
        Cell.length_places 0 _
      rw [Cell.places_append, Cell.places_append, List.getElem?_append_right (by omega), hbefore,
        Nat.add_sub_cancel_left, Nat.zero_add, Cell.places_ofParam,
        List.getElem?_append_left (by simpa using hlt), List.getElem?_map, List.getElem?_range hlt,
        bound, Cell.length_fill_marks]
      rfl

/-- **Placeholders and values are aligned.**  If a text can be bound on one database, it can be
bound on all of them, to statements that differ only in the database that they name and in what is
written in the slots of one layout.  If it has no question mark in code, the question marks that a
reader finds in the statement are the slots. -/
theorem aligned_of_bind {params : Params} {sql : String} {backend : Backend} {st : Statement}
    (h : params.bind sql backend = .ok st) :
    ∃ marked numbered, Aligned params sql marked numbered ∧
      (bareMarks sql = [] → MarksAligned params sql marked) := by
  have hsqlite := bind_eq_fill h .sqlite
  have hmysql := bind_eq_fill h .mysql
  have hpostgres := bind_eq_fill h .postgres
  rw [Backend.placeholders_of_ne (show Backend.sqlite ≠ .postgres from nofun)] at hsqlite
  rw [Backend.placeholders_of_ne (show Backend.mysql ≠ .postgres from nofun)] at hmysql
  refine ⟨_, _, ⟨hsqlite, hmysql, hpostgres, rfl, rfl, String.toList_ofList, ?_, ?_⟩,
    marksAligned_of_bind hsqlite rfl⟩
  · rw [String.toList_ofList, Backend.placeholders_postgres]
  · intro before name value after hatoms hvalue
    rw [String.toList_ofList]
    exact fill_reference hatoms hvalue .postgres

theorem aligned_of_bind_list_and_comment :
    let params : Params :=
      ⟨[("name", .scalar (.string "Ada")), ("ids", .list [.bigInt 1, .bigInt 2])]⟩
    let sql := "SELECT '?@name' FROM t -- @a?\nWHERE i IN @ids AND n = @name"
    ∃ marked numbered, Aligned params sql marked numbered ∧ MarksAligned params sql marked := by
  intro params sql
  have hok : (params.bind sql .postgres).isOk = true := by decide +kernel
  have hsql : bareMarks sql = [] := by decide +kernel
  cases h : params.bind sql .postgres with
  | error e =>
    rw [h] at hok
    cases hok
  | ok st =>
    obtain ⟨marked, numbered, haligned, hmarks⟩ := aligned_of_bind h
    exact ⟨marked, numbered, haligned, hmarks hsql⟩

end ListQuery
