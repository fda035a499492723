import ListQuery.Proofs.Clause.Filters
import ListQuery.Proofs.Outcome

/-!
# The text does not depend on the values

Two clients ask for the same filters with values of their own.  The text of their statements is the
same: it tells that a value is there, and of a list how long it is, and nothing else.

## What is here

* `FilterValue.Alike`, `ParamValue.Alike`, `Params.Alike` — values, and parameters with such
  values, that a text does not tell apart.
* `Params.Alike.addAll`, `Params.Alike.get?` — registering keeps parameters alike, also where a
  value of another shape is replaced, and what is found under a name is alike.
* `Fragment.Alike` — pieces that differ in a value at most; `FragmentsAlike.texts_eq` — they have
  one text.
* `Params.Alike.bind` — binding a text to parameters that are alike.
* `values_stay_out_of_text` — **two runs with values alike have one text**, and its bindings too.
-/

set_option autoImplicit false
namespace ListQuery

/-! ## Values that are alike -/

/-- Filter values that a text does not tell apart. -/
inductive FilterValue.Alike : FilterValue → FilterValue → Prop
  | inactive {v w : FilterValue} (hv : v.isActive = false) (hw : w.isActive = false) : Alike v w
  | text {s t : String} (hs : (FilterValue.text s).isActive = true)
      (ht : (FilterValue.text t).isActive = true) : Alike (.text s) (.text t)
  | list {xs ys : List Scalar} (hlength : xs.length = ys.length) (hne : xs.length ≠ 0) :
      Alike (.list xs) (.list ys)
  | flag (present : Bool) : Alike (.flag present) (.flag present)

/-- Parameter values that a text does not tell apart. -/
inductive ParamValue.Alike : ParamValue → ParamValue → Prop
  | scalar (v w : SqlValue) : Alike (.scalar v) (.scalar w)
  | list {vs ws : List SqlValue} (hlength : vs.length = ws.length) : Alike (.list vs) (.list ws)

/-- The same filters with values that are alike. -/
def FiltersAlike : (filters others : List (String × FilterValue)) → Prop :=
  List.Forall₂ fun f g => f.1 = g.1 ∧ f.2.Alike g.2

/-- The same names in the same order, with values that are alike. -/
def EntriesAlike : (entries others : List (String × ParamValue)) → Prop :=
  List.Forall₂ fun e d => e.1 = d.1 ∧ e.2.Alike d.2

/-- Parameters under the same names in the same order, with values that are alike. -/
def Params.Alike (params others : Params) : Prop :=
  EntriesAlike params.entries others.entries

/-! ## Registering and looking up -/

/-- The value that is replaced does not matter, and its shape does not. -/
theorem EntriesAlike.addEntry {entries others : List (String × ParamValue)}
    (h : EntriesAlike entries others) (name : String) {value other : ParamValue}
    (hvalue : value.Alike other) :
    EntriesAlike (Params.addEntry name value entries) (Params.addEntry name other others) := by
  induction h with
  | nil => exact .cons ⟨rfl, hvalue⟩ .nil
  | @cons e d entries others he hrest ih =>
    obtain ⟨n, v⟩ := e
    obtain ⟨m, w⟩ := d
    obtain ⟨rfl, hvw⟩ : n = m ∧ v.Alike w := he
    rw [Params.addEntry, Params.addEntry]
    -- Both sides stop at the same entry, because they compare the same names.
    split
    · exact .cons ⟨rfl, hvalue⟩ hrest
    · exact .cons ⟨rfl, hvw⟩ ih

theorem EntriesAlike.find? {entries others : List (String × ParamValue)}
    (h : EntriesAlike entries others) (name : String) :
    Option.Rel ParamValue.Alike
      ((entries.find? fun e => Text.sameAscii e.1 name).map Prod.snd)
      ((others.find? fun d => Text.sameAscii d.1 name).map Prod.snd) := by
  induction h with
  | nil => exact .none
  | @cons e d entries others he _ ih =>
    rw [List.find?_cons, List.find?_cons, ← he.1]
    cases Text.sameAscii e.1 name with
    | true => exact .some he.2
    | false => exact ih

namespace Params

variable {params others : Params}

theorem Alike.addAll (h : params.Alike others) {values values' : List (String × ParamValue)}
    (hvalues : EntriesAlike values values') :
    (params.addAll values).Alike (others.addAll values') := by
  induction hvalues generalizing params others with
  | nil => exact h
  | @cons v w values values' hvw _ ih =>
    have hadd : (params.add v.1 v.2).Alike (others.add w.1 w.2) := by
      rw [← hvw.1]
      exact EntriesAlike.addEntry h v.1 hvw.2
    exact ih hadd

/-- What is found under a name is alike, and what is missing is missing on both sides. -/
theorem Alike.get? (h : params.Alike others) (name : String) :
    Option.Rel ParamValue.Alike (params.get? name) (others.get? name) :=
  EntriesAlike.find? h name

end Params

/-! ## Filters -/

theorem filterText_eq_of_alike {value other : FilterValue} (h : value.Alike other)
    (nullCheck : Bool) (name : String) :
    filterText nullCheck (name, value) = filterText nullCheck (name, other) := by
  cases h with
  | inactive hv hw => rw [filterText_of_inactive hv, filterText_of_inactive hw]
  | text hs ht =>
    rw [filterText, filterText, filterLine, filterLine, hs, ht]
    rfl
  | list hlength hne =>
    have hactive := FilterValue.isActive_list hne
    have hactive' := FilterValue.isActive_list (hlength ▸ hne)
    rw [filterText, filterText, filterLine, filterLine, hactive, hactive']
    rfl
  | flag present => rfl

theorem FilterValue.Alike.param? {value other : FilterValue} (h : value.Alike other) :
    Option.Rel ParamValue.Alike value.param? other.param? := by
  cases h with
  | inactive hv hw =>
    rw [param?_of_inactive hv, param?_of_inactive hw]
    exact .none
  | text hs ht =>
    rw [param?_text hs, param?_text ht]
    exact .some (.scalar _ _)
  | list hlength hne =>
    rw [param?_list (isActive_list hne), param?_list (isActive_list (hlength ▸ hne))]
    refine .some (.list ?_)
    rw [List.length_map, List.length_map, hlength]
  | flag present => exact .none

theorem FiltersAlike.filterParams {filters others : List (String × FilterValue)}
    (h : FiltersAlike filters others) :
    EntriesAlike (ListQuery.filterParams filters) (ListQuery.filterParams others) := by
  refine List.rel_filterMap ?_ h
  rintro ⟨name, value⟩ ⟨_, other⟩ ⟨rfl, hvalue⟩
  -- Both filters have a parameter, or neither has one.
  have hparam := hvalue.param?
  show Option.Rel _ (value.param?.map _) (other.param?.map _)
  generalize value.param? = param, other.param? = otherParam at hparam
  cases hparam with
  | some hparam => exact .some ⟨rfl, hparam⟩
  | none => exact .none

theorem FiltersAlike.filterTexts {filters others : List (String × FilterValue)}
    (h : FiltersAlike filters others) (nullCheck : Bool) :
    filters.flatMap (fun f => (filterText nullCheck f).toList) =
      others.flatMap fun f => (filterText nullCheck f).toList := by
  induction h with
  | nil => rfl
  | @cons f g filters others hfg _ ih =>
    obtain ⟨name, value⟩ := f
    obtain ⟨_, other⟩ := g
    obtain ⟨rfl, hvalue⟩ := hfg
    rw [List.flatMap_cons, List.flatMap_cons, ih, filterText_eq_of_alike hvalue]

/-! ## Pieces -/

/-- Pieces of a statement that differ in a value at most. -/
inductive Fragment.Alike : Fragment → Fragment → Prop
  | text (s : String) : Alike (.text s) (.text s)
  | value (v w : SqlValue) : Alike (.value v) (.value w)

/-- Rows of pieces that differ in values at most. -/
def FragmentsAlike : (fragments others : List Fragment) → Prop :=
  List.Forall₂ Fragment.Alike

namespace FragmentsAlike

variable {fragments others : List Fragment}

theorem refl (fragments : List Fragment) : FragmentsAlike fragments fragments := by
  refine List.forall₂_same.2 fun piece _ => ?_
  cases piece with
  | text s => exact .text s
  | value v => exact .value v v

theorem append (h : FragmentsAlike fragments others) {rest otherRest : List Fragment}
    (hrest : FragmentsAlike rest otherRest) :
    FragmentsAlike (fragments ++ rest) (others ++ otherRest) :=
  List.rel_append h hrest

/-- A placeholder is spelled by its number, and not by its value. -/
theorem texts_eq (h : FragmentsAlike fragments others) (backend : Backend) (used : Nat) :
    Fragment.texts backend used fragments = Fragment.texts backend used others := by
  induction h generalizing used with
  | nil => rfl
  | cons hpiece _ ih =>
    cases hpiece with
    | text s => rw [Fragment.texts, Fragment.texts, ih]
    | value v w => rw [Fragment.texts, Fragment.texts, ih]

theorem length_values (h : FragmentsAlike fragments others) :
    (Fragment.values fragments).length = (Fragment.values others).length := by
  induction h with
  | nil => rfl
  | cons hpiece _ ih =>
    cases hpiece with
    | text s => exact ih
    | value v w => exact congrArg Nat.succ ih

end FragmentsAlike

theorem commaSeparated_alike {vs ws : List SqlValue} (h : vs.length = ws.length) :
    FragmentsAlike (Fragment.commaSeparated vs) (Fragment.commaSeparated ws) := by
  induction vs generalizing ws with
  | nil =>
    obtain rfl := List.length_eq_zero_iff.1 h.symm
    exact .nil
  | cons v vs ih =>
    obtain ⟨w, ws, rfl⟩ := List.exists_cons_of_length_eq_add_one h.symm
    have hrest := ih (Nat.succ.inj h)
    cases vs with
    | nil =>
      obtain rfl := List.length_eq_zero_iff.1 (Nat.succ.inj h).symm
      exact .cons (.value v w) .nil
    | cons v' vs =>
      obtain ⟨w', ws, rfl⟩ := List.exists_cons_of_length_eq_add_one (Nat.succ.inj h).symm
      exact .cons (.value v w) (.cons (.text ", ") hrest)

theorem parenthesised_alike {vs ws : List SqlValue} (h : vs.length = ws.length) :
    FragmentsAlike (Fragment.parenthesised vs) (Fragment.parenthesised ws) :=
  FragmentsAlike.append (.cons (.text "(") (commaSeparated_alike h)) (.cons (.text ")") .nil)

theorem expand_alike {value other : ParamValue} (h : value.Alike other) :
    FragmentsAlike (Params.expand value) (Params.expand other) := by
  cases h with
  | scalar v w => exact .cons (.value v w) .nil
  | @list vs ws hlength =>
    cases vs with
    | nil =>
      obtain rfl := List.length_eq_zero_iff.1 hlength.symm
      exact .cons (.text "(NULL)") .nil
    | cons v vs =>
      obtain ⟨w, ws, rfl⟩ := List.exists_cons_of_length_eq_add_one hlength.symm
      exact parenthesised_alike hlength

/-! ## Statements -/

/-- Outcomes of binding that differ in values at most. -/
inductive BindingsAlike : (outcome other : Except BindError Statement) → Prop
  | refused (e : BindError) : BindingsAlike (.error e) (.error e)
  | bound {statement other : Statement} (hsql : statement.sql = other.sql)
      (hvalues : statement.values.length = other.values.length)
      (hbackend : statement.backend = other.backend) :
      BindingsAlike (.ok statement) (.ok other)

/-- What a lexeme becomes under parameters that are alike. -/
structure AlikePieces where
  lexeme : Lexeme
  left : List Fragment
  right : List Fragment
  alike : FragmentsAlike left right

namespace Params.Alike

variable {params others : Params}

theorem fragments (h : params.Alike others) (lexeme : Lexeme) :
    (∃ pieces : AlikePieces, pieces.lexeme = lexeme ∧ params.fragments lexeme = .ok pieces.left ∧
        others.fragments lexeme = .ok pieces.right) ∨
      ∃ e, params.fragments lexeme = .error e ∧ others.fragments lexeme = .error e := by
  cases lexeme with
  | plain text => exact Or.inl ⟨⟨_, _, _, .cons (.text _) .nil⟩, rfl, rfl, rfl⟩
  | reference name =>
    have hfound := h.get? (String.ofList name)
    rw [Params.fragments, Params.fragments]
    generalize params.get? (String.ofList name) = found,
      others.get? (String.ofList name) = otherFound at hfound
    cases hfound with
    | some hvalue => exact Or.inl ⟨⟨_, _, _, expand_alike hvalue⟩, rfl, rfl, rfl⟩
    | none => exact Or.inr ⟨_, rfl, rfl⟩

/-- **Binding a text to values that are alike** gives the same SQL with as many values, or fails for
the same parameter. -/
theorem bind (h : params.Alike others) (sql : String) (backend : Backend) :
    BindingsAlike (params.bind sql backend) (others.bind sql backend) := by
  rw [Params.bind, Params.bind]
  obtain ⟨pieces, -, hleft, hright⟩ | ⟨-, -, -, e, -, -, -, hleft, hright⟩ :=
    mapM_together fun lexeme (_ : lexeme ∈ Lexeme.scan sql.toList) => h.fragments lexeme
  · rw [hleft, hright]
    have hrows : List.Forall₂ FragmentsAlike (pieces.map AlikePieces.left)
        (pieces.map AlikePieces.right) := by
      rw [List.forall₂_map_left_iff, List.forall₂_map_right_iff]
      exact List.forall₂_same.2 fun p _ => p.alike
    have hall : FragmentsAlike _ _ := List.rel_flatten hrows
    exact .bound (congrArg String.join (hall.texts_eq backend 0)) hall.length_values rfl
  · rw [hleft, hright]
    exact .refused e

end Params.Alike

/-- **Values stay out of the text.**  Let two runs have the same filters with values that are alike,
and begin with the same text and with parameters that are alike.  They end with the same text and
with parameters that are alike; and every text, on every database, becomes the same SQL under these
parameters, with as many values, or is refused for the same name. -/
theorem values_stay_out_of_text {filters others : List (String × FilterValue)}
    {params otherParams : Params} (hfilters : FiltersAlike filters others)
    (hparams : params.Alike otherParams) (sql : String) (nullCheck : Bool) :
    (appendFilters sql params filters nullCheck).1 =
        (appendFilters sql otherParams others nullCheck).1 ∧
      (appendFilters sql params filters nullCheck).2.Alike
        (appendFilters sql otherParams others nullCheck).2 ∧
      ∀ (text : String) (backend : Backend),
        BindingsAlike ((appendFilters sql params filters nullCheck).2.bind text backend)
          ((appendFilters sql otherParams others nullCheck).2.bind text backend) := by
  obtain ⟨htext, hadded⟩ := appendFilters_eq sql params filters nullCheck
  obtain ⟨htext', hadded'⟩ := appendFilters_eq sql otherParams others nullCheck
  have halike : (params.addAll (filterParams filters)).Alike
      (otherParams.addAll (filterParams others)) := hparams.addAll hfilters.filterParams
  rw [hadded, hadded']
  refine ⟨String.toList_injective ?_, halike, halike.bind⟩
  rw [htext, htext', hfilters.filterTexts]

theorem values_stay_out_of_text_replaced_shape :
    let filters : List (String × FilterValue) := [("e.name", .text " Ann"),
      ("d.Name", .list [.text "a", .int 2]), ("e.left", .flag false), ("e.rank", .text "  ")]
    let others : List (String × FilterValue) := [("e.name", .text "' OR 1 = 1 --"),
      ("d.Name", .list [.int 3, .text "@x"]), ("e.left", .flag false), ("e.rank", .null)]
    let params : Params := ⟨[("left", .scalar (.bool true)), ("NAME", .list [])]⟩
    let otherParams : Params := ⟨[("left", .scalar (.string "?")), ("NAME", .list [])]⟩
    FiltersAlike filters others ∧ params.Alike otherParams ∧
      (appendFilters "SELECT 1\n" params filters true).1 =
        (appendFilters "SELECT 1\n" otherParams others true).1 ∧
      BindingsAlike
        ((appendFilters "SELECT 1\n" params filters true).2.bind "@name, @left" .postgres)
        ((appendFilters "SELECT 1\n" otherParams others true).2.bind "@name, @left" .postgres) := by
  intro filters others params otherParams
  have hfilters : FiltersAlike filters others :=
    .cons ⟨rfl, .text (by decide) (by decide)⟩ <| .cons ⟨rfl, .list rfl (by decide)⟩ <|
      .cons ⟨rfl, .flag false⟩ <| .cons ⟨rfl, .inactive (by decide) rfl⟩ .nil
  have hparams : params.Alike otherParams :=
    .cons ⟨rfl, .scalar _ _⟩ <| .cons ⟨rfl, .list rfl⟩ .nil
  obtain ⟨htext, -, hbind⟩ := values_stay_out_of_text hfilters hparams "SELECT 1\n" true
  exact ⟨hfilters, hparams, htext, hbind "@name, @left" .postgres⟩

end ListQuery
