import ListQuery.Proofs.Page.Limit

/-!
# The forms of a page

A page can be asked for as a list of its three values, which may end early, or as an object, in
which every field has two names.  The reader of lists asks for one position after the other, and the
reader of objects goes through the entries with the fields that it has found so far.  Here both are
described at once: by the values that the data give to each of the fields.

## What is here

* `Datum.IsJson` — the data that come from JSON.  `readUnsigned_eq_ok_iff` and
  `readOptionalText_eq_ok_iff` say what the values of fields are read from.
* `Page.Field` — the fields of a page; `Field.given` are the values that data give to a field.
* `Page.Takes` — reading values into a field that may be taken already: there is room for one.
* `Page.read_eq_ok_iff` — **lists and objects are read alike**, field by field.
* `Page.GivesFields` — the values of the fields as they are written.  A page is read from them
  (`read_of_givesFields`), and from JSON in no other way (`exists_givesFields_of_read`).
* `Page.Unreadable` — data that give two values to a field, more values than there are fields, or
  something other than a number where a number is needed.
* `page_forms` — **what is read from all of these forms**, and that a page is read back as it was
  written.
-/

set_option autoImplicit false
namespace ListQuery

/-! ## Data from JSON -/

namespace Datum

/-- An unsigned number of 64 bits. -/
def unsigned (n : UInt64) : Datum :=
  .number (.natural n.toNat)

/-- A text, or null in place of one. -/
def optionalText : Option String → Datum
  | none => .null
  | some s => .text s

/-- The data that JSON values are: every number is that of a literal, and an object has no key
twice. -/
inductive IsJson : Datum → Prop
  | null : IsJson .null
  | bool (b : Bool) : IsJson (.bool b)
  | number {n : Numeral} (l : Numeral.JsonLiteral) (h : Numeral.ofJson? l = some n) :
    IsJson (.number n)
  | text (s : String) : IsJson (.text s)
  | list {items : List Datum} (h : ∀ d ∈ items, IsJson d) : IsJson (.list items)
  | map {entries : List (String × Datum)} (hkeys : (entries.map Prod.fst).Nodup)
      (h : ∀ e ∈ entries, IsJson e.2) : IsJson (.map entries)

end Datum

/-- A number of a literal has 64 bits, and a sign only if it is negative; or else it is a double. -/
theorem Numeral.ofJson?_cases {l : JsonLiteral} {n : Numeral} (h : ofJson? l = some n) :
    (∃ k, n = .natural k ∧ k ≤ maxUnsigned) ∨
      (∃ k : Int, n = .signed k ∧ -(twoTo 63 : Int) ≤ k ∧ k < 0) ∨ ∃ x, n = .double x := by
  simp only [ofJson?] at h
  split at h
  · next hnatural =>
    simp only [Bool.and_eq_true, decide_eq_true_eq] at hnatural
    cases h
    exact Or.inl ⟨_, rfl, Nat.le_sub_one_of_lt hnatural.2⟩
  · split at h
    · next hsigned =>
      simp only [Bool.and_eq_true, decide_eq_true_eq] at hsigned
      cases h
      refine Or.inr (Or.inl ⟨_, rfl, ?_, ?_⟩)
      · have hle := hsigned.2
        omega
      · have hpos := hsigned.1.2
        omega
    · obtain ⟨x, -, rfl⟩ := Option.map_eq_some_iff.1 h
      exact Or.inr (Or.inr ⟨x, rfl⟩)

/-- Unsigned numbers are read from themselves and from nothing else in JSON, neither from null nor
from a number with a sign or a fraction. -/
theorem readUnsigned_eq_ok_iff {d : Datum} (hd : d.IsJson) {n : UInt64} :
    readUnsigned d = .ok n ↔ d = .unsigned n := by
  refine ⟨fun h => ?_, fun h => h ▸ readUnsigned_toNat n⟩
  cases hd with
  | @number m l hl =>
    obtain ⟨k, rfl, hk⟩ | ⟨k, rfl, hleast, hneg⟩ | ⟨x, rfl⟩ := Numeral.ofJson?_cases hl
    · rw [readUnsigned, if_pos hk] at h
      cases h
      have hlt : k < 2 ^ 64 := Nat.lt_of_le_of_lt hk (by decide)
      rw [Datum.unsigned, UInt64.toNat_ofNat', Nat.mod_eq_of_lt hlt]
    · rw [readUnsigned, if_neg (by omega), if_pos hneg] at h
      cases h
    · cases h
  | _ => cases h

theorem readOptionalText_eq_ok_iff {d : Datum} {s : Option String} :
    readOptionalText d = .ok s ↔ d = .optionalText s := by
  cases d <;> cases s <;> simp [readOptionalText, Datum.optionalText]

namespace Page

/-! ## Fields -/

/-- The fields of a page. -/
inductive Field where
  | offset
  | limit
  | sort
  deriving DecidableEq, Repr

/-- The names of a field in an object. -/
def Field.names : Field → String × String
  | offset => ("offset", "pageOffset")
  | limit => ("limit", "pageSize")
  | sort => ("sort", "sortBy")

/-- The position of a field in a list. -/
def Field.position : Field → Nat
  | offset => 0
  | limit => 1
  | sort => 2

/-- The values that data give to a field. -/
def Field.given (field : Field) : Datum → List Datum
  | .list items => items[field.position]?.toList
  | .map entries =>
    (entries.filter fun e => e.1 = field.names.1 || e.1 = field.names.2).map Prod.snd
  | _ => []

theorem Field.given_cons (field : Field) (e : String × Datum) (entries : List (String × Datum)) :
    field.given (.map (e :: entries)) = field.given (.map [e]) ++ field.given (.map entries) := by
  rw [← List.singleton_append, given, given, given, List.filter_append, List.map_append]

/-- Reading values into a field: without a value it stays as it is, and a value is taken if the
field has none yet. -/
inductive Takes {α : Type} (reads : Datum → Except ReadFault α) :
    Option α → List Datum → Option α → Prop
  | nothing (v : Option α) : Takes reads v [] v
  | value {d : Datum} {a : α} (h : reads d = .ok a) : Takes reads none [d] (some a)

section

variable {α : Type} {reads : Datum → Except ReadFault α} {v w : Option α} {d : Datum}

@[simp] theorem takes_nil : Takes reads v [] w ↔ v = w :=
  ⟨fun h => by cases h; rfl, fun h => h ▸ .nothing v⟩

@[simp] theorem takes_singleton :
    Takes reads v [d] w ↔ v = none ∧ ∃ a, reads d = .ok a ∧ some a = w := by
  constructor
  · rintro ⟨⟩
    next a h => exact ⟨rfl, a, h, rfl⟩
  · rintro ⟨rfl, a, h, rfl⟩
    exact .value h

theorem takes_append {ds es : List Datum} :
    Takes reads v (ds ++ es) w ↔ ∃ u, Takes reads v ds u ∧ Takes reads u es w := by
  constructor
  · intro h
    rcases ds with _ | ⟨d, ds⟩
    · exact ⟨v, .nothing v, h⟩
    · -- There is room for one value, and it is among the first ones.
      generalize hall : d :: ds ++ es = all at h
      rcases h with _ | ⟨hread⟩
      · cases hall
      · simp only [List.cons_append, List.cons.injEq, List.append_eq_nil_iff] at hall
        obtain ⟨rfl, rfl, rfl⟩ := hall
        exact ⟨_, .value hread, .nothing _⟩
  · rintro ⟨u, hds, hes⟩
    rcases hds with _ | ⟨hread⟩
    · exact hes
    · rcases hes with _ | _
      exact .value hread

theorem mapM_eq_ok_iff_takes {o : Option Datum} :
    o.mapM reads = .ok v ↔ Takes reads none o.toList v := by
  cases o with
  | none => simp [pure, Except.pure]
  | some d => cases hread : reads d <;> simp [hread, Functor.map, Except.map]

theorem takes_of_form {form : α → Datum} (h : ∀ a, reads (form a) = .ok a) (v : Option α) :
    Takes reads none (v.map form).toList v := by
  cases v with
  | none => exact .nothing none
  | some a => exact .value (h a)

/-- A field without a value is read from no value or from one. -/
theorem takes_none_iff {ds : List Datum} {form : α → Datum}
    (h : ∀ a, reads (form a) = .ok a) (hform : ∀ d ∈ ds, ∀ a, reads d = .ok a → d = form a) :
    Takes reads none ds v ↔ ds = (v.map form).toList := by
  constructor
  · rintro (_ | ⟨hread⟩)
    · rfl
    · rw [hform _ List.mem_cons_self _ hread]
      rfl
  · rintro rfl
    exact takes_of_form h v

end

/-! ## Lists and objects -/

/-- Data read into the fields of a page one by one. -/
@[mk_iff]
structure TakesFields (f : Fields) (values : Field → List Datum) (g : Fields) : Prop where
  offset : Takes readUnsigned f.offset (values .offset) g.offset
  limit : Takes readUnsigned f.limit (values .limit) g.limit
  sort : Takes readOptionalText f.sort (values .sort) g.sort

/-- An entry belongs to the field that has its key as a name. -/
theorem Field.given_singleton (field : Field) (key : String) (d : Datum) :
    field.given (.map [(key, d)]) =
      if key = field.names.1 ∨ key = field.names.2 then [d] else [] := by
  by_cases h : key = field.names.1 ∨ key = field.names.2
  · simp [given, h]
  · simp only [not_or] at h
    simp [given, h]

/-- Reading a value into a field that may be taken. -/
theorem ite_isSome_eq_ok_iff {α : Type} {reads : Datum → Except ReadFault α} {v : Option α}
    {d : Datum} {name : String} {update : α → Fields} {g : Fields} :
    (if v.isSome = true then .error (.repeatedField name) else (reads d).map update) = .ok g ↔
      v = none ∧ ∃ a, reads d = .ok a ∧ update a = g := by
  cases v with
  | none => simp [map_eq_ok_iff, eq_comm]
  | some b => simp

/-- One entry is read into its field, or it is passed over. -/
theorem readEntry_eq_ok_iff {f g : Fields} {e : String × Datum} :
    readEntry f e = .ok g ↔ TakesFields f (fun field => field.given (.map [e])) g := by
  obtain ⟨key, d⟩ := e
  obtain ⟨o, l, s⟩ := f
  obtain ⟨o', l', s'⟩ := g
  rw [takesFields_iff]
  simp only [readEntry, Field.given_singleton, Field.names, Bool.or_eq_true, decide_eq_true_eq]
  by_cases hoffset : key = "offset" ∨ key = "pageOffset"
  · have hlimit : ¬ (key = "limit" ∨ key = "pageSize") := by
      rcases hoffset with rfl | rfl <;> decide
    have hsort : ¬ (key = "sort" ∨ key = "sortBy") := by
      rcases hoffset with rfl | rfl <;> decide
    simp only [hoffset, hlimit, hsort, if_true, if_false, ite_isSome_eq_ok_iff, takes_nil,
      takes_singleton, Fields.mk.injEq]
    grind
  by_cases hlimit : key = "limit" ∨ key = "pageSize"
  · have hsort : ¬ (key = "sort" ∨ key = "sortBy") := by
      rcases hlimit with rfl | rfl <;> decide
    simp only [hoffset, hlimit, hsort, if_true, if_false, ite_isSome_eq_ok_iff, takes_nil,
      takes_singleton, Fields.mk.injEq]
    grind
  by_cases hsort : key = "sort" ∨ key = "sortBy"
  · simp only [hoffset, hlimit, hsort, if_true, if_false, ite_isSome_eq_ok_iff, takes_nil,
      takes_singleton, Fields.mk.injEq]
    grind
  · simp only [hoffset, hlimit, hsort, if_false, takes_nil, Fields.mk.injEq, Except.ok.injEq]

theorem foldlM_readEntry_eq_ok_iff {f g : Fields} {entries : List (String × Datum)} :
    entries.foldlM readEntry f = .ok g ↔
      TakesFields f (fun field => field.given (.map entries)) g := by
  induction entries generalizing f with
  | nil =>
    obtain ⟨o, l, s⟩ := f
    obtain ⟨o', l', s'⟩ := g
    simp [takesFields_iff, Field.given, pure, Except.pure]
  | cons e entries ih =>
    have hsteps : (e :: entries).foldlM readEntry f = .ok g ↔
        ∃ h, readEntry f e = .ok h ∧ entries.foldlM readEntry h = .ok g := by
      rw [List.foldlM_cons]
      constructor
      · exact exists_of_bind_eq_ok
      · rintro ⟨h, hfirst, hrest⟩
        rw [hfirst]
        exact hrest
    rw [hsteps]
    simp only [ih, readEntry_eq_ok_iff, takesFields_iff, Field.given_cons _ e entries, takes_append]
    constructor
    · rintro ⟨h, ⟨ho, hl, hs⟩, ho', hl', hs'⟩
      exact ⟨⟨_, ho, ho'⟩, ⟨_, hl, hl'⟩, ⟨_, hs, hs'⟩⟩
    · rintro ⟨⟨o, ho, ho'⟩, ⟨l, hl, hl'⟩, ⟨s, hs, hs'⟩⟩
      exact ⟨⟨o, l, s⟩, ⟨ho, hl, hs⟩, ho', hl', hs'⟩

/-- The data that pages are read from: objects, and lists without surplus values. -/
def IsRecord : Datum → Prop
  | .map _ => True
  | .list items => items.length ≤ 3
  | _ => False

theorem readItems_eq_ok_iff {items : List Datum} {p : Page} :
    readItems items = .ok p ↔ items.length ≤ 3 ∧
      ∃ f : Fields, TakesFields {} (fun field => field.given (.list items)) f ∧ p = ofFields f := by
  constructor
  · intro h
    rw [readItems] at h
    obtain ⟨o, ho, h⟩ := exists_of_bind_eq_ok h
    obtain ⟨l, hl, h⟩ := exists_of_bind_eq_ok h
    obtain ⟨s, hs, h⟩ := exists_of_bind_eq_ok h
    split at h
    · cases h
    · next hlength =>
      cases h
      refine ⟨Nat.le_of_not_lt hlength, ⟨o, l, s⟩, ⟨?_, ?_, ?_⟩, rfl⟩
      · exact mapM_eq_ok_iff_takes.1 ho
      · exact mapM_eq_ok_iff_takes.1 hl
      · exact mapM_eq_ok_iff_takes.1 hs
  · rintro ⟨hlength, ⟨o, l, s⟩, ⟨ho, hl, hs⟩, rfl⟩
    have ho' : items[0]?.mapM readUnsigned = .ok o := mapM_eq_ok_iff_takes.2 ho
    have hl' : items[1]?.mapM readUnsigned = .ok l := mapM_eq_ok_iff_takes.2 hl
    have hs' : items[2]?.mapM readOptionalText = .ok s := mapM_eq_ok_iff_takes.2 hs
    rw [readItems, ho', hl', hs']
    exact if_neg (Nat.not_lt.2 hlength)

/-- **Lists and objects are read alike.**  From either form a page is read if and only if the values
of each of its fields can be read into the field; then what is missing has its standard value. -/
theorem read_eq_ok_iff {d : Datum} {p : Page} :
    read d = .ok p ↔ IsRecord d ∧
      ∃ f : Fields, TakesFields {} (fun field => field.given d) f ∧ p = ofFields f := by
  cases d with
  | map entries =>
    rw [read, map_eq_ok_iff]
    simp only [foldlM_readEntry_eq_ok_iff, IsRecord, true_and]
  | list items => exact readItems_eq_ok_iff
  | _ => simp [read, IsRecord]

/-! ## The values of fields -/

/-- The values of fields in the form in which they are written. -/
structure GivesFields (d : Datum) (offset limit : Option UInt64) (sort : Option (Option String)) :
    Prop where
  offset : Field.offset.given d = (offset.map Datum.unsigned).toList
  limit : Field.limit.given d = (limit.map Datum.unsigned).toList
  sort : Field.sort.given d = (sort.map Datum.optionalText).toList

theorem read_of_givesFields {d : Datum} (hd : IsRecord d) {offset limit : Option UInt64}
    {sort : Option (Option String)} (h : GivesFields d offset limit sort) :
    read d = .ok (of (offset.getD 0) (limit.getD 100) (sort.getD none)) := by
  refine read_eq_ok_iff.2 ⟨hd, ⟨offset, limit, sort⟩, ⟨?_, ?_, ?_⟩, rfl⟩
  · rw [h.offset]
    exact takes_of_form readUnsigned_toNat offset
  · rw [h.limit]
    exact takes_of_form readUnsigned_toNat limit
  · rw [h.sort]
    exact takes_of_form (fun s => readOptionalText_eq_ok_iff.2 rfl) sort

theorem Field.isJson_of_mem_given {field : Field} {d v : Datum} (hd : d.IsJson)
    (hv : v ∈ field.given d) : v.IsJson := by
  cases hd with
  | list h => exact h v (List.mem_of_getElem? (Option.mem_toList.1 hv))
  | map _ h =>
    obtain ⟨e, he, rfl⟩ := List.mem_map.1 hv
    exact h e (List.mem_filter.1 he).1
  | _ => cases hv

/-- In JSON nothing else is read into the fields of a page. -/
theorem exists_givesFields_of_read {d : Datum} (hd : d.IsJson) {p : Page} (h : read d = .ok p) :
    IsRecord d ∧ ∃ offset limit sort, GivesFields d offset limit sort := by
  obtain ⟨hrecord, f, ⟨ho, hl, hs⟩, -⟩ := read_eq_ok_iff.1 h
  have hnumber : ∀ (field : Field), ∀ v ∈ field.given d, ∀ n, readUnsigned v = .ok n →
      v = .unsigned n := fun field v hv n =>
    (readUnsigned_eq_ok_iff (Field.isJson_of_mem_given hd hv)).1
  refine ⟨hrecord, f.offset, f.limit, f.sort, ?_, ?_, ?_⟩
  · exact (takes_none_iff readUnsigned_toNat (hnumber .offset)).1 ho
  · exact (takes_none_iff readUnsigned_toNat (hnumber .limit)).1 hl
  · exact (takes_none_iff (fun s => readOptionalText_eq_ok_iff.2 rfl)
      fun v _ s => readOptionalText_eq_ok_iff.1).1 hs

/-- Data that no page is read from: an object that uses both names of a field, a list of more than
three values, and data with something else for a number than an unsigned number of 64 bits. -/
inductive Unreadable : Datum → Prop
  | bothNames {entries : List (String × Datum)} (field : Field)
      (hfirst : field.names.1 ∈ entries.map Prod.fst)
      (hsecond : field.names.2 ∈ entries.map Prod.fst) : Unreadable (.map entries)
  | surplus {items : List Datum} (h : 3 < items.length) : Unreadable (.list items)
  | noNumber {d v : Datum} (field : Field) (hfield : field ≠ .sort) (hv : v ∈ field.given d)
      (h : ∀ n, v ≠ .unsigned n) : Unreadable d

/-- An object that uses both names of a field gives it two values. -/
theorem Field.one_lt_length_given {field : Field} {entries : List (String × Datum)}
    (hfirst : field.names.1 ∈ entries.map Prod.fst)
    (hsecond : field.names.2 ∈ entries.map Prod.fst) :
    1 < (field.given (.map entries)).length := by
  obtain ⟨e, he, hename⟩ := List.mem_map.1 hfirst
  obtain ⟨e', he', hename'⟩ := List.mem_map.1 hsecond
  have hmem : e ∈ entries.filter fun e => e.1 = field.names.1 || e.1 = field.names.2 :=
    List.mem_filter.2 ⟨he, by simp [hename]⟩
  have hmem' : e' ∈ entries.filter fun e => e.1 = field.names.1 || e.1 = field.names.2 :=
    List.mem_filter.2 ⟨he', by simp [hename']⟩
  have hne : e ≠ e' := by
    rintro rfl
    have hnames : field.names.1 = field.names.2 := hename.symm.trans hename'
    cases field <;> exact absurd hnames (by decide)
  rw [given, List.length_map]
  generalize entries.filter _ = found at hmem hmem'
  rcases found with _ | ⟨f, _ | ⟨g, found⟩⟩
  · cases hmem
  · rw [List.mem_singleton] at hmem hmem'
    exact absurd (hmem.trans hmem'.symm) hne
  · simp

theorem GivesFields.length_le {d : Datum} {offset limit : Option UInt64}
    {sort : Option (Option String)} (h : GivesFields d offset limit sort) (field : Field) :
    (field.given d).length ≤ 1 := by
  cases field with
  | offset => rw [h.offset]; cases offset <;> simp
  | limit => rw [h.limit]; cases limit <;> simp
  | sort => rw [h.sort]; cases sort <;> simp

theorem GivesFields.exists_unsigned {d v : Datum} {offset limit : Option UInt64}
    {sort : Option (Option String)} (h : GivesFields d offset limit sort) {field : Field}
    (hfield : field ≠ .sort) (hv : v ∈ field.given d) : ∃ n, v = .unsigned n := by
  cases field with
  | offset =>
    rw [h.offset, Option.mem_toList, Option.map_eq_some_iff] at hv
    obtain ⟨n, -, rfl⟩ := hv
    exact ⟨n, rfl⟩
  | limit =>
    rw [h.limit, Option.mem_toList, Option.map_eq_some_iff] at hv
    obtain ⟨n, -, rfl⟩ := hv
    exact ⟨n, rfl⟩
  | sort => exact absurd rfl hfield

theorem Unreadable.exists_fault {d : Datum} (h : Unreadable d) (hd : d.IsJson) :
    ∃ fault, read d = .error fault := by
  cases hread : read d with
  | error fault => exact ⟨fault, rfl⟩
  | ok p =>
    exfalso
    obtain ⟨hrecord, offset, limit, sort, hgives⟩ := exists_givesFields_of_read hd hread
    rcases h with ⟨field, hfirst, hsecond⟩ | hlong | ⟨field, hfield, hv, hnone⟩
    · have hlength := hgives.length_le field
      have htwo := Field.one_lt_length_given hfirst hsecond
      omega
    · exact Nat.not_le.2 hlong hrecord
    · obtain ⟨n, rfl⟩ := hgives.exists_unsigned hfield hv
      exact hnone n rfl

/-- The values of a list go to the fields by their positions, as far as the list reaches. -/
theorem givesFields_take (offset limit : UInt64) (sort : Option String) (k : Nat) :
    GivesFields (.list (List.take k [.unsigned offset, .unsigned limit, .optionalText sort]))
      (if 0 < k then some offset else none) (if 1 < k then some limit else none)
      (if 2 < k then some sort else none) := by
  rcases k with _ | _ | _ | k
  · exact ⟨rfl, rfl, rfl⟩
  · exact ⟨rfl, rfl, rfl⟩
  · exact ⟨rfl, rfl, rfl⟩
  · rw [List.take_of_length_le (by simp), if_pos (by omega), if_pos (by omega), if_pos (by omega)]
    exact ⟨rfl, rfl, rfl⟩

end Page

/-- **The forms of a page.**  A list gives the offset, the limit and the order, in this sequence,
and may end early; an object gives each of them under one of its two names, in any order and among
any other entries.  What is missing is the offset 0, the limit 100 and no order, and a limit of zero
counts as one.  From JSON that gives a field twice, that has more values than there are fields, or
in which an offset or a limit is no unsigned number of 64 bits, nothing is read.  Every page that
has a row at least, and so every page that is read, is read back as it was written. -/
theorem page_forms :
    (∀ (offset limit : UInt64) (sort : Option String) (k : Nat),
      Page.read (.list (List.take k [.unsigned offset, .unsigned limit, .optionalText sort])) =
        .ok (.of (if 0 < k then offset else 0) (if 1 < k then limit else 100)
          (if 2 < k then sort else none))) ∧
    (∀ entries offset limit sort, Page.GivesFields (.map entries) offset limit sort →
      Page.read (.map entries) = .ok (.of (offset.getD 0) (limit.getD 100) (sort.getD none))) ∧
    (∀ d : Datum, d.IsJson → Page.Unreadable d → ∃ fault, Page.read d = .error fault) ∧
    (∀ p : Page, 1 ≤ p.limit → Page.read p.toDatum = .ok p) ∧
    (∀ d p, Page.read d = .ok p → Page.read p.toDatum = .ok p) := by
  have hback : ∀ p : Page, 1 ≤ p.limit → Page.read p.toDatum = .ok p := by
    intro p hp
    rw [Page.read_toDatum, Page.of_eq_self_iff.2 hp]
  refine ⟨fun offset limit sort k => ?_, fun entries offset limit sort h => ?_,
    fun d hd h => h.exists_fault hd, hback, fun d p h => hback p (Page.one_le_limit_of_read h)⟩
  · have hrecord : Page.IsRecord
        (.list (List.take k [.unsigned offset, .unsigned limit, .optionalText sort])) :=
      List.length_take_le' k _
    rw [Page.read_of_givesFields hrecord (Page.givesFields_take offset limit sort k)]
    split <;> split <;> split <;> rfl
  · have hrecord : Page.IsRecord (.map entries) := trivial
    exact Page.read_of_givesFields hrecord h

end ListQuery
