import ListQuery.Proofs.Outcome
import ListQuery.Proofs.Scanning.Placeholders
import ListQuery.Proofs.Scanning.Rendering

/-!
# Binding in parts, and binding again

SQL text grows line by line, and binding goes along with it.  What has been bound stays as it is
when more is appended, and what is appended is bound as it would be by itself, except that numbered
placeholders are counted on.  And a text that has been bound is finished: nothing that was written
for a parameter, together with what stands around it, looks like a parameter again.

Both rest on the reader that does not look ahead.  The end of a line leads it back to plain code
unless something is open, and what is written for parameters does not lead it astray.

## What is here

* `atoms_append` — the atoms of a text in two parts.
* `Written.recount` — one text behind any number of placeholders: the same layout and the same
  values.
* `bind_append` — **binding a text in two parts**: the first error, or both texts and both lists of
  values one after the other.
* `bind_of_unmentioned` — a text without parameters is bound to itself.
* `bind_bound` — **what has been bound is bound to itself**, with any parameters and on any
  database.
-/

set_option autoImplicit false
namespace ListQuery

/-! ## Two parts -/

/-- After a text that leads back to plain code, the rest is read as if it stood by itself. -/
theorem atoms_append {a : String} (ha : Region.after (.code .none) a.toList = .code .none)
    (b : String) : atoms (a ++ b) = atoms a ++ atoms b := by
  rw [atoms, atoms, atoms, String.toList_append, Region.read_append, ha, Region.read_of_after ha]

section

variable {params : Params} {backend : Backend}

/-- Atoms that are written behind some placeholders can be written behind any number of others.
The layout and the values stay, and the placeholders are counted from there. -/
theorem Written.recount {used : Nat} {as : List Atom} {text : List Char} {values : List SqlValue}
    (h : Written params backend used as text values) (other : Nat) :
    Written params backend other as
      (Cell.fill (Cell.layout params as) (backend.placeholders other values.length)) values := by
  obtain ⟨text', values', hw⟩ | ⟨name, hu⟩ := written_or_firstUnbound params backend other as
  · obtain ⟨hvalues, htext⟩ := hw.eq_fill
    rw [h.eq_fill.1, ← hvalues, ← htext]
    exact hw
  · have hfound := h.get?_ne_none hu.reference_mem
    obtain ⟨-, -, -, hnone, -⟩ := hu
    rw [String.ofList_toList] at hfound
    exact absurd hnone hfound

/-- The placeholders behind `used` others are the first ones with `used` added to their numbers. -/
theorem Backend.placeholders_eq_map (backend : Backend) (used n : Nat) :
    backend.placeholders used n =
      (List.range' 1 n).map fun k => (backend.placeholder (used + k)).toList := by
  rw [placeholders, ← List.map_add_range', List.map_map]
  rfl

theorem bind_append_eq_writeAll {a : String}
    (ha : Region.after (.code .none) a.toList = .code .none) (b : String) :
    params.bind (a ++ b) backend =
      ((Draft.writeAll params backend ⟨[], []⟩ (atoms a)).bind fun d =>
        d.writeAll params backend (atoms b)).map (Draft.statement backend) := by
  rw [bind_eq_writeAll, atoms_append ha, Draft.writeAll_append]

end

/-- The statement that two texts make together, where `first` and `second` are those that they make
by themselves and `b` is the second text. -/
structure Joined (params : Params) (backend : Backend) (b : String)
    (first second joined : Statement) : Prop where
  values : joined.values = first.values ++ second.values
  /-- The layout of the second text has one slot for each of its values. -/
  second_values : second.values = Cell.values (Cell.layout params (atoms b))
  /-- The second text by itself: the placeholders 1, 2, … in the slots of its layout. -/
  second_text : second.sql.toList = Cell.fill (Cell.layout params (atoms b))
    ((List.range' 1 second.values.length).map fun k => (backend.placeholder k).toList)
  /-- In the whole it stands behind the first text, and each placeholder has the number of values
  of the first text added to its own. -/
  text : joined.sql.toList = first.sql.toList ++ Cell.fill (Cell.layout params (atoms b))
    ((List.range' 1 second.values.length).map fun k =>
      (backend.placeholder (first.values.length + k)).toList)
  /-- Where placeholders have no numbers, the texts are put together as they are. -/
  text_of_marks : backend ≠ .postgres → joined.sql = first.sql ++ second.sql

/-- **Binding concatenates.**  Let a text end with a line and leave neither a quoted run nor a block
comment open, and let any other text follow.  If the first one is refused, the whole is refused for
the same parameter; if only the second one is, the whole is refused for that; and otherwise the
whole is bound to what both are bound to, one after the other. -/
theorem bind_append {a : String} (hline : a.toList.getLast? = some '\n')
    (hclosed : (Region.after (.code .none) a.toList).isOpen = false) (b : String)
    (params : Params) (backend : Backend) :
    (∀ e, params.bind a backend = .error e → params.bind (a ++ b) backend = .error e) ∧
      (∀ first e, params.bind a backend = .ok first → params.bind b backend = .error e →
        params.bind (a ++ b) backend = .error e) ∧
      ∀ first second, params.bind a backend = .ok first → params.bind b backend = .ok second →
        ∃ joined, params.bind (a ++ b) backend = .ok joined ∧
          Joined params backend b first second joined := by
  have ha := Region.after_newline hline hclosed
  refine ⟨fun e herror => ?_, fun first e hfirst herror => ?_,
    fun first second hfirst hsecond => ?_⟩
  · obtain ⟨name⟩ := e
    rw [bind_append_eq_writeAll ha, Draft.writeAll_of_firstUnbound (bind_eq_error_iff.1 herror)]
    rfl
  · obtain ⟨name⟩ := e
    rw [bind_append_eq_writeAll ha,
      Draft.writeAll_of_written (written_of_bind hfirst) ⟨[], []⟩ rfl, Except.bind,
      Draft.writeAll_of_firstUnbound (bind_eq_error_iff.1 herror)]
    rfl
  · have hwritten := written_of_bind hsecond
    have hrecount := hwritten.recount first.values.length
    refine ⟨⟨String.ofList (first.sql.toList ++ Cell.fill (Cell.layout params (atoms b))
      (backend.placeholders first.values.length second.values.length)),
      first.values ++ second.values, backend⟩, ?_, rfl, hwritten.eq_fill.1, ?_, ?_,
      fun hmarks => ?_⟩
    · rw [bind_append_eq_writeAll ha,
        Draft.writeAll_of_written (written_of_bind hfirst) ⟨[], []⟩ rfl, Except.bind,
        Draft.writeAll_of_written hrecount _ rfl]
      rfl
    · rw [hwritten.eq_fill.2, Backend.placeholders_eq_map]
      simp only [Nat.zero_add]
    · rw [String.toList_ofList, Backend.placeholders_eq_map]
    · have htext := hwritten.eq_fill.2
      rw [Backend.placeholders_of_ne hmarks] at htext
      rw [Backend.placeholders_of_ne hmarks, ← htext, ← String.toList_append,
        String.ofList_toList]

/-- The first text ends with a line comment that has a quote in it, and the second one begins with a
parameter of the first. -/
theorem bind_append_after_comment :
    let params : Params :=
      ⟨[("id", .scalar (.bigInt 1)), ("ids", .list [.bigInt 2, .bigInt 3])]⟩
    let a := "SELECT '@x' FROM t WHERE i = @id OR i IN @ids -- don't stop at @id\n"
    let b := "@id, '@ids', @ids"
    ∃ first second joined, params.bind a .postgres = .ok first ∧
      params.bind b .postgres = .ok second ∧ params.bind (a ++ b) .postgres = .ok joined ∧
      Joined params .postgres b first second joined := by
  intro params a b
  have hline : a.toList.getLast? = some '\n' := by decide
  have hclosed : (Region.after (.code .none) a.toList).isOpen = false := by decide +kernel
  have hfirst : (params.bind a .postgres).isOk = true := by decide +kernel
  have hsecond : (params.bind b .postgres).isOk = true := by decide +kernel
  obtain ⟨first, hfirst⟩ := exists_eq_ok hfirst
  obtain ⟨second, hsecond⟩ := exists_eq_ok hsecond
  obtain ⟨joined, hbind, hjoined⟩ :=
    (bind_append hline hclosed b params .postgres).2.2 first second hfirst hsecond
  exact ⟨first, second, joined, hfirst, hsecond, hbind, hjoined⟩

/-! ## Again -/

/-- Where no parameter is mentioned there is nothing to bind. -/
theorem bind_of_unmentioned {sql : String} (h : ∀ name, .reference name ∉ atoms sql)
    (params : Params) (backend : Backend) :
    params.bind sql backend = .ok ⟨sql, [], backend⟩ := by
  rw [bind_eq_writeAll, Draft.writeAll_copied h, spell_atoms]
  show Except.ok (Draft.statement backend ⟨sql.toList, []⟩) = _
  rw [Draft.statement, String.ofList_toList]

/-- What has been written is read again as characters that are copied.  This holds for all
spellings of placeholders, because all of them are inert. -/
theorem Written.exists_expands {params : Params} {backend : Backend} {used : Nat} {as : List Atom}
    {text : List Char} {values : List SqlValue} (h : Written params backend used as text values) :
    ∃ out, Expands as text out ∧ ∀ name, .reference name ∉ out := by
  induction h with
  | nil => exact ⟨[], .nil, fun name => List.not_mem_nil⟩
  | @copied used c shielded as text values _ ih =>
    obtain ⟨out, hexpands, hnone⟩ := ih
    refine ⟨.copied c shielded :: out, .copied hexpands, fun name hname => ?_⟩
    obtain hname | hname := List.mem_cons.1 hname
    · cases hname
    · exact hnone name hname
  | @reference used name value as text values bound _ ih =>
    obtain ⟨out, hexpands, hnone⟩ := ih
    refine ⟨Region.bare (value.spelled backend used) ++ out,
      .reference (value.spelled_ne_nil backend used) (value.spelled_inert backend used) hexpands,
      fun other hother => ?_⟩
    obtain hother | hother := List.mem_append.1 hother
    · simp [Region.bare] at hother
    · exact hnone other hother

/-- **A bound statement has nothing left to bind.**  Whatever parameters there are the second time,
and whatever the database, its text is bound to itself and to no values. -/
theorem bind_bound {params : Params} {sql : String} {backend : Backend} {st : Statement}
    (h : params.bind sql backend = .ok st) (others : Params) (other : Backend) :
    others.bind st.sql other = .ok ⟨st.sql, [], other⟩ := by
  obtain ⟨out, hexpands, hnone⟩ := (written_of_bind h).exists_expands
  have hatoms := hexpands.atoms_eq
  rw [String.ofList_toList] at hatoms
  refine bind_of_unmentioned (fun name => ?_) others other
  rw [hatoms]
  exact hnone name

/-- Parameters next to the beginnings of tokens, and a quoted run that is not closed. -/
theorem bind_bound_among_tokens :
    let params : Params := ⟨[("a", .scalar (.bigInt 1)), ("b", .list [])]⟩
    let bound : Statement := ⟨"/$1*-(NULL)-@@a '@a--", [.bigInt 1], .postgres⟩
    params.bind "/@a*-@b-@@a '@a--" .postgres = .ok bound ∧
      Params.bind {} bound.sql .sqlite = .ok ⟨bound.sql, [], .sqlite⟩ := by
  intro params bound
  have hbound : params.bind "/@a*-@b-@@a '@a--" .postgres = .ok bound := by decide +kernel
  exact ⟨hbound, bind_bound hbound {} .sqlite⟩

end ListQuery
