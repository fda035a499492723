import Mathlib.Data.List.Infix
import ListQuery.Proofs.Scanning.Binding

/-!
# Text between marks

What stands in a quoted run or in a comment is copied, whatever it looks like: a parameter in it is
no parameter, and a mark of another kind opens nothing.  So two statements that differ only there
are bound alike.

## What is here

* `Enclosure` — quoted runs, line comments and block comments, with the marks that open and close
  them.  `Enclosure.Admits` are the texts that do not close the region themselves.
* `Lexeme.throughQuote_enclosed`, `Lexeme.throughComment_enclosed` — a jump over such a text ends at
  the mark behind it and not before.
* `unshielded_atoms_enclosed` — **a region is cut out of a text**: the atoms are those of the text
  before it, the characters of the region, and the atoms of the text behind it, even if the text
  before it ends in the middle of a token.
* `Params.bind_enclosed` — what a text with a region is bound to, for all bodies of the region at
  once.
* `enclosed_text_is_copied` — **two bodies**: the same error, or the same values and the same text
  around them.
-/

set_option autoImplicit false
namespace ListQuery

/-- The kinds of regions in which text is copied as it stands. -/
inductive Enclosure where
  | quoted (quote : Quote)
  | lineComment
  | blockComment
  deriving DecidableEq, Repr

namespace Enclosure

/-- The mark that opens a region in code. -/
def opening : Enclosure → List Char
  | quoted quote => [quote.mark]
  | lineComment => ['-', '-']
  | blockComment => ['/', '*']

/-- The mark that closes it.  A line comment is closed by the end of its line. -/
def closing : Enclosure → List Char
  | quoted quote => [quote.mark]
  | lineComment => ['\n']
  | blockComment => ['*', '/']

/-- Where a reader stands behind the opening mark. -/
def inside : Enclosure → Region
  | quoted quote => .quoted quote
  | lineComment => .lineComment
  | blockComment => .blockComment false

/-- A text with the marks around it. -/
def around (e : Enclosure) (body : String) : String :=
  String.ofList (e.opening ++ body.toList ++ e.closing)

/-- A text in which the closing mark does not occur. -/
def Admits (e : Enclosure) (body : String) : Prop :=
  ¬ e.closing <:+: body.toList

instance (e : Enclosure) (body : String) : Decidable (e.Admits body) :=
  inferInstanceAs (Decidable (¬ _))

end Enclosure

/-- A text that leaves nothing open: at its end a reader stands in code. -/
def EndsInCode (sql : String) : Prop :=
  ∃ lead, Region.after (.code .none) sql.toList = .code lead

/-! ## Jumping over a body -/

namespace Lexeme

theorem throughQuote_enclosed {quote : Char} {body : List Char} (h : quote ∉ body)
    (rest : List Char) :
    throughQuote quote (body ++ quote :: rest) = (body ++ [quote], rest) := by
  induction body with
  | nil => exact if_pos rfl
  | cons c body ih =>
    have hc : c ≠ quote := fun e => h (e ▸ List.mem_cons_self)
    have hbody : quote ∉ body := fun hq => h (List.mem_cons_of_mem c hq)
    rw [List.cons_append, throughQuote, if_neg hc, ih hbody]
    rfl

/-- A star at the end of the body does not close the comment together with the mark behind it. -/
theorem throughComment_enclosed {body : List Char} (h : ¬ ['*', '/'] <:+: body)
    (rest : List Char) :
    throughComment (body ++ '*' :: '/' :: rest) = (body ++ ['*', '/'], rest) := by
  induction body with
  | nil => rfl
  | cons c body ih =>
    have hbody : ¬ ['*', '/'] <:+: body := fun hin => h (List.infix_cons hin)
    have hclose : ∀ tail, c = '*' → body ++ '*' :: '/' :: rest = '/' :: tail → False := by
      rintro tail rfl hnext
      cases body with
      | nil => simp at hnext
      | cons d body =>
        obtain rfl : d = '/' := (List.cons.inj hnext).1
        exact h ⟨[], body, rfl⟩
    rw [List.cons_append, throughComment.eq_3 _ _ hclose, ih hbody]
    rfl

end Lexeme

namespace Region

/-- A reader comes out of a region behind its closing mark. -/
theorem read_inside (e : Enclosure) {body : List Char} (h : ¬ e.closing <:+: body)
    (rest : List Char) :
    (read e.inside (body ++ (e.closing ++ rest))).map Atom.unshielded =
      bare (body ++ e.closing) ++ (read (.code .none) rest).map Atom.unshielded := by
  cases e with
  | quoted quote =>
    have hbody : quote.mark ∉ body := by
      intro hmark
      obtain ⟨s, t, rfl⟩ := List.append_of_mem hmark
      exact h ⟨s, t, by simp [Enclosure.closing]⟩
    show (read (.quoted quote) (body ++ quote.mark :: rest)).map _ = _
    rw [read_quoted, Lexeme.throughQuote_enclosed hbody]
    simp [shielded, bare, Atom.unshielded, Enclosure.closing]
  | lineComment =>
    have hbody : ∀ c ∈ body, (c != '\n') = true := by
      intro c hc
      rw [bne_iff_ne]
      rintro rfl
      obtain ⟨s, t, rfl⟩ := List.append_of_mem hc
      exact h ⟨s, t, by simp [Enclosure.closing]⟩
    show (read .lineComment (body ++ '\n' :: rest)).map _ = _
    rw [read_lineComment, List.takeWhile_append_of_pos hbody, List.dropWhile_append_of_pos hbody]
    show (shielded (body ++ []) ++ .copied '\n' false :: read (.code .none) rest).map _ = _
    simp [shielded, bare, Atom.unshielded, Enclosure.closing]
  | blockComment =>
    show (read (.blockComment false) (body ++ '*' :: '/' :: rest)).map _ = _
    rw [read_blockComment, Lexeme.throughComment_enclosed h]
    simp [shielded, bare, Atom.unshielded, Enclosure.closing]

/-- What has been begun in code ends where a region is opened, and the opening mark is copied. -/
theorem read_opening (e : Enclosure) (lead : Lead) (cs : List Char) :
    (read (.code lead) (e.opening ++ cs)).map Atom.unshielded =
      (finish (.code lead)).map Atom.unshielded ++
        (bare e.opening ++ (read e.inside cs).map Atom.unshielded) := by
  rcases e with (_ | _ | _) | _ | _ <;> rcases lead with _ | _ | _ | _ | _ <;> rfl

end Region

/-! ## A region in a text -/

/-- **A region is cut out of a text.**  Around it there are the atoms that the rest of the text has
without it, even if the text in front of it ends in the middle of a token. -/
theorem unshielded_atoms_enclosed {a : String} (ha : EndsInCode a) (e : Enclosure) {body : String}
    (h : e.Admits body) (b : String) :
    (atoms (a ++ e.around body ++ b)).map Atom.unshielded =
      (atoms a).map Atom.unshielded ++
        (Region.bare (e.around body).toList ++ (atoms b).map Atom.unshielded) := by
  obtain ⟨lead, hlead⟩ := ha
  have hbare : Region.bare (e.around body).toList =
      Region.bare e.opening ++ Region.bare (body.toList ++ e.closing) := by
    rw [Enclosure.around, String.toList_ofList, List.append_assoc, Region.bare, List.map_append]
    rfl
  have htext : (a ++ e.around body ++ b).toList =
      a.toList ++ (e.opening ++ (body.toList ++ (e.closing ++ b.toList))) := by
    simp only [Enclosure.around, String.toList_append, String.toList_ofList, List.append_assoc]
  have hfirst : (atoms a).map Atom.unshielded =
      (Region.known (.code .none) a.toList).map Atom.unshielded ++
        (Region.finish (.code lead)).map Atom.unshielded := by
    rw [atoms, Region.read_eq_known, hlead, List.map_append]
  rw [hfirst, hbare, atoms, htext, Region.read_append, hlead, List.map_append,
    Region.read_opening, Region.read_inside e h, ← atoms]
  simp only [List.append_assoc]

/-- The text in front of a region is written first, then the region as it stands, then the text
behind it. -/
theorem bind_enclosed_eq_writeAll {a : String} (ha : EndsInCode a) (e : Enclosure) {body : String}
    (h : e.Admits body) (b : String) (params : Params) (backend : Backend) :
    params.bind (a ++ e.around body ++ b) backend =
      ((Draft.writeAll params backend ⟨[], []⟩ (atoms a)).bind fun d =>
        Draft.writeAll params backend ⟨d.text ++ (e.around body).toList, d.values⟩
          (atoms b)).map (Draft.statement backend) := by
  rw [bind_eq_writeAll, ← Draft.writeAll_unshielded, unshielded_atoms_enclosed ha e h,
    Draft.writeAll_append, Draft.writeAll_unshielded]
  cases Draft.writeAll params backend ⟨[], []⟩ (atoms a) with
  | error err => rfl
  | ok d =>
    show (d.writeAll params backend (_ ++ _)).map _ = _
    rw [Draft.writeAll_append, Draft.writeAll_bare, Except.bind, Draft.writeAll_unshielded]
    rfl

/-- What is written around a region, or why the text is refused, is the same for all bodies. -/
theorem Params.bind_enclosed {a : String} (ha : EndsInCode a) (e : Enclosure) (b : String)
    (params : Params) (backend : Backend) :
    (∃ err, ∀ body, e.Admits body → params.bind (a ++ e.around body ++ b) backend = .error err) ∨
      ∃ before after values, (params.bind a backend).map Statement.sql = .ok before ∧
        ∀ body, e.Admits body → params.bind (a ++ e.around body ++ b) backend =
          .ok ⟨before ++ e.around body ++ after, values, backend⟩ := by
  obtain ⟨s, vs, hs⟩ | ⟨name, hname⟩ := written_or_firstUnbound params backend 0 (atoms a)
  · have hfirst := Draft.writeAll_of_written hs ⟨[], []⟩ rfl
    obtain ⟨t, ws, ht⟩ | ⟨name, hname⟩ :=
      written_or_firstUnbound params backend vs.length (atoms b)
    · refine Or.inr ⟨String.ofList s, String.ofList t, vs ++ ws, ?_, fun body h => ?_⟩
      · rw [bind_of_written hs]
        rfl
      · rw [bind_enclosed_eq_writeAll ha e h, hfirst, Except.bind,
          Draft.writeAll_of_written ht _ rfl]
        refine congrArg Except.ok ?_
        simp only [Draft.statement, String.ofList_append, String.ofList_toList, List.nil_append]
    · refine Or.inl ⟨.unbound name, fun body h => ?_⟩
      rw [bind_enclosed_eq_writeAll ha e h, hfirst, Except.bind,
        Draft.writeAll_of_firstUnbound hname]
      rfl
  · refine Or.inl ⟨.unbound name, fun body h => ?_⟩
    rw [bind_enclosed_eq_writeAll ha e h, Draft.writeAll_of_firstUnbound hname]
    rfl

/-- **What is enclosed cannot affect binding.**  Let a text leave nothing open, and let a region
stand between it and another text.  With any two bodies, of which neither contains the closing mark,
the whole is refused for the same parameter, or it is bound to the same values and to texts that
differ in the body of the region and in nothing else.  In front of the region they have what the
first text is bound to by itself. -/
theorem enclosed_text_is_copied {a : String} (ha : EndsInCode a) (e : Enclosure) {c d : String}
    (hc : e.Admits c) (hd : e.Admits d) (b : String) (params : Params) (backend : Backend) :
    (∃ err, params.bind (a ++ e.around c ++ b) backend = .error err ∧
        params.bind (a ++ e.around d ++ b) backend = .error err) ∨
      ∃ before after values, (params.bind a backend).map Statement.sql = .ok before ∧
        params.bind (a ++ e.around c ++ b) backend =
          .ok ⟨before ++ e.around c ++ after, values, backend⟩ ∧
        params.bind (a ++ e.around d ++ b) backend =
          .ok ⟨before ++ e.around d ++ after, values, backend⟩ := by
  obtain ⟨err, herr⟩ | ⟨before, after, values, hbefore, hok⟩ :=
    params.bind_enclosed ha e b backend
  · exact Or.inl ⟨err, herr c hc, herr d hd⟩
  · exact Or.inr ⟨before, after, values, hbefore, hok c hc, hok d hd⟩

/-- The first text ends with the beginning of a token, one body is full of foreign marks, and what
follows the region goes on with a quote. -/
theorem enclosed_text_is_copied_hostile_comment :
    let params : Params :=
      ⟨[("id", .scalar (.bigInt 1)), ("ids", .list [.bigInt 2, .bigInt 3])]⟩
    let a := "SELECT @id, 6 /"
    let b := "'@id' IN @ids"
    let c := "/ don't -- @missing /* \" *"
    EndsInCode a ∧ Enclosure.blockComment.Admits c ∧ Enclosure.blockComment.Admits "" ∧
      a ++ Enclosure.blockComment.around c ++ b =
        "SELECT @id, 6 //*/ don't -- @missing /* \" **/'@id' IN @ids" ∧
      ∃ before after values,
        params.bind (a ++ Enclosure.blockComment.around c ++ b) .postgres =
          .ok ⟨before ++ Enclosure.blockComment.around c ++ after, values, .postgres⟩ ∧
        params.bind (a ++ Enclosure.blockComment.around "" ++ b) .postgres =
          .ok ⟨before ++ Enclosure.blockComment.around "" ++ after, values, .postgres⟩ := by
  intro params a b c
  have ha : EndsInCode a := ⟨.slash, by decide +kernel⟩
  have hc : Enclosure.blockComment.Admits c := by decide +kernel
  have hd : Enclosure.blockComment.Admits "" := by decide +kernel
  have hok : (params.bind (a ++ Enclosure.blockComment.around c ++ b) .postgres).isOk = true := by
    decide +kernel
  refine ⟨ha, hc, hd, by decide +kernel, ?_⟩
  obtain ⟨err, herr, -⟩ | ⟨before, after, values, -, hbound, hbound'⟩ :=
    enclosed_text_is_copied ha .blockComment hc hd b params .postgres
  · rw [herr] at hok
    cases hok
  · exact ⟨before, after, values, hbound, hbound'⟩

end ListQuery
