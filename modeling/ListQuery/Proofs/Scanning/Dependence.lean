import ListQuery.Proofs.Params.History
import ListQuery.Proofs.Scanning.Recasing

/-!
# What binding depends on

A statement is made from a text and from parameters, and most of what one knows about the
parameters does not matter to it: in which order they were registered, how their names were
written, which values they had before, and everything about parameters that the text does not
mention.  Nor does it matter in which case the text mentions them.

## What is here

* `Mentions` — a name stands for a parameter in a text.
* `bind_congr` — binding asks for the names that are mentioned, and for nothing else.
* `AlikeUpToCase` — outcomes that differ in the spelling of an unbound parameter at most.
* `bind_of_recased` — what is left of a change of case.
* `bind_depends_on_mentioned` — **binding depends only on the values that are found under the names
  that are mentioned**, together with what follows for two histories of parameters and for two
  texts.
-/

set_option autoImplicit false
namespace ListQuery

/-- The text mentions the parameter, outside of quoted runs and comments. -/
def Mentions (sql name : String) : Prop :=
  .reference name.toList ∈ atoms sql

/-! ## Parameters -/

/-- Atoms are written alike where the parameters among them have the same values. -/
theorem Draft.writeAll_congr {params others : Params} {as : List Atom}
    (h : ∀ name, .reference name ∈ as →
      params.get? (String.ofList name) = others.get? (String.ofList name))
    (backend : Backend) (d : Draft) :
    d.writeAll params backend as = d.writeAll others backend as := by
  induction as generalizing d with
  | nil => rfl
  | cons a as ih =>
    have hwrite : d.write params backend a = d.write others backend a := by
      cases a with
      | copied c shielded => rfl
      | reference name => rw [write, write, h name List.mem_cons_self]
    have hrest (e : Draft) : e.writeAll params backend as = e.writeAll others backend as :=
      ih (fun name hname => h name (List.mem_cons_of_mem a hname)) e
    simp only [writeAll_cons, hwrite, hrest]

/-- **Binding asks for the names that are mentioned, and for nothing else.** -/
theorem bind_congr {sql : String} {params others : Params}
    (h : ∀ name, Mentions sql name → params.get? name = others.get? name) (backend : Backend) :
    params.bind sql backend = others.bind sql backend := by
  have hatoms : ∀ name, .reference name ∈ atoms sql →
      params.get? (String.ofList name) = others.get? (String.ofList name) := fun name hname =>
    h (String.ofList name) (by rwa [Mentions, String.toList_ofList])
  rw [bind_eq_writeAll, bind_eq_writeAll, Draft.writeAll_congr hatoms]

/-! ## Texts -/

/-- The same result, or refusals that spell the unbound parameter in two cases. -/
inductive AlikeUpToCase {α : Type} : (outcome other : Except BindError α) → Prop
  | bound (result : α) : AlikeUpToCase (.ok result) (.ok result)
  | refused {name other : String} (h : Text.sameAscii name other = true) :
      AlikeUpToCase (.error (.unbound name)) (.error (.unbound other))

theorem AlikeUpToCase.map {α β : Type} {outcome other : Except BindError α}
    (h : AlikeUpToCase outcome other) (f : α → β) :
    AlikeUpToCase (outcome.map f) (other.map f) := by
  cases h with
  | bound result => exact .bound (f result)
  | refused h => exact .refused h

theorem Draft.writeAll_of_recased {as bs : List Atom} (h : List.Forall₂ Atom.Recased as bs)
    (params : Params) (backend : Backend) (d : Draft) :
    AlikeUpToCase (d.writeAll params backend as) (d.writeAll params backend bs) := by
  induction h generalizing d with
  | nil => exact .bound d
  | cons hab _ ih =>
    rw [writeAll_cons, writeAll_cons]
    cases hab with
    | copied c shielded => exact ih _
    | reference hsame =>
      rw [write, write, Params.get?_congr hsame]
      split
      · exact ih _
      · exact .refused hsame

/-- The case of parameters in the text is seen in the report of an unbound one, and nowhere
else. -/
theorem bind_of_recased {s t : String} (h : Recased s t) (params : Params) (backend : Backend) :
    AlikeUpToCase (params.bind s backend) (params.bind t backend) := by
  rw [bind_eq_writeAll, bind_eq_writeAll]
  exact (Draft.writeAll_of_recased h.atoms params backend _).map (Draft.statement backend)

/-! ## Together -/

/-- **Binding depends only on the values of the parameters that are mentioned.**  Parameters that
agree there are bound to the same statement, or refused for the same name.  So are those that come
from histories with other orders, other spellings, other replaced values and other parameters that
are not mentioned.  And a text that mentions its parameters in other cases is bound to the same
statement, or refused for the same name in its other case. -/
theorem bind_depends_on_mentioned (sql : String) (backend : Backend) :
    (∀ params others : Params,
      (∀ name, Mentions sql name → params.get? name = others.get? name) →
        params.bind sql backend = others.bind sql backend) ∧
      (∀ (params : Params) (history other : List (String × ParamValue)),
        Relation.EqvGen (Params.Retold (Mentions sql)) history other →
          (params.addAll history).bind sql backend = (params.addAll other).bind sql backend) ∧
      ∀ (params : Params) (t : String), Recased sql t →
        AlikeUpToCase (params.bind sql backend) (params.bind t backend) := by
  refine ⟨fun params others h => bind_congr h backend, fun params history other h => ?_,
    fun params t h => bind_of_recased h params backend⟩
  exact bind_congr (fun name hname => Params.get?_addAll_of_retold h params hname) backend

/-- A replaced value, a parameter that is only mentioned in quotes, and a name in another case. -/
theorem bind_depends_on_mentioned_id :
    let sql := "@id '@at'"
    let history : List (String × ParamValue) :=
      [("id", .scalar (.bigInt 1)), ("at", .scalar (.bigInt 2)), ("id", .scalar (.bigInt 3))]
    let other : List (String × ParamValue) := [("ID", .scalar (.bigInt 3))]
    (Params.addAll {} history).bind sql .postgres = (Params.addAll {} other).bind sql .postgres ∧
      AlikeUpToCase (Params.bind {} sql .postgres) (Params.bind {} "@Id '@at'" .postgres) := by
  intro sql history other
  have hatoms : atoms sql = [.reference ['i', 'd'], .copied ' ' false, .copied '\'' false,
      .copied '@' true, .copied 'a' true, .copied 't' true, .copied '\'' true] := by
    decide
  have hat : ∀ name, Mentions sql name → Text.sameAscii "at" name = false := by
    intro name hname
    rw [Mentions, hatoms] at hname
    have hid : name.toList = ['i', 'd'] := by simpa using hname
    rw [← Bool.not_eq_true, Text.sameAscii_iff_map, hid]
    decide
  have hhistory : Relation.EqvGen (Params.Retold (Mentions sql)) history other :=
    .trans _ _ _
      (.rel _ _ (.replaced [] (Text.sameAscii_self "id") [("at", .scalar (.bigInt 2))] []))
      (.trans _ _ _ (.rel _ _ (.unasked [] hat [("id", .scalar (.bigInt 3))]))
        (.rel _ _ (.respelled [] (Text.sameAscii_iff_map.2 (by decide)) (.scalar (.bigInt 3)) [])))
  have htext : Recased sql "@Id '@at'" := by
    refine ⟨.reference ['I', 'd'] :: (atoms sql).tail, ?_, ?_⟩
    · rw [hatoms]
      exact .cons (.reference (Text.sameAscii_iff_map.2 (by decide)))
        (List.forall₂_same.2 fun a _ => a.recased_self)
    · rw [hatoms]
      decide
  obtain ⟨-, hretold, hrecased⟩ := bind_depends_on_mentioned sql .postgres
  exact ⟨hretold {} history other hhistory, hrecased {} "@Id '@at'" htext⟩

end ListQuery
