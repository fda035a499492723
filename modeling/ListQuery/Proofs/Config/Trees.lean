import ListQuery.Config.Layers
import ListQuery.Proofs.Datum

/-!
# The data of configuration layers

Documents and environment variables are read into maps, and all maps inside these have ascending
keys.  A document may say that there is nothing under a key.  A variable cannot: what looks like it
is a text.

## What is here

* `Yaml.formed_documentEntries?`, `Yaml.isMap_documentEntries?` — the data of a document.
* `Literal.formed_parse` — the value of a variable.
* `formed_isMap_environmentDatum` — the data of environment variables.
-/

set_option autoImplicit false
namespace ListQuery

open Datum

/-! ## Documents -/

namespace Yaml

theorem formed_scalarDatum (s : String) : (scalarDatum s).Formed True := by
  unfold scalarDatum
  split
  · exact .null trivial
  · split
    · exact .bool _
    · exact .number _
    · split
      · exact .number _
      · exact .text s

theorem formed_taggedScalar? {tag : Option Tag} {s : String} {plain : Bool} {d : Datum}
    (h : taggedScalar? tag s plain = some d) : d.Formed True := by
  unfold taggedScalar? at h
  split at h
  · cases h
    split
    · exact formed_scalarDatum s
    · exact .text s
  · cases h
    split
    · exact formed_scalarDatum s
    · exact .text s
  · obtain ⟨b, -, rfl⟩ := Option.map_eq_some_iff.1 h
    exact .bool b
  · obtain ⟨n, -, rfl⟩ := Option.map_eq_some_iff.1 h
    exact .number n
  · obtain ⟨x, -, rfl⟩ := Option.map_eq_some_iff.1 h
    exact .number _
  · obtain ⟨-, h⟩ := Option.ite_none_right_eq_some.1 h
    cases h
    exact .null trivial
  · cases h
    exact .text s

theorem formed_withTag {d : Datum} (h : d.Formed True) (tag : Option Tag) :
    (withTag tag d).Formed True := by
  unfold withTag
  split
  · exact h.nested _
  · exact h

theorem formed_mapDatum {entries : List (String × Datum)} (h : ∀ e ∈ entries, e.2.Formed True) :
    (mapDatum entries).Formed True := by
  unfold mapDatum
  split
  · next content hcontent =>
    exact h _ (List.mem_reverse.1 (mem_of_lookup_eq_some hcontent))
  · exact formed_ofEntries fun e he => h e (List.mem_filter.1 he).1

namespace Node

mutual

theorem formed_datum? : ∀ {n : Node} {d : Datum}, n.datum? = some d → d.Formed True
  | .scalar tag s plain, d, h => by
    rw [datum?] at h
    obtain ⟨d', hd', rfl⟩ := Option.map_eq_some_iff.1 h
    exact formed_withTag (formed_taggedScalar? hd') tag
  | .sequence tag items, d, h => by
    rw [datum?] at h
    obtain ⟨ds, hds, rfl⟩ := Option.map_eq_some_iff.1 h
    exact formed_withTag (.list (formed_datumItems? hds)) tag
  | .mapping tag entries, d, h => by
    rw [datum?] at h
    obtain ⟨-, h⟩ := Option.ite_none_right_eq_some.1 h
    obtain ⟨es, hes, rfl⟩ := Option.map_eq_some_iff.1 h
    exact formed_withTag (formed_mapDatum (formed_datumEntries? hes)) tag
  | .alias target _ _, d, h => by
    rw [datum?] at h
    exact formed_datum? h

theorem formed_datumItems? : ∀ {items : List Node} {ds : List Datum},
    datumItems? items = some ds → ∀ d ∈ ds, d.Formed True
  | [], ds, h, d, hd => by
    rw [datumItems?] at h
    cases h
    cases hd
  | n :: rest, ds, h, d, hd => by
    rw [datumItems?] at h
    obtain ⟨first, hfirst, h⟩ := Option.bind_eq_some_iff.1 h
    obtain ⟨others, hothers, h⟩ := Option.bind_eq_some_iff.1 h
    cases h
    rcases List.mem_cons.1 hd with rfl | hd
    · exact formed_datum? hfirst
    · exact formed_datumItems? hothers d hd

theorem formed_datumEntries? : ∀ {entries : List (Node × Node)} {es : List (String × Datum)},
    datumEntries? entries = some es → ∀ e ∈ es, e.2.Formed True
  | [], es, h, e, he => by
    rw [datumEntries?] at h
    cases h
    cases he
  | (k, v) :: rest, es, h, e, he => by
    rw [datumEntries?] at h
    obtain ⟨key, -, h⟩ := Option.bind_eq_some_iff.1 h
    obtain ⟨value, hvalue, h⟩ := Option.bind_eq_some_iff.1 h
    obtain ⟨others, hothers, h⟩ := Option.bind_eq_some_iff.1 h
    cases h
    rcases List.mem_cons.1 he with rfl | he
    · exact formed_datum? hvalue
    · exact formed_datumEntries? hothers e he

end

end Node

/-- The root of a document is a map of entries. -/
theorem exists_of_documentEntries? {s : String} {d : Datum} (h : documentEntries? s = some d) :
    ∃ entries, d = ofEntries entries ∧ ∀ e ∈ entries, e.2.Formed True := by
  obtain ⟨tokens, -, h⟩ := Option.bind_eq_some_iff.1 h
  obtain ⟨root?, -, h⟩ := Option.bind_eq_some_iff.1 h
  split at h
  · cases h
    exact ⟨[], rfl, nofun⟩
  · split at h
    · cases h
    · split at h
      · obtain ⟨es, hes, rfl⟩ := Option.map_eq_some_iff.1 h
        exact ⟨es, rfl, Node.formed_datumEntries? hes⟩
      · cases h
        exact ⟨[], rfl, nofun⟩
      · cases h

theorem formed_documentEntries? {s : String} {d : Datum} (h : documentEntries? s = some d) :
    d.Formed True := by
  obtain ⟨entries, rfl, hentries⟩ := exists_of_documentEntries? h
  exact formed_ofEntries hentries

theorem isMap_documentEntries? {s : String} {d : Datum} (h : documentEntries? s = some d) :
    d.IsMap := by
  obtain ⟨entries, rfl, -⟩ := exists_of_documentEntries? h
  exact ⟨_, rfl⟩

end Yaml

/-! ## Environment variables -/

namespace Literal

theorem formed_bare (s : String) : (bare s).Formed False := by
  unfold bare
  split
  · exact .number _
  · split
    · split
      · split
        · exact .number _
        · exact .text s
      · split
        · exact .number _
        · exact .text s
    · exact .text s

/-- What is read with some fuel is formed. -/
structure FormedWithin (fuel : Nat) : Prop where
  value {cs rest : List Char} {d : Datum} (h : value? fuel cs = some (d, rest)) : d.Formed False
  items {items : List Datum} {cs rest : List Char} {d : Datum}
    (h : items? fuel items cs = some (d, rest)) (hitems : ∀ i ∈ items, i.Formed False) :
    d.Formed False
  pairs {entries : List (String × Datum)} {cs rest : List Char} {d : Datum}
    (h : pairs? fuel entries cs = some (d, rest)) (hentries : ∀ e ∈ entries, e.2.Formed False) :
    d.Formed False

variable {fuel : Nat} {cs rest : List Char} {d : Datum}

theorem FormedWithin.value_succ (ih : FormedWithin fuel)
    (h : value? (fuel + 1) cs = some (d, rest)) : d.Formed False := by
  rw [value?] at h
  obtain ⟨⟨d', rest'⟩, hread, h⟩ := Option.map_eq_some_iff.1 h
  dsimp only at h
  obtain ⟨rfl, -⟩ := Prod.mk.inj h
  -- What stands there does not matter, and is not to be computed.
  generalize Text.afterLead? "true".toList (pass cs) = yes,
    Text.afterLead? "false".toList (pass cs) = no at hread
  generalize pass cs = cs' at hread
  split at hread
  · cases hread
    exact .bool true
  · cases hread
    exact .bool false
  · split at hread
    · exact ih.pairs hread nofun
    · exact ih.items hread nofun
    · obtain ⟨p, -, hp⟩ := Option.map_eq_some_iff.1 hread
      cases hp
      exact .text _
    · cases hread
      exact .char _
    · cases hread
    · obtain ⟨rfl, -⟩ := Prod.mk.inj (Option.some.inj hread)
      exact formed_bare _

theorem FormedWithin.items_succ (ih : FormedWithin fuel) {items : List Datum}
    (h : items? (fuel + 1) items cs = some (d, rest)) (hitems : ∀ i ∈ items, i.Formed False) :
    d.Formed False := by
  rw [items?.eq_def] at h
  dsimp only at h
  split at h
  · obtain ⟨rfl, -⟩ := Prod.mk.inj (Option.some.inj h)
    exact .list fun i hi => hitems i (List.mem_reverse.1 hi)
  · obtain ⟨⟨item, more⟩, hitem, h⟩ := Option.bind_eq_some_iff.1 h
    have hall : ∀ i ∈ item :: items, i.Formed False :=
      List.forall_mem_cons.2 ⟨ih.value hitem, hitems⟩
    dsimp only at h
    split at h
    · exact ih.items h hall
    · obtain ⟨rfl, -⟩ := Prod.mk.inj (Option.some.inj h)
      exact .list fun i hi => hall i (List.mem_reverse.1 hi)
    · cases h

theorem FormedWithin.pairs_succ (ih : FormedWithin fuel) {entries : List (String × Datum)}
    (h : pairs? (fuel + 1) entries cs = some (d, rest))
    (hentries : ∀ e ∈ entries, e.2.Formed False) : d.Formed False := by
  rw [pairs?.eq_def] at h
  dsimp only at h
  split at h
  · obtain ⟨rfl, -⟩ := Prod.mk.inj (Option.some.inj h)
    exact formed_ofEntries fun e he => hentries e (List.mem_reverse.1 he)
  · obtain ⟨⟨key, cs₁⟩, -, h⟩ := Option.bind_eq_some_iff.1 h
    obtain ⟨cs₂, -, h⟩ := Option.bind_eq_some_iff.1 h
    obtain ⟨⟨value, more⟩, hvalue, h⟩ := Option.bind_eq_some_iff.1 h
    have hall : ∀ e ∈ (key, value) :: entries, e.2.Formed False :=
      List.forall_mem_cons.2 ⟨ih.value hvalue, hentries⟩
    dsimp only at h
    split at h
    · exact ih.pairs h hall
    · obtain ⟨rfl, -⟩ := Prod.mk.inj (Option.some.inj h)
      exact formed_ofEntries fun e he => hall e (List.mem_reverse.1 he)
    · cases h

theorem formedWithin (fuel : Nat) : FormedWithin fuel := by
  induction fuel with
  | zero => exact ⟨nofun, nofun, nofun⟩
  | succ fuel ih => exact ⟨ih.value_succ, ih.items_succ, ih.pairs_succ⟩

/-- **A variable never holds a null.** -/
theorem formed_parse (s : String) : (parse s).Formed False := by
  unfold parse
  dsimp only
  split
  · next d hread => exact (formedWithin _).value hread
  · exact .text s

end Literal

theorem exists_of_variableKeys? {name : String} {keys : List String}
    (h : variableKeys? name = some keys) : ∃ key rest, keys = key :: rest ∧ key ≠ "" := by
  obtain ⟨rest, -, h⟩ := Option.bind_eq_some_iff.1 h
  dsimp only at h
  obtain ⟨hempty, h⟩ := Option.ite_none_left_eq_some.1 h
  rw [Option.some.injEq] at h
  rw [h] at hempty
  have hne : keys ≠ [] := by
    rw [← h]
    exact Text.pieces_ne_nil _ _
  obtain ⟨key, others, rfl⟩ := List.exists_cons_of_ne_nil hne
  refine ⟨key, others, rfl, ?_⟩
  rintro rfl
  simp at hempty

/-- Each variable is laid over the others as a map, so that the result stays one. -/
theorem formed_isMap_environmentDatum (vars : List (String × String)) :
    (environmentDatum vars).Formed False ∧ (environmentDatum vars).IsMap := by
  unfold environmentDatum
  refine List.foldlRecOn vars _ (motive := fun d : Datum => d.Formed False ∧ d.IsMap)
    ⟨formed_empty, [], rfl⟩ ?_
  rintro d ⟨hformed, hmap⟩ v -
  split
  · next keys hkeys =>
    obtain ⟨key, rest, rfl, hkey⟩ := exists_of_variableKeys? hkeys
    have hvalue : ((Literal.parse v.2).nested (key :: rest)).IsMap := by
      rw [Datum.nested, if_neg hkey]
      exact ⟨_, rfl⟩
    exact ⟨hformed.merge ((Literal.formed_parse v.2).nested _), isMap_merge hmap hvalue⟩
  · exact ⟨hformed, hmap⟩

end ListQuery
