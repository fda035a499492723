import ListQuery.Proofs.Config.Pages
import ListQuery.Proofs.Config.Reading
import ListQuery.Proofs.Config.Trees

/-!
# Settings from layers

Standard settings lie under those of a document, and these under those of environment variables.
Layers are joined as data, before anything is read, and only the outcome has to make sense.  A
variable cannot hold a dialect that is written as a map, because there are no nulls in variables, so
that the dialect of the variables always replaces that of the document.

## What is here

* `Settings.load_eq` — what is read where everything is loaded.
* `Settings.layers_override_setting_by_setting` — **each setting comes from the last layer that has
  it, and only the outcome is checked.**
-/

set_option autoImplicit false
namespace ListQuery
namespace Settings

/-! ## Layers -/

theorem sets_standard : standard.toDatum.Sets (.ofSettings standard) where
  knownKeys := Datum.not_hasUnknownKey (by decide) (by
    rintro limits ⟨⟩
    decide)
  isMap_paging := by
    rintro m ⟨⟩
    exact ⟨_, rfl⟩
  usual := .some (Or.inl rfl)
  max := .some (Or.inl rfl)
  dialect := .some (Or.inl rfl)

theorem formed_toDatum (s : Settings) : s.toDatum.Formed True := by
  have houter : "dialect" < "paging" := by decide
  have hinner : "default" < "max" := by decide
  refine .map (List.pairwise_pair.2 houter) ?_
  refine List.forall_mem_cons.2 ⟨.text _, List.forall_mem_singleton.2 ?_⟩
  refine .map (List.pairwise_pair.2 hinner) ?_
  exact List.forall_mem_cons.2 ⟨.number _, List.forall_mem_singleton.2 (.number _)⟩

theorem datum_document_eq_ok_iff {text : String} {d : Datum} :
    (Layer.document text).datum = .ok d ↔ Yaml.documentEntries? text = some d := by
  rw [Layer.datum]
  cases Yaml.documentEntries? text with
  | none => exact ⟨nofun, nofun⟩
  | some d' => rw [Except.ok.injEq, Option.some_inj]

/-- Without nulls a dialect is a text, and it replaces whatever there is. -/
theorem not_isMap_of_isDialect {v : Datum} {dialect : PagingDialect} (h : v.IsDialect dialect)
    (hformed : v.Formed False) : ¬ v.IsMap := by
  rcases h with rfl | rfl
  · exact Datum.not_isMap_text _
  · have hnull := hformed.of_mem List.mem_cons_self
    cases hnull with
    | null h => exact h.elim

/-! ## Loading -/

theorem ofLayers_eq {layers : List Layer} {data : List Datum}
    (h : List.Forall₂ (fun l d => Layer.datum l = .ok d) layers data) :
    ofLayers layers = read (data.foldl Datum.merge (.map [])) := by
  rw [ofLayers, mapM_eq_ok_iff.2 h]
  rfl

/-- A missing document counts as an empty one. -/
theorem load_eq {document : Option String} {d : Datum}
    (hdocument : (Layer.document (document.getD "")).datum = .ok d)
    (vars : List (String × String)) :
    load document vars = read ((standard.toDatum.merge d).merge (environmentDatum vars)) := by
  have hstandard : (Datum.map []).merge standard.toDatum = standard.toDatum := rfl
  cases document with
  | none =>
    have hempty : (Layer.document "").datum = .ok (.map []) := rfl
    rw [Option.getD_none, hempty, Except.ok.injEq] at hdocument
    have hlayers : load none vars =
        read (((Datum.map []).merge standard.toDatum).merge (environmentDatum vars)) :=
      ofLayers_eq (.cons rfl (.cons rfl .nil))
    have hd : standard.toDatum.merge d = standard.toDatum := by
      rw [← hdocument]
      rfl
    rw [hlayers, hstandard, hd]
  | some text =>
    have hlayers : load (some text) vars =
        read ((((Datum.map []).merge standard.toDatum).merge d).merge (environmentDatum vars)) :=
      ofLayers_eq (.cons rfl (.cons hdocument (.cons rfl .nil)))
    rw [hlayers, hstandard]

/-- **Each setting comes from the last layer that has it, and only the outcome is checked.**  Where
a document and environment variables set nothing but some of the settings, each one is that of the
variables, else that of the document, else the standard one.  What is put together like this is
loaded exactly if the usual number of rows is at least one and not above the greatest, and if not,
these two numbers are reported; it does not matter whether the layers make sense by themselves.  An
unknown key in one of the layers, at their root or in the map of paging, makes the data unreadable,
whatever else is set there, unless the variables put something else in place of that whole map. -/
theorem layers_override_setting_by_setting {document : Option String} {d : Datum}
    (hdocument : (Layer.document (document.getD "")).datum = .ok d)
    (vars : List (String × String)) :
    (∀ lower upper : Patch, d.Sets lower → (environmentDatum vars).Sets upper →
      load document vars =
        if 1 ≤ (upper.onto lower).settings.limits.usual ∧
          (upper.onto lower).settings.limits.usual ≤ (upper.onto lower).settings.limits.max
        then .ok (upper.onto lower).settings
        else .error (.invalidLimits (upper.onto lower).settings.limits)) ∧
    ((environmentDatum vars).HasUnknownKey ∨ (d.HasUnknownKey ∧
        ∀ m, (environmentDatum vars).get? "paging" = some m → m.IsMap) →
      ∃ path fault, load document vars = .error (.mismatch path fault)) := by
  obtain ⟨henvFormed, henvMap⟩ := formed_isMap_environmentDatum vars
  have hentries := datum_document_eq_ok_iff.1 hdocument
  have hdMap := Yaml.isMap_documentEntries? hentries
  have hdFormed := Yaml.formed_documentEntries? hentries
  have hstandard : standard.toDatum.IsMap := ⟨_, rfl⟩
  have hfirstMap := Datum.isMap_merge hstandard hdMap
  rw [load_eq hdocument vars]
  constructor
  · intro lower upper hlower hupper
    have hreplaced : ∀ v w, standard.toDatum.get? "dialect" = some v →
        d.get? "dialect" = some w → v.merge w = w := by
      rintro v w ⟨⟩ -
      exact Datum.merge_eq_right fun hmap => absurd hmap (Datum.not_isMap_text _)
    have hreplaced' : ∀ v w, (standard.toDatum.merge d).get? "dialect" = some v →
        (environmentDatum vars).get? "dialect" = some w → v.merge w = w := by
      intro v w _ hw
      have hdialect := hupper.dialect
      rw [hw] at hdialect
      obtain ⟨dialect, h⟩ := exists_of_rel hdialect
      exact Datum.merge_eq_right fun _ =>
        not_isMap_of_isDialect h (henvFormed.of_get?_eq_some hw)
    have hfirst := sets_standard.merge hlower hstandard hdMap hdFormed hreplaced
    have hsecond := hfirst.merge hupper hfirstMap henvMap henvFormed hreplaced'
    have hformed := ((formed_toDatum standard).merge hdFormed).merge (henvFormed.mono False.elim)
    rw [read_of_sets (Datum.isMap_merge hfirstMap henvMap) hformed hsecond,
      Patch.settings_onto_onto_standard]
    simp only [isValid_iff]
  · intro hunknown
    refine exists_mismatch_of_hasUnknownKey ?_
    rcases hunknown with hunknown | ⟨hunknown, hpaging⟩
    · exact hunknown.merge_right hfirstMap henvMap henvFormed
    · exact (hunknown.merge_right hstandard hdMap hdFormed).merge_left hfirstMap henvMap henvFormed
        hpaging

/-- Limits that make no sense in the document are repaired by a variable.  Another document has an
unknown key. -/
theorem layers_override_setting_by_setting_repaired :
    let document := "paging:\n  default: 500\n  max: 100\n"
    let other := "paging:\n  maximum: 5\n"
    let vars := [("SHAPING__DIALECT", "limit_offset"), ("SHAPING__PAGING__MAX", "1000")]
    load (some document) vars = .ok ⟨⟨500, 1000⟩, .limitOffset⟩ ∧
      load (some document) [] = .error (.invalidLimits ⟨500, 100⟩) ∧
      ∃ path fault, load (some other) vars = .error (.mismatch path fault) := by
  intro document other vars
  have hentries : Yaml.documentEntries? document = some (.map [("paging", .map
      [("default", .number (.natural 500)), ("max", .number (.natural 100))])]) := by
    decide +kernel
  have hother : Yaml.documentEntries? other =
      some (.map [("paging", .map [("maximum", .number (.natural 5))])]) := by
    decide +kernel
  have hvars : environmentDatum vars = .map [("dialect", .text "limit_offset"),
      ("paging", .map [("max", .number (.natural 1000))])] := by
    decide +kernel
  have hlower : (Datum.map [("paging", .map [("default", .number (.natural 500)),
      ("max", .number (.natural 100))])]).Sets ⟨some 500, some 100, none⟩ := by
    refine ⟨Datum.not_hasUnknownKey (by decide) ?_, ?_, .some (Or.inl rfl), .some (Or.inl rfl),
      .none⟩
    · rintro limits ⟨⟩
      decide
    · rintro m ⟨⟩
      exact ⟨_, rfl⟩
  have hupper : (environmentDatum vars).Sets ⟨none, some 1000, some .limitOffset⟩ := by
    rw [hvars]
    refine ⟨Datum.not_hasUnknownKey (by decide) ?_, ?_, .none, .some (Or.inl rfl),
      .some (Or.inl rfl)⟩
    · rintro limits ⟨⟩
      decide
    · rintro m ⟨⟩
      exact ⟨_, rfl⟩
  have hnone : (environmentDatum []).Sets ⟨none, none, none⟩ :=
    ⟨Datum.not_hasUnknownKey nofun nofun, nofun, .none, .none, .none⟩
  have hunknown :
      Datum.HasUnknownKey (.map [("paging", .map [("maximum", .number (.natural 5))])]) :=
    @Datum.HasUnknownKey.paging _ "maximum" (by decide) rfl
  have hdocument := datum_document_eq_ok_iff.2 hentries
  refine ⟨?_, ?_, ?_⟩
  · exact (@layers_override_setting_by_setting (some document) _ hdocument vars).1 _ _ hlower hupper
  · exact (@layers_override_setting_by_setting (some document) _ hdocument []).1 _ _ hlower hnone
  · exact (@layers_override_setting_by_setting (some other) _
      (datum_document_eq_ok_iff.2 hother) vars).2 (Or.inr ⟨hunknown, hupper.isMap_paging⟩)

end Settings
end ListQuery
