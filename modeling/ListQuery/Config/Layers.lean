import ListQuery.Config.Extract
import ListQuery.Config.Literal
import ListQuery.Text.Split
import ListQuery.Yaml.Document

/-!
# Layers of configuration

Settings are put together from layers. A later layer overrides an earlier one key by key.

* `Layer` — a source of settings; `Layer.datum` — what it sets.
* `Settings.ofLayers` — the settings of layers in order.
* `Settings.load` — the usual layers: standard settings, a document, and environment variables.
* `Settings.loadOrStandard` — the same for a service that may have no place for a document.
-/

set_option autoImplicit false
namespace ListQuery

/-- A source of settings. -/
inductive Layer where
  /-- The standard settings. -/
  | standard
  /-- A document in YAML. -/
  | document (text : String)
  /-- A value under a key with dots. -/
  | entry (key : String) (value : Datum)
  /-- Environment variables, in order. -/
  | environment (vars : List (String × String))

/-! ## Keys -/

/-- How the names of environment variables begin. -/
def variableLead : String := "SHAPING__"

/-- Two underscores in a row become a dot. -/
def dotted : List Char → List Char
  | [] => []
  | '_' :: '_' :: cs => '.' :: dotted cs
  | c :: cs => c :: dotted cs

/-- The keys that a variable sets, if it belongs to the settings. Neither case nor blanks around
the name matter, and a variable with an empty key is passed over. -/
def variableKeys? (name : String) : Option (List String) := do
  let lead := (Text.lowerAscii variableLead).toList
  let rest ← Text.afterLead? lead (Text.lowerAscii (Text.trim name)).toList
  let keys := Text.pieces '.' (Text.trim (String.ofList (dotted rest)))
  if keys.contains "" then none else some keys

/-- What environment variables set, laid over each other in order. -/
def environmentDatum (vars : List (String × String)) : Datum :=
  vars.foldl (fun d v =>
    match variableKeys? v.1 with
    | some keys => d.merge ((Literal.parse v.2).nested keys)
    | none => d) (.map [])

/-! ## Layers -/

/-- What a layer sets, as a map. -/
def Layer.datum : Layer → Except ConfigError Datum
  | .standard => .ok Settings.standard.toDatum
  | .document text =>
    match Yaml.documentEntries? text with
    | some d => .ok d
    | none => .error .malformed
  | .entry key value =>
    match value.nested (Text.pieces '.' key) with
    | .map entries => .ok (.map entries)
    | _ => .error (.mismatch [] (.wrongType value .map))
  | .environment vars => .ok (environmentDatum vars)

namespace Settings

/-- The settings that layers make up. A layer that cannot be read is reported before anything that
is wrong with its contents. -/
def ofLayers (layers : List Layer) : Except ConfigError Settings := do
  let data ← layers.mapM Layer.datum
  read (data.foldl Datum.merge (.map []))

/-- The settings of a service: standard settings, under those of a document if there is one, under
those of environment variables. -/
def load (document : Option String) (vars : List (String × String)) :
    Except ConfigError Settings :=
  ofLayers ([.standard] ++ document.toList.map Layer.document ++ [.environment vars])

/-- The settings of a service that may be told where its document is, which need not exist. If it is
not told, it has the standard settings, whatever the environment variables are. -/
def loadOrStandard (place : Option (Option String)) (vars : List (String × String)) :
    Except ConfigError Settings :=
  match place with
  | none => .ok standard
  | some document => load document vars

end Settings
end ListQuery
