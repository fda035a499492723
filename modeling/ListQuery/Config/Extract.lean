import ListQuery.Config.Settings
import ListQuery.Number.Integer
import ListQuery.Reading.Body

/-!
# Settings from data

* `ConfigError` — why settings cannot be loaded.
* `Settings.read` — settings from a data tree, with the path to the first fault.
* `Settings.toDatum` — settings as a data tree.

The entries of a map are read in the order of their keys. What is missing has its standard value.
-/

set_option autoImplicit false
namespace ListQuery

/-- Why settings cannot be loaded. -/
inductive ConfigError where
  /-- A document that cannot be read, or whose root is no map. -/
  | malformed
  /-- Data that does not describe settings, at a path of keys. -/
  | mismatch (path : List String) (fault : ReadFault)
  | invalidLimits (limits : Limits)

/-! ## Reports -/

/-- Data as messages about a configuration name it. -/
def Datum.settingText : Datum → String
  | .null => "unit"
  | .bool b => "bool " ++ (if b then "true" else "false")
  | .number (.natural n) =>
    if n ≤ maxUnsigned then "unsigned int `" ++ naturalText n ++ "`"
    else "integer `" ++ naturalText n ++ "` as u128"
  | .number (.signed n) =>
    if int64Range.1 ≤ n then "signed int `" ++ integerText n ++ "`"
    else "integer `" ++ integerText n ++ "` as i128"
  | .number (.double x) => "float `" ++ x.plainText ++ "`"
  | .text s => "string " ++ Text.quoted s
  | .char c => "string " ++ Text.quoted (String.singleton c)
  | .list _ => "sequence"
  | .map _ => "map"

namespace ConfigError

/-- The kind of a fault in a configuration. -/
def faultKind : ReadFault → String
  | .wrongType _ _ => "InvalidType"
  | .wrongValue _ _ => "InvalidValue"
  | .surplus _ => "InvalidLength"
  | .repeatedField _ => "DuplicateField"
  | .unknownField _ _ => "UnknownField"
  | .unknownChoice _ _ => "UnknownVariant"

/-- The report of a fault in a configuration. -/
def faultMessage : ReadFault → String
  | .wrongType found expected =>
    "invalid type: found " ++ found.settingText ++ ", expected " ++ expected.name
  | .wrongValue found expected =>
    "invalid value " ++ found.settingText ++ ", expected " ++ expected.name
  | .surplus length => "invalid length " ++ naturalText length
  | .repeatedField name => "duplicate field `" ++ name ++ "`"
  | .unknownField name known =>
    "unknown field: found `" ++ name ++ "`, expected `" ++ knownNames known ++ "`"
  | .unknownChoice name known =>
    "unknown variant: found `" ++ name ++ "`, expected `" ++ knownNames known ++ "`"

/-- The report of limits that make no sense. -/
def limitsMessage (l : Limits) : String :=
  "paging.default (" ++ naturalText l.usual.toNat ++ ") must be between 1 and paging.max (" ++
    naturalText l.max.toNat ++ ")"

end ConfigError

/-! ## Readers -/

/-- Names the key under which a fault was found. -/
def under {α : Type} (key : String) (r : Except ConfigError α) : Except ConfigError α :=
  match r with
  | .error (.mismatch path fault) => .error (.mismatch (key :: path) fault)
  | r => r

/-- A fault at the place that is read. -/
def here {α : Type} (r : Except ReadFault α) : Except ConfigError α :=
  r.mapError fun fault => .mismatch [] fault

namespace Limits

/-- Reads one entry of a map. -/
def extractEntry (l : Limits) (entry : String × Datum) : Except ConfigError Limits :=
  under entry.1 (here (l.readEntry entry))

/-- Reads limits: a map of the fields, or a list of their values, of which further ones are passed
over. -/
def extract : Datum → Except ConfigError Limits
  | .map entries => entries.foldlM extractEntry standard
  | .list items => do
    let usual ← items[0]?.mapM fun d => under "0" (here (readUnsigned d))
    let max ← items[1]?.mapM fun d => under "1" (here (readUnsigned d))
    .ok ⟨usual.getD standard.usual, max.getD standard.max⟩
  | d => here (.error (.wrongType d .limits))

end Limits

/-- Reads a dialect: its name, or a map whose first key is its name and has no value. -/
def PagingDialect.extract : Datum → Except ConfigError PagingDialect
  | .text s => here (chooseByName choices s)
  | .map [] => here (.error (.wrongType (.map []) .anyChoice))
  | .map ((key, value) :: _) =>
    under key (here (do
      let dialect ← chooseByName choices key
      match value with
      | .null => .ok dialect
      | d => .error (.wrongType d .unit)))
  | d => here (.error (.wrongType d (.namedChoice "PagingDialect")))

namespace Settings

/-- The names of the fields. -/
def fieldNames : List String := ["paging", "dialect"]

/-- Reads one entry of a map. -/
def extractEntry (s : Settings) (entry : String × Datum) : Except ConfigError Settings :=
  let (key, value) := entry
  under key <|
    if key = "paging" then (Limits.extract value).map fun l => { s with limits := l }
    else if key = "dialect" then
      (PagingDialect.extract value).map fun d => { s with dialect := d }
    else here (.error (.unknownField key fieldNames))

/-- Reads settings and checks their limits. -/
def read (d : Datum) : Except ConfigError Settings := do
  let s ← match d with
    | .map entries => entries.foldlM extractEntry standard
    | d => here (.error (.wrongType d .settings))
  if s.isValid then .ok s else .error (.invalidLimits s.limits)

/-- Settings as a data tree. -/
def toDatum (s : Settings) : Datum :=
  .map [("dialect", .text s.dialect.name),
    ("paging", .map [("default", .number (.natural s.limits.usual.toNat)),
      ("max", .number (.natural s.limits.max.toNat))])]

end Settings
end ListQuery
