import ListQuery.Reading
import ListQuery.Number.Integer
import ListQuery.Number.Shortest
import ListQuery.Page
import ListQuery.Sort
import ListQuery.Clause.Dialect
import ListQuery.Text.Quoted

/-!
# Reading request bodies

* `Page.read`, `Limits.read` — a record as a map of its fields, or as the list of their values.
* `readBodyChoice` — a choice as its name, or as a map with the name as its one key.
* `Page.toDatum` — a page as a map.
* `ReadFault.message` — the report for a body that cannot be read.

The entries of a map are read in the order of their keys, so the first fault in that order is the
one reported.
-/

set_option autoImplicit false
namespace ListQuery

/-- Data as messages about a request body name it. -/
def Datum.bodyText : Datum → String
  | .null => "null"
  | .bool b => "boolean `" ++ (if b then "true" else "false") ++ "`"
  | .number (.natural n) => "integer `" ++ naturalText n ++ "`"
  | .number (.signed n) => "integer `" ++ integerText n ++ "`"
  | .number (.double x) => "floating point `" ++ x.scientificText ++ "`"
  | .text s => "string " ++ Text.quoted s
  | .char c => "string " ++ Text.quoted (String.singleton c)
  | .list _ => "sequence"
  | .map _ => "map"

/-- Names in backquotes: two with `or` between them, more as a list. -/
def knownNames : List String → String
  | [a] => "`" ++ a ++ "`"
  | [a, b] => "`" ++ a ++ "` or `" ++ b ++ "`"
  | names => "one of " ++ ", ".intercalate (names.map fun n => "`" ++ n ++ "`")

/-- The report of a fault in a request body. -/
def ReadFault.message : ReadFault → String
  | .wrongType found expected =>
    "invalid type: " ++ found.bodyText ++ ", expected " ++ expected.name
  | .wrongValue found expected =>
    "invalid value: " ++ found.bodyText ++ ", expected " ++ expected.name
  | .surplus length =>
    "invalid length " ++ naturalText length ++ ", expected fewer elements in array"
  | .repeatedField name => "duplicate field `" ++ name ++ "`"
  | .unknownField name known =>
    "unknown field `" ++ name ++ "`, expected " ++ knownNames known
  | .unknownChoice name known =>
    "unknown variant `" ++ name ++ "`, expected " ++ knownNames known

/-! ## Pages -/

/-- Reads an optional text. -/
def readOptionalText : Datum → Except ReadFault (Option String)
  | .null => .ok none
  | .text s => .ok (some s)
  | d => .error (.wrongType d .string)

namespace Page

/-- The fields of a page that have been read so far. -/
structure Fields where
  offset : Option UInt64 := none
  limit : Option UInt64 := none
  sort : Option (Option String) := none

/-- The page with the given fields; a missing field has its standard value. -/
def ofFields (f : Fields) : Page :=
  of (f.offset.getD standard.offset) (f.limit.getD standard.limit) (f.sort.getD standard.sort)

/-- Reads one entry of a map. Every field has two names, of which one may be used; other names are
passed over. -/
def readEntry (f : Fields) (entry : String × Datum) : Except ReadFault Fields :=
  let (key, value) := entry
  if key = "offset" || key = "pageOffset" then
    if f.offset.isSome then .error (.repeatedField "offset")
    else (readUnsigned value).map fun n => { f with offset := some n }
  else if key = "limit" || key = "pageSize" then
    if f.limit.isSome then .error (.repeatedField "limit")
    else (readUnsigned value).map fun n => { f with limit := some n }
  else if key = "sort" || key = "sortBy" then
    if f.sort.isSome then .error (.repeatedField "sort")
    else (readOptionalText value).map fun s => { f with sort := some s }
  else .ok f

/-- Reads the values of offset, limit and sort in this order; later ones may be missing. -/
def readItems (items : List Datum) : Except ReadFault Page := do
  let offset ← items[0]?.mapM readUnsigned
  let limit ← items[1]?.mapM readUnsigned
  let sort ← items[2]?.mapM readOptionalText
  if items.length > 3 then .error (.surplus items.length)
  else .ok (ofFields ⟨offset, limit, sort⟩)

/-- Reads a page. -/
def read : Datum → Except ReadFault Page
  | .map entries => (entries.foldlM readEntry {}).map ofFields
  | .list items => readItems items
  | d => .error (.wrongType d .page)

/-- A page as a map; an absent sort text is left out. -/
def toDatum (p : Page) : Datum :=
  .map
    ([("limit", .number (.natural p.limit.toNat)), ("offset", .number (.natural p.offset.toNat))] ++
      p.sort.toList.map fun s => ("sort", .text s))

end Page

/-! ## Limits -/

namespace Limits

/-- The names of the fields. -/
def fieldNames : List String := ["default", "max"]

/-- Reads one entry of a map; other names than those of the fields are refused. -/
def readEntry (l : Limits) (entry : String × Datum) : Except ReadFault Limits :=
  let (key, value) := entry
  if key = "default" then (readUnsigned value).map fun n => { l with usual := n }
  else if key = "max" then (readUnsigned value).map fun n => { l with max := n }
  else .error (.unknownField key fieldNames)

/-- Reads limits; what is missing has its standard value. -/
def read : Datum → Except ReadFault Limits
  | .map entries => entries.foldlM readEntry standard
  | .list items => do
    let usual ← items[0]?.mapM readUnsigned
    let max ← items[1]?.mapM readUnsigned
    if items.length > 2 then .error (.surplus items.length)
    else .ok ⟨usual.getD standard.usual, max.getD standard.max⟩
  | d => .error (.wrongType d .limits)

end Limits

/-! ## Choices -/

/-- The directions with the names they are chosen by. -/
def Direction.choices : List (String × Direction) :=
  [("asc", .ascending), ("desc", .descending)]

/-- The name of a direction. -/
def Direction.name : Direction → String
  | .ascending => "asc"
  | .descending => "desc"

/-- Reads a choice: its name as a text, or a map from its name to nothing. -/
def readBodyChoice {α : Type} (choices : List (String × α)) : Datum → Except ReadFault α
  | .text s => chooseByName choices s
  | .map [(key, value)] =>
    match chooseByName choices key, value with
    | .ok a, .null => .ok a
    | .ok _, d => .error (.wrongType d .unit)
    | .error e, _ => .error e
  | .map entries => .error (.wrongValue (.map entries) .singleKeyMap)
  | d => .error (.wrongType d .choice)

end ListQuery
