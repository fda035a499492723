import ListQuery.Error
import ListQuery.Filter
import ListQuery.Sql.Value
import ListQuery.Text.Blank

/-!
# From filter values to SQL values

* `coerceText` — a text as the value of a field of some kind.
* `coerceScalar` — an element of a list, likewise.

Blanks around a text do not matter, except to a field that holds text itself.
-/

set_option autoImplicit false
namespace ListQuery

/-- The SQL type of the values of a kind of field. -/
def FieldKind.sqlType : FieldKind → SqlType
  | .string => .string
  | .integer => .bigInt
  | .double => .double
  | .boolean => .bool
  | .uuid => .uuid
  | .dateTimeUtc => .dateTimeUtc
  | .date => .date
  | .time => .time
  | .decimal => .decimal

/-- Reads a whole number of 64 bits. -/
def parseInt64? (s : String) : Option Int64 :=
  (integer? s.toList).bind int64?

/-- Reads `true` or `false`. -/
def parseBool? (s : String) : Option Bool :=
  if s = "true" then some true else if s = "false" then some false else none

/-- The SQL value that a text without blanks around it writes. -/
def parseValue? (kind : FieldKind) (s : String) : Option SqlValue :=
  match kind with
  | .string => some (.string s)
  | .integer => (parseInt64? s).map .bigInt
  | .double => (Binary64.parse? s).map .double
  | .boolean => (parseBool? s).map .bool
  | .uuid => (Uuid.parse? s).map .uuid
  | .dateTimeUtc => (Instant.parse? s).map .dateTimeUtc
  | .date => (Date.parse? s).map .date
  | .time => (TimeOfDay.parse? s).map .time
  | .decimal => (Decimal.parse? s).map .decimal

/-- The value of a kind that a text writes; otherwise the field is reported. -/
def coerceText (field : String) (kind : FieldKind) (s : String) : Except QueryError SqlValue :=
  match parseValue? kind (if kind = .string then s else Text.trim s) with
  | some v => .ok v
  | none => .error (.invalidFilterValue field kind)

/-- The value of a kind that a list element stands for. Numbers serve the numeric kinds and
identifiers their own; texts are read. -/
def coerceScalar (field : String) (kind : FieldKind) (item : Scalar) : Except QueryError SqlValue :=
  match item, kind with
  | .text s, _ => coerceText field kind s
  | .int n, .integer => .ok (.bigInt n)
  | .int n, .double => .ok (.double (Binary64.ofInt n.toInt))
  | .int n, .decimal => .ok (.decimal (Decimal.ofInt n.toInt))
  | .uuid u, .uuid => .ok (.uuid u)
  | _, _ => .error (.invalidFilterValue field kind)

end ListQuery
