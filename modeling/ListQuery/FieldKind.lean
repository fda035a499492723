/-!
# Kinds of fields

The kind of a field says how a filter value in text form is turned into a typed SQL value.
-/

set_option autoImplicit false
namespace ListQuery

/-- What a field of a list endpoint holds. -/
inductive FieldKind where
  | string
  | integer
  | double
  | boolean
  | uuid
  | dateTimeUtc
  | date
  | time
  | decimal
  deriving DecidableEq, Repr

/-- The name of a kind in messages. -/
def FieldKind.name : FieldKind → String
  | .string => "String"
  | .integer => "I64"
  | .double => "F64"
  | .boolean => "Bool"
  | .uuid => "Uuid"
  | .dateTimeUtc => "DateTimeUtc"
  | .date => "Date"
  | .time => "Time"
  | .decimal => "Decimal"

end ListQuery
