import ListQuery.Uuid
import ListQuery.Number.Binary64
import ListQuery.Number.Decimal
import ListQuery.Calendar.Instant

/-!
# SQL values

The values that are bound to the placeholders of a statement.
-/

set_option autoImplicit false
namespace ListQuery

/-- The types of SQL values. -/
inductive SqlType where
  | string
  | bigInt
  | bigUnsigned
  | double
  | bool
  | uuid
  | dateTimeUtc
  | date
  | time
  | decimal
  deriving DecidableEq, Repr

/-- A value to bind. -/
inductive SqlValue where
  /-- A missing value of a type. -/
  | null (type : SqlType)
  | string (s : String)
  | bigInt (n : Int64)
  | bigUnsigned (n : UInt64)
  | double (x : Binary64)
  | bool (b : Bool)
  | uuid (u : Uuid)
  | dateTimeUtc (t : Instant)
  | date (d : Date)
  | time (t : TimeOfDay)
  | decimal (d : Decimal)
  deriving DecidableEq

namespace SqlValue

/-- The type of a value. -/
def type : SqlValue → SqlType
  | null t => t
  | string _ => .string
  | bigInt _ => .bigInt
  | bigUnsigned _ => .bigUnsigned
  | double _ => .double
  | bool _ => .bool
  | uuid _ => .uuid
  | dateTimeUtc _ => .dateTimeUtc
  | date _ => .date
  | time _ => .time
  | decimal _ => .decimal

/-- Whether the value is missing. -/
def isNull : SqlValue → Bool
  | null _ => true
  | _ => false

end SqlValue
end ListQuery
