import ListQuery.FieldKind

/-!
# Rejected requests

* `QueryError` — every way in which a client's sort text, field name or filter value is refused.
* `QueryError.code`, `QueryError.message` — what is reported for it.
* `QueryError.unresolved?` — the field name that could not be resolved, also behind a sort error.
* `QueryError.sources` — the messages of the causes, outermost first.
-/

set_option autoImplicit false
namespace ListQuery

/-- Why a sort text as a whole is refused. -/
inductive SortFault where
  /-- Nothing but blanks. -/
  | blank
  | tooLong
  /-- Only separators and blanks. -/
  | noColumns
  /-- A reason given by the caller. -/
  | other (reason : String)
  deriving DecidableEq, Repr

/-- The reason in words. -/
def SortFault.reason : SortFault → String
  | .blank => "sort specification is empty"
  | .tooLong => "sort specification is too long"
  | .noColumns => "no valid columns specified in sort specification"
  | .other reason => reason

/-- Bad input of a client. -/
inductive QueryError where
  | invalidSort (fault : SortFault)
  /-- A path of a sort text cannot be used for ordering, for the reason `cause`. -/
  | invalidSortField (path : String) (cause : QueryError)
  | unresolvableField (name : String)
  | invalidFilterValue (field : String) (expected : FieldKind)
  deriving DecidableEq, Repr

namespace QueryError

/-- The stable code of an error. -/
def code : QueryError → String
  | invalidSort _ => "INVALID_SORT_SPECIFICATION"
  | invalidSortField _ _ => "INVALID_SORT_SPECIFICATION"
  | unresolvableField _ => "UNRESOLVABLE_FIELD"
  | invalidFilterValue _ _ => "INVALID_FILTER_VALUE"

/-- The text of an error. -/
def message : QueryError → String
  | invalidSort fault => "invalid sort specification: " ++ fault.reason
  | invalidSortField path _ =>
    "invalid sort specification: invalid field in sort path '" ++ path ++ "'"
  | unresolvableField name => "unresolvable field: " ++ name
  | invalidFilterValue field expected =>
    "invalid filter value for '" ++ field ++ "': expected " ++ expected.name

/-- What an error comes from. -/
def cause? : QueryError → Option QueryError
  | invalidSortField _ cause => some cause
  | _ => none

/-- The field name that failed to resolve, looking through sort errors. -/
def unresolved? : QueryError → Option String
  | unresolvableField name => some name
  | invalidSortField _ cause => cause.unresolved?
  | _ => none

/-- The messages of the chain of causes, outermost first. -/
def sources : QueryError → List String
  | invalidSortField _ cause => cause.message :: cause.sources
  | _ => []

end QueryError
end ListQuery
