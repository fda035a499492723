import ListQuery.Number.Integer
import ListQuery.Sql.Value

/-!
# Statements

* `Statement` — SQL text with the values of its placeholders, in the order of the placeholders, and
  the database that both are made for.
* `Fragment` — a piece of a statement before its placeholders are spelled.
* `Statement.ofFragments` — spells the placeholders for a database and collects the values.

A statement is composed as a list of fragments. In this way the spelling of placeholders, which
differs between databases, is settled in one place.
-/

set_option autoImplicit false
namespace ListQuery

/-- The databases that statements are made for. -/
inductive Backend where
  | sqlite
  | postgres
  | mysql
  deriving DecidableEq, Repr

/-- The placeholder of the `n`-th value, counted from one. -/
def Backend.placeholder (backend : Backend) (n : Nat) : String :=
  match backend with
  | .postgres => "$" ++ naturalText n
  | .sqlite | .mysql => "?"

/-- SQL text, the values of its placeholders, and the database that the placeholders are spelled
for. -/
structure Statement where
  sql : String
  values : List SqlValue
  backend : Backend
  deriving DecidableEq

/-- A piece of a statement. -/
inductive Fragment where
  /-- Text that stands as it is. -/
  | text (s : String)
  /-- The place of a value. -/
  | value (v : SqlValue)
  deriving DecidableEq

namespace Fragment

/-- The values of fragments, in order. -/
def values : List Fragment → List SqlValue
  | [] => []
  | .text _ :: rest => values rest
  | .value v :: rest => v :: values rest

/-- The texts of fragments when `used` placeholders stand before them. -/
def texts (backend : Backend) (used : Nat) : List Fragment → List String
  | [] => []
  | .text s :: rest => s :: texts backend used rest
  | .value _ :: rest => backend.placeholder (used + 1) :: texts backend (used + 1) rest

/-- Values separated by commas. -/
def commaSeparated : List SqlValue → List Fragment
  | [] => []
  | [v] => [.value v]
  | v :: rest => .value v :: .text ", " :: commaSeparated rest

/-- A list of values in parentheses. -/
def parenthesised (vs : List SqlValue) : List Fragment :=
  .text "(" :: commaSeparated vs ++ [.text ")"]

@[simp] theorem values_append (fs gs : List Fragment) :
    values (fs ++ gs) = values fs ++ values gs := by
  induction fs with
  | nil => rfl
  | cons f fs ih => cases f <;> simp [values, ih]

@[simp] theorem values_commaSeparated (vs : List SqlValue) : values (commaSeparated vs) = vs := by
  induction vs with
  | nil => rfl
  | cons v vs ih => cases vs <;> simp_all [commaSeparated, values]

@[simp] theorem values_parenthesised (vs : List SqlValue) : values (parenthesised vs) = vs := by
  simp [parenthesised, values]

end Fragment

/-- The statement that fragments make for a database. -/
def Statement.ofFragments (backend : Backend) (fragments : List Fragment) : Statement :=
  ⟨String.join (Fragment.texts backend 0 fragments), Fragment.values fragments, backend⟩

end ListQuery
