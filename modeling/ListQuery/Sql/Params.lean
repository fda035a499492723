import ListQuery.Sql.Lexeme
import ListQuery.Sql.Statement
import ListQuery.Text.Ascii

/-!
# Named parameters

* `Params` — names with the values to put in their place, in the order of their first mention.
  Names are compared without regard to the case of ASCII letters.
* `Params.add`, `Params.addScalar`, `Params.get?` — register a value, and look it up.
* `Params.bind` — turns SQL text with named parameters into a statement.
-/

set_option autoImplicit false
namespace ListQuery

/-- What a parameter stands for. -/
inductive ParamValue where
  | scalar (v : SqlValue)
  /-- A list, to be written in parentheses. -/
  | list (vs : List SqlValue)
  deriving DecidableEq

/-- Parameters by name. -/
structure Params where
  entries : List (String × ParamValue)
  deriving DecidableEq

/-- A text mentions a parameter that has no value. -/
inductive BindError where
  | unbound (name : String)
  deriving DecidableEq, Repr

/-- The report of a failed binding. -/
def BindError.message : BindError → String
  | unbound name => "parameter '@" ++ name ++ "' is referenced but not bound"

namespace Params

/-- No parameters. -/
def empty : Params := ⟨[]⟩

instance : EmptyCollection Params := ⟨empty⟩
instance : Inhabited Params := ⟨empty⟩

/-- Puts a value in place of the first entry with the name, or at the end. -/
def addEntry (name : String) (value : ParamValue) :
    List (String × ParamValue) → List (String × ParamValue)
  | [] => [(name, value)]
  | (n, v) :: rest =>
    if Text.sameAscii n name then (n, value) :: rest else (n, v) :: addEntry name value rest

/-- Registers a value. A name that is there already keeps its place and its spelling and has its
value replaced. -/
def add (params : Params) (name : String) (value : ParamValue) : Params :=
  ⟨addEntry name value params.entries⟩

/-- Registers a single value. -/
def addScalar (params : Params) (name : String) (v : SqlValue) : Params :=
  params.add name (.scalar v)

/-- The value of a parameter. -/
def get? (params : Params) (name : String) : Option ParamValue :=
  (params.entries.find? fun e => Text.sameAscii e.1 name).map Prod.snd

theorem find?_addEntry (name other : String) (value : ParamValue)
    (entries : List (String × ParamValue)) :
    ((addEntry name value entries).find? fun e => Text.sameAscii e.1 other).map Prod.snd =
      if Text.sameAscii name other then some value
      else (entries.find? fun e => Text.sameAscii e.1 other).map Prod.snd := by
  induction entries with
  | nil => by_cases h : Text.sameAscii name other <;> simp [addEntry, h]
  | cons e rest ih =>
    rcases e with ⟨n, v⟩
    by_cases hn : Text.sameAscii n name
    · have hsame : Text.sameAscii n other = Text.sameAscii name other := by
        simp only [Text.sameAscii_iff] at hn
        simp [Text.sameAscii, hn]
      by_cases ho : Text.sameAscii name other <;> simp [addEntry, hn, hsame, ho]
    · by_cases hno : Text.sameAscii n other
      · have ho : Text.sameAscii name other = false := by
          simp only [Text.sameAscii_iff] at hn hno
          simp [Text.sameAscii, ← hno, Ne.symm hn]
        simp [addEntry, hn, hno, ho]
      · simp [addEntry, hn, hno, ih]

/-- The value registered last for a name, in whatever case, is the one that is found. -/
theorem get?_add (params : Params) (name other : String) (value : ParamValue) :
    (params.add name value).get? other =
      if Text.sameAscii name other then some value else params.get? other :=
  find?_addEntry name other value params.entries

/-- The number of parameters. -/
def size (params : Params) : Nat :=
  params.entries.length

/-- Whether there are no parameters. -/
def isEmpty (params : Params) : Bool :=
  params.entries.isEmpty

/-- What a value becomes in a statement. The empty list is written `(NULL)`, which nothing
equals. -/
def expand : ParamValue → List Fragment
  | .scalar v => [.value v]
  | .list [] => [.text "(NULL)"]
  | .list vs => Fragment.parenthesised vs

/-- What a lexeme becomes in a statement. -/
def fragments (params : Params) : Lexeme → Except BindError (List Fragment)
  | .plain text => .ok [.text (String.ofList text)]
  | .reference name =>
    match params.get? (String.ofList name) with
    | some value => .ok (expand value)
    | none => .error (.unbound (String.ofList name))

/-- Replaces every parameter of a text by placeholders. The first one without a value is
reported. -/
def bind (params : Params) (sql : String) (backend : Backend) : Except BindError Statement :=
  ((Lexeme.scan sql.toList).mapM params.fragments).map fun fs =>
    Statement.ofFragments backend fs.flatten

end Params
end ListQuery
