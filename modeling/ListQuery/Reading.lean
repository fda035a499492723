import ListQuery.Datum

/-!
# Reading values from data trees

* `Shape` — what a reader looks for, and its name in messages.
* `ReadFault` — why a tree does not describe the value looked for.
* `readUnsigned`, `chooseByName` — readers that several records share.
-/

set_option autoImplicit false
namespace ListQuery

/-- What is looked for in a data tree. -/
inductive Shape where
  | unsigned
  | string
  | unit
  | map
  | page
  | limits
  | settings
  /-- A choice by name, written as a text or as a map with one key. -/
  | choice
  | singleKeyMap
  /-- A choice in a configuration, where its type is named. -/
  | namedChoice (type : String)
  | anyChoice
  deriving DecidableEq, Repr

/-- The name of a shape in messages. -/
def Shape.name : Shape → String
  | .unsigned => "u64"
  | .string => "a string"
  | .unit => "unit"
  | .map => "map"
  | .page => "struct PageSpec"
  | .limits => "struct LimitCfg"
  | .settings => "struct ShapingConfig"
  | .choice => "string or map"
  | .singleKeyMap => "map with a single key"
  | .namedChoice type => "enum " ++ type
  | .anyChoice => "enum"

/-- Why a data tree does not describe the value looked for. -/
inductive ReadFault where
  /-- Data of another kind. -/
  | wrongType (found : Datum) (expected : Shape)
  /-- Data of the right kind and with a value out of range. -/
  | wrongValue (found : Datum) (expected : Shape)
  /-- A list with more elements than the record has fields. -/
  | surplus (length : Nat)
  | repeatedField (name : String)
  | unknownField (name : String) (known : List String)
  | unknownChoice (name : String) (known : List String)

/-- The greatest unsigned number of 64 bits. -/
def maxUnsigned : Nat := twoTo 64 - 1

/-- Reads an unsigned number of 64 bits. -/
def readUnsigned (d : Datum) : Except ReadFault UInt64 :=
  match d with
  | .number (.natural n) =>
    if n ≤ maxUnsigned then .ok (UInt64.ofNat n) else .error (.wrongType d .unsigned)
  | .number (.signed n) =>
    if n < -(twoTo 63 : Int) then .error (.wrongType d .unsigned)
    else if n < 0 then .error (.wrongValue d .unsigned)
    else .ok (UInt64.ofNat n.toNat)
  | _ => .error (.wrongType d .unsigned)

/-- The value that a name chooses. -/
def chooseByName {α : Type} (choices : List (String × α)) (name : String) : Except ReadFault α :=
  match choices.lookup name with
  | some value => .ok value
  | none => .error (.unknownChoice name (choices.map Prod.fst))

end ListQuery
