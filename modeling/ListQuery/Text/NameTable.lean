import ListQuery.Text.Case

/-!
# Tables of names without regard to case

* `NameTable` — values by name, where names that agree in lower case are one name.
* `NameTable.insert`, `NameTable.get?` — of several values for a name the last one holds.
-/

set_option autoImplicit false
namespace ListQuery

/-- Values by name; the names are kept in lower case. -/
structure NameTable (α : Type) where
  entries : List (String × α)

namespace NameTable

variable {α : Type}

/-- A table without names. -/
def empty : NameTable α := ⟨[]⟩

instance : EmptyCollection (NameTable α) := ⟨empty⟩
instance : Inhabited (NameTable α) := ⟨empty⟩

/-- Gives a name a value, in place of one it may have. -/
def insert (t : NameTable α) (name : String) (value : α) : NameTable α :=
  let key := Text.lower name
  ⟨(key, value) :: t.entries.filter fun e => e.1 != key⟩

/-- The value of a name. -/
def get? (t : NameTable α) (name : String) : Option α :=
  t.entries.lookup (Text.lower name)

theorem lookup_filter_ne {key other : String} (h : other ≠ key) (entries : List (String × α)) :
    (entries.filter fun e => e.1 != key).lookup other = entries.lookup other := by
  induction entries with
  | nil => rfl
  | cons e rest ih =>
    rcases e with ⟨k, v⟩
    by_cases hk : k = key
    · subst hk
      have hne : (other == k) = false := by simpa using h
      simp [List.lookup_cons, hne, ih]
    · simp [hk, List.lookup_cons, ih]

/-- The value given last to a name, in whatever case, is the one that is found. -/
theorem get?_insert (t : NameTable α) (name other : String) (value : α) :
    (t.insert name value).get? other =
      if Text.lower other = Text.lower name then some value else t.get? other := by
  by_cases h : Text.lower other = Text.lower name
  · simp [insert, get?, h]
  · have hne : (Text.lower other == Text.lower name) = false := by simpa using h
    simp [insert, get?, List.lookup_cons, hne, h, lookup_filter_ne h]

/-- The number of names. -/
def size (t : NameTable α) : Nat :=
  t.entries.length

/-- Whether there are no names. -/
def isEmpty (t : NameTable α) : Bool :=
  t.entries.isEmpty

end NameTable
end ListQuery
