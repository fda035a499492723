import ListQuery.Number.Numeral

/-!
# Data trees

Request bodies, configuration files and environment settings are all read into one kind of tree.

* `Datum` — a tree of numbers, texts, lists and maps.
* `Datum.ofEntries` — a map from entries in any order; keys ascend, and of equal keys the last wins.
* `Datum.nested` — a value below a row of keys.
* `Datum.merge` — one tree laid over another, key by key.
-/

set_option autoImplicit false
namespace ListQuery

/-- A tree of data. The keys of a map are distinct and ascend. -/
inductive Datum where
  | null
  | bool (b : Bool)
  | number (n : Numeral)
  | text (s : String)
  | char (c : Char)
  | list (items : List Datum)
  | map (entries : List (String × Datum))
  deriving Repr

instance : Inhabited Datum := ⟨.null⟩

namespace Datum

/-- Puts a value under a key of a map whose keys ascend, in place of an equal key. -/
def put {α : Type} (key : String) (value : α) : List (String × α) → List (String × α)
  | [] => [(key, value)]
  | (k, v) :: rest =>
    if key < k then (key, value) :: (k, v) :: rest
    else if key = k then (key, value) :: rest
    else (k, v) :: put key value rest

theorem lookup_cons_eq {α : Type} (key other : String) (value : α) (rest : List (String × α)) :
    ((key, value) :: rest).lookup other =
      if other = key then some value else rest.lookup other := by
  by_cases h : other = key
  · simp [h]
  · have hne : (other == key) = false := by simpa using h
    simp [List.lookup_cons, hne, h]

theorem lookup_put {α : Type} (key other : String) (value : α) (entries : List (String × α)) :
    (put key value entries).lookup other =
      if other = key then some value else entries.lookup other := by
  induction entries with
  | nil => simp [put, lookup_cons_eq]
  | cons e rest ih =>
    rcases e with ⟨k, v⟩
    simp only [put]
    split
    · exact lookup_cons_eq key other value _
    · split
      · next hk => subst hk; by_cases h : other = key <;> simp [lookup_cons_eq, h]
      · next hk =>
        rw [lookup_cons_eq, lookup_cons_eq, ih]
        by_cases ho : other = k
        · simp [ho, Ne.symm hk]
        · simp [ho]

/-- A map from entries in any order; a later entry replaces an earlier one of the same key. -/
def ofEntries (entries : List (String × Datum)) : Datum :=
  .map (entries.foldl (fun m e => put e.1 e.2 m) [])

/-- A value under keys that lie inside each other, down to the first empty key. -/
def nested (value : Datum) : List String → Datum
  | [] => value
  | key :: rest => if key = "" then value else .map [(key, value.nested rest)]

mutual

/-- Lays `upper` over `lower`: maps are joined key by key, and anything else is replaced. -/
def merge (lower : Datum) : (upper : Datum) → Datum
  | .map entries =>
    match lower with
    | .map below => .map (mergeEntries below entries)
    | _ => .map entries
  | upper => upper

/-- Lays entries over those of a map. -/
def mergeEntries (below : List (String × Datum)) : List (String × Datum) → List (String × Datum)
  | [] => below
  | (key, value) :: rest =>
    let joined := match below.lookup key with
      | some old => merge old value
      | none => value
    mergeEntries (put key joined below) rest

end

end Datum
end ListQuery
