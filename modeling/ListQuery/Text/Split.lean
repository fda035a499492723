/-!
# Cutting a text at a separator

* `pieces` — the parts between the separators; there is always at least one.
* `join` — the parts put together again with the separator between them; `join_pieces` says that
  this gives back the text.
-/

set_option autoImplicit false
namespace ListQuery
namespace Text

/-- The parts of a text between the occurrences of a character. -/
def pieces (separator : Char) (s : String) : List String :=
  (s.toList.splitOn separator).map String.ofList

/-- Parts with a separator between each two of them. -/
def join (separator : Char) (parts : List String) : String :=
  String.ofList ([separator].intercalate (parts.map String.toList))

theorem pieces_ne_nil (separator : Char) (s : String) : pieces separator s ≠ [] := by
  simp [pieces, List.splitOn_ne_nil]

/-- Cutting loses nothing. -/
theorem join_pieces (separator : Char) (s : String) : join separator (pieces separator s) = s := by
  simp [join, pieces, List.map_map, Function.comp_def, String.toList_ofList,
    List.intercalate_splitOn]

@[simp] theorem toList_join (separator : Char) (parts : List String) :
    (join separator parts).toList = [separator].intercalate (parts.map String.toList) :=
  String.toList_ofList

end Text
end ListQuery
