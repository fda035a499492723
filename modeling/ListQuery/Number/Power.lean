/-!
# Powers of two and ten

The sizes of machine words and the places of decimal numbers.
-/

set_option autoImplicit false
namespace ListQuery

/-- A power of two. -/
def twoTo (n : Nat) : Nat := Nat.pow 2 n

/-- A power of ten. -/
def tenTo (n : Nat) : Nat := Nat.pow 10 n

end ListQuery
