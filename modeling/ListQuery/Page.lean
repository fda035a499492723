/-!
# Pages and page limits

* `Page` — the window of a result that a client asks for, and the order it wants.
* `Limits` — the usual and the greatest number of rows of a page; `Page.clamped` applies them.
-/

set_option autoImplicit false
namespace ListQuery

/-- A window of a result: `limit` rows after the first `offset`, in the order that `sort` asks
for. -/
structure Page where
  offset : UInt64
  limit : UInt64
  sort : Option String
  deriving DecidableEq, Repr

/-- How many rows a page has when the client does not say, and how many it has at most. -/
structure Limits where
  usual : UInt64
  max : UInt64
  deriving DecidableEq, Repr

namespace Limits

/-- 100 rows as a rule and 1000 at most. -/
def standard : Limits := ⟨100, 1000⟩

/-- The number of rows granted for a request. Zero counts as one; no request gets the usual
number; the greatest number bounds the result, also when it is zero. -/
def clamp (limits : Limits) (requested : Option UInt64) : UInt64 :=
  let asked := requested.getD limits.usual
  let positive := if asked = 0 then 1 else asked
  if positive > limits.max then limits.max else positive

theorem clamp_le_max (limits : Limits) (requested : Option UInt64) :
    limits.clamp requested ≤ limits.max := by
  unfold clamp
  generalize requested.getD limits.usual = asked
  dsimp only
  generalize (if asked = 0 then 1 else asked) = positive
  split
  · exact UInt64.le_refl _
  · next h => exact UInt64.not_lt.1 h

end Limits

namespace Page

/-- A page whose limit is at least one. -/
def of (offset limit : UInt64) (sort : Option String) : Page :=
  ⟨offset, if limit = 0 then 1 else limit, sort⟩

theorem one_le_limit_of (offset limit : UInt64) (sort : Option String) :
    1 ≤ (of offset limit sort).limit := by
  simp only [of]
  split
  · decide
  · next h =>
    have positive : limit.toNat ≠ 0 := fun e => h (UInt64.toNat_inj.1 e)
    rw [UInt64.le_iff_toNat_le]
    simp
    omega

/-- The page of a request that says nothing. -/
def standard : Page := ⟨0, Limits.standard.usual, none⟩

/-- The page in another order. -/
def withSort (p : Page) (sort : String) : Page :=
  { p with sort := some sort }

/-- The page with its limit brought within the given limits. -/
def clamped (p : Page) (limits : Limits) : Page :=
  { p with limit := limits.clamp (some p.limit) }

end Page
end ListQuery
