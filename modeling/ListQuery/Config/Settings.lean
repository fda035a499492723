import ListQuery.Clause.Dialect
import ListQuery.Page

/-!
# Settings

* `Settings` — the page limits and the paging dialect of a service.
* `Settings.isValid` — whether the limits make sense.
* `Settings.page`, `Settings.defaultPage` — pages within the limits.
-/

set_option autoImplicit false
namespace ListQuery

/-- The settings of a service. -/
structure Settings where
  limits : Limits
  dialect : PagingDialect
  deriving DecidableEq, Repr

namespace Settings

/-- The settings where nothing is configured. -/
def standard : Settings := ⟨Limits.standard, default⟩

/-- Whether pages have at least one row as a rule and the usual number does not exceed the
greatest. -/
def isValid (s : Settings) : Bool :=
  s.limits.usual != 0 && s.limits.max != 0 && s.limits.usual ≤ s.limits.max

/-- A page within the limits. -/
def page (s : Settings) (p : Page) : Page :=
  p.clamped s.limits

/-- The page of a request that asks for none. -/
def defaultPage (s : Settings) : Page :=
  Page.of 0 s.limits.usual none

end Settings
end ListQuery
