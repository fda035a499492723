import ListQuery.Clause.Paging
import ListQuery.Proofs.Scanning.Rendering

/-!
# Pages in a statement

* `toInt_saturate` — the number that is bound for a number of a page.
* `pageParam?` — what a page registers under a name, and `get?_pagingClause` what is found there.
* `PagingDialect.fragments`, `PagingDialect.values` — what the clause of a dialect becomes.
* `renders_clause` — **the clause is bound to the numbers of the page**, in the order in which the
  dialect mentions them.
-/

set_option autoImplicit false
namespace ListQuery

/-! ## Numbers and names -/

/-- Whatever fits into 63 bits is kept, and what is greater becomes the greatest that does. -/
theorem toInt_saturate (n : UInt64) :
    (saturate n).toInt = min (n.toNat : Int) Int64.maxValue.toInt := by
  have htwo : twoTo 63 = 9223372036854775808 := by decide
  have hmax : Int64.maxValue.toInt = 9223372036854775807 := by decide
  have hnonneg : (0 : Int) ≤ n.toNat := Int.natCast_nonneg _
  rw [saturate, htwo, hmax]
  exact Int64.toInt_ofInt_of_le (by omega) (by omega)

theorem pageSizeParam_ne_pageOffsetParam :
    Text.sameAscii pageSizeParam pageOffsetParam = false := by decide +kernel

/-! ## What a page registers -/

/-- What a page registers under a name. -/
def pageParam? (page : Option Page) (name : String) : Option ParamValue :=
  page.bind fun page =>
    if Text.sameAscii pageSizeParam name then some (.scalar (.bigInt (saturate page.limit)))
    else if Text.sameAscii pageOffsetParam name then
      some (.scalar (.bigInt (saturate page.offset)))
    else none

/-- The parameters of a page go before all others. -/
theorem get?_pagingClause (dialect : PagingDialect) (page : Option Page) (params : Params)
    (name : String) :
    (pagingClause dialect page params).2.get? name =
      (pageParam? page name).or (params.get? name) := by
  cases page with
  | none => rfl
  | some page =>
    rw [pagingClause, Params.get?_add, Params.get?_add, pageParam?, Option.bind_some]
    split
    · rfl
    · split <;> rfl

theorem pageParam?_of_size {name : String} (h : Text.sameAscii pageSizeParam name = true)
    (page : Page) : pageParam? (some page) name = some (.scalar (.bigInt (saturate page.limit))) :=
  if_pos h

theorem pageParam?_of_others {name : String} (hsize : Text.sameAscii pageSizeParam name = false)
    (hoffset : Text.sameAscii pageOffsetParam name = false) (page : Option Page) :
    pageParam? page name = none := by
  rw [pageParam?, hsize, hoffset]
  cases page <;> rfl

theorem length_values_pageParam? {page : Option Page} {name : String} {number : ParamValue}
    (h : pageParam? page name = some number) : number.values.length = 1 := by
  obtain ⟨page, -, h⟩ := Option.bind_eq_some_iff.1 h
  split at h
  · cases h
    rfl
  · split at h
    · cases h
      rfl
    · cases h

/-! ## What the clause becomes -/

/-- What the paging clause becomes in a statement. -/
def PagingDialect.fragments (dialect : PagingDialect) (page : Page) : List Fragment :=
  match dialect with
  | .offsetFetch =>
    [.text "OFFSET ", .value (.bigInt (saturate page.offset)), .text " ROWS FETCH NEXT ",
      .value (.bigInt (saturate page.limit)), .text " ROWS ONLY"]
  | .limitOffset =>
    [.text "LIMIT ", .value (.bigInt (saturate page.limit)), .text " OFFSET ",
      .value (.bigInt (saturate page.offset))]

/-- The values of a page, in the order in which the dialect mentions them. -/
def PagingDialect.values (dialect : PagingDialect) (page : Page) : List SqlValue :=
  match dialect with
  | .offsetFetch => [.bigInt (saturate page.offset), .bigInt (saturate page.limit)]
  | .limitOffset => [.bigInt (saturate page.limit), .bigInt (saturate page.offset)]

theorem PagingDialect.values_fragments (dialect : PagingDialect) (page : Page) :
    Fragment.values (dialect.fragments page) = dialect.values page := by
  cases dialect <;> rfl

theorem renders_clause {params : Params} {page : Page}
    (hoffset : params.get? pageOffsetParam = some (.scalar (.bigInt (saturate page.offset))))
    (hsize : params.get? pageSizeParam = some (.scalar (.bigInt (saturate page.limit))))
    (dialect : PagingDialect) :
    RendersLast params dialect.clause.toList (dialect.fragments page) := by
  have hoffsetName : IsName pageOffsetParam := by decide
  have hsizeName : IsName pageSizeParam := by decide
  cases dialect with
  | offsetFetch =>
    have hskip : Renders params "OFFSET ".toList [.text "OFFSET "] := renders_text (by decide)
    have hfetch := renders_reference hoffsetName hoffset " ROWS FETCH NEXT " (by decide)
      ⟨' ', _, rfl, by decide⟩
    have hrows := renders_reference hsizeName hsize " ROWS ONLY" (by decide)
      ⟨' ', _, rfl, by decide⟩
    have htext : PagingDialect.offsetFetch.clause.toList = "OFFSET ".toList ++
        ('@' :: pageOffsetParam.toList ++ " ROWS FETCH NEXT ".toList ++
          ('@' :: pageSizeParam.toList ++ " ROWS ONLY".toList)) := rfl
    rw [htext]
    exact (hskip.append (hfetch.append hrows)).last
  | limitOffset =>
    have htake : Renders params "LIMIT ".toList [.text "LIMIT "] := renders_text (by decide)
    have hskip := renders_reference hsizeName hsize " OFFSET " (by decide)
      ⟨' ', _, rfl, by decide⟩
    have hlast := rendersLast_reference hoffsetName hoffset
    have htext : PagingDialect.limitOffset.clause.toList = "LIMIT ".toList ++
        ('@' :: pageSizeParam.toList ++ " OFFSET ".toList ++ '@' :: pageOffsetParam.toList) := rfl
    rw [htext]
    exact htake.append_last (hskip.append_last hlast)

end ListQuery
