import Mathlib.Algebra.Group.Int.Defs
import Mathlib.Algebra.Group.Nat.Defs
import ListQuery.Proofs.Clause.Paging
import ListQuery.Proofs.Params.Entries
import ListQuery.Proofs.Query.Runs

/-!
# Pages, in clauses and in queries

A page is applied to a query, or written as a clause whose two numbers are parameters.  A clause can
only have numbers of 63 bits, and its parameters are kept together with all others, of which some
may have been there before under the same names.  This does not matter: the clause is bound to the
numbers of its page, like the query, and to no greater ones.

## What is here

* `Statement.limited`, `Query.statement_take` — what a window adds to the statement of a query.
* `PagingDialect.statement`, `PagingDialect.ofFragments_fragments` — the clause of a dialect with
  its two numbers in place.
* `Approximates`, `BoundTo`, `boundTo_pagingClause` — the numbers that the clause of a page is bound
  to.
* `Params.KeptApart`, `keptApart_pagingClause` — what a page leaves of the other parameters.
* `names_pagingClause_twice` — a further page adds no names.
* `clauses_and_queries_agree_on_pages` — **clause and query**, for every page and all parameters.
-/

set_option autoImplicit false
namespace ListQuery

/-! ## Windows in a query -/

/-- A statement with a window behind it. -/
def Statement.limited (s : Statement) (limit offset : UInt64) : Statement :=
  ⟨s.sql ++ " LIMIT " ++ s.backend.placeholder (s.values.length + 1) ++ " OFFSET " ++
      s.backend.placeholder (s.values.length + 2),
    s.values ++ [.bigUnsigned limit, .bigUnsigned offset], s.backend⟩

/-- A window stands behind all else, and so do its numbers. -/
theorem Query.statement_take (q : Query) (w : Window) (b : Backend) :
    (q.take w).statement b =
      ({ q with window := none }.statement b).limited w.limit w.offset := by
  have hfragments : (q.take w).fragments b =
      { q with window := none }.fragments b ++ windowFragments (some w) := by
    simp [fragments, take, windowFragments]
  have htexts : ∀ used, String.join (Fragment.texts b used (windowFragments (some w))) =
      " LIMIT " ++ b.placeholder (used + 1) ++ " OFFSET " ++ b.placeholder (used + 2) := by
    intro used
    simp [windowFragments, Fragment.texts, String.append_assoc]
  rw [statement, Statement.ofFragments, hfragments, Fragment.texts_append, String.join_append,
    htexts, Fragment.values_append, Nat.zero_add]
  simp only [Statement.limited, statement, Statement.ofFragments, String.append_assoc]
  rfl

/-! ## The clause of a page -/

namespace PagingDialect

/-- The clause of a dialect for a database, with the numbers of rows to skip and to take. -/
def statement (dialect : PagingDialect) (b : Backend) (skip take : Int64) : Statement :=
  match dialect with
  | .offsetFetch =>
    ⟨"OFFSET " ++ b.placeholder 1 ++ " ROWS FETCH NEXT " ++ b.placeholder 2 ++ " ROWS ONLY",
      [.bigInt skip, .bigInt take], b⟩
  | .limitOffset =>
    ⟨"LIMIT " ++ b.placeholder 1 ++ " OFFSET " ++ b.placeholder 2, [.bigInt take, .bigInt skip], b⟩

theorem ofFragments_fragments (dialect : PagingDialect) (page : Page) (b : Backend) :
    Statement.ofFragments b (dialect.fragments page) =
      dialect.statement b (saturate page.offset) (saturate page.limit) := by
  cases dialect <;>
    simp [Statement.ofFragments, fragments, statement, Fragment.texts, Fragment.values,
      String.append_assoc]

end PagingDialect

/-- A number with sign stands for one without: it is the same if there is room for it, and in no
case greater. -/
structure Approximates (m : Int64) (n : UInt64) : Prop where
  le : m.toInt ≤ n.toNat
  eq_of_lt : n.toNat < 2 ^ 63 → m.toInt = n.toNat

theorem toInt_saturate_eq (n : UInt64) : (saturate n).toInt = min (n.toNat : Int) (2 ^ 63 - 1) := by
  have hmax : Int64.maxValue.toInt = 2 ^ 63 - 1 := by decide
  rw [toInt_saturate, hmax]

theorem approximates_saturate (n : UInt64) : Approximates (saturate n) n := by
  constructor
  · rw [toInt_saturate_eq]
    omega
  · intro hlt
    rw [toInt_saturate_eq]
    omega

/-- On every database, a clause is bound to the two numbers of a page, as far as 63 bits allow. -/
structure BoundTo (clause : String) (params : Params) (dialect : PagingDialect) (page : Page)
    (skip take : Int64) : Prop where
  skip_eq : skip.toInt = min (page.offset.toNat : Int) (2 ^ 63 - 1)
  take_eq : take.toInt = min (page.limit.toNat : Int) (2 ^ 63 - 1)
  skip_nonneg : 0 ≤ skip.toInt
  take_nonneg : 0 ≤ take.toInt
  bind_eq : ∀ b : Backend, params.bind clause b = .ok (dialect.statement b skip take)

section

variable (dialect : PagingDialect) (page : Page) (params : Params)

theorem get?_pageOffsetParam : (pagingClause dialect (some page) params).2.get? pageOffsetParam =
    some (.scalar (.bigInt (saturate page.offset))) := by
  rw [get?_pagingClause, pageParam?, Option.bind_some, pageSizeParam_ne_pageOffsetParam,
    Text.sameAscii_self]
  rfl

theorem get?_pageSizeParam : (pagingClause dialect (some page) params).2.get? pageSizeParam =
    some (.scalar (.bigInt (saturate page.limit))) := by
  rw [get?_pagingClause, pageParam?_of_size (Text.sameAscii_self _)]
  rfl

/-- Whatever the parameters were, the clause finds the numbers of its page among them. -/
theorem boundTo_pagingClause :
    BoundTo (pagingClause dialect (some page) params).1 (pagingClause dialect (some page) params).2
      dialect page (saturate page.offset) (saturate page.limit) where
  skip_eq := toInt_saturate_eq page.offset
  take_eq := toInt_saturate_eq page.limit
  skip_nonneg := by rw [toInt_saturate_eq]; omega
  take_nonneg := by rw [toInt_saturate_eq]; omega
  bind_eq := by
    intro b
    have hrenders := renders_clause (get?_pageOffsetParam dialect page params)
      (get?_pageSizeParam dialect page params) dialect
    rw [← PagingDialect.ofFragments_fragments]
    exact hrenders.bind b

end

/-! ## Other parameters -/

/-- The parameters of a page have been put to others.  Entries under other names are where they
were, as they were spelled and with their values, and at most the two names of a page are new. -/
structure Params.KeptApart (params paged : Params) : Prop where
  entry : ∀ (i : Nat) (name : String) (value : ParamValue),
    params.entries[i]? = some (name, value) → Text.sameAscii name pageOffsetParam = false →
    Text.sameAscii name pageSizeParam = false → paged.entries[i]? = some (name, value)
  names : ∃ added, paged.names = params.names ++ added ∧
    added.Sublist [pageOffsetParam, pageSizeParam]
  size_le : paged.size ≤ params.size + 2

theorem exists_names_pagingClause (dialect : PagingDialect) (page : Page) (params : Params) :
    ∃ added, (pagingClause dialect (some page) params).2.names = params.names ++ added ∧
      added.Sublist [pageOffsetParam, pageSizeParam] := by
  have hat_most : ∀ (found : Bool) (name : String),
      (if found then [] else [name]).Sublist [name] := by
    intro found name
    cases found <;> simp
  rw [pagingClause, Params.names_add, Params.names_add, List.append_assoc]
  exact ⟨_, rfl, (hat_most _ _).append (hat_most _ _)⟩

theorem keptApart_pagingClause (dialect : PagingDialect) (page : Page) (params : Params) :
    params.KeptApart (pagingClause dialect (some page) params).2 := by
  have hnames := exists_names_pagingClause dialect page params
  refine ⟨fun i name value h hoffset hsize => ?_, hnames, ?_⟩
  · exact Params.getElem?_add (Params.getElem?_add h hoffset _) hsize _
  · obtain ⟨added, hadded, hsublist⟩ := hnames
    have hlength := hsublist.length_le
    rw [← Params.length_names, ← Params.length_names, hadded, List.length_append]
    simpa using hlength

/-- Where there has been a page before, a further one finds both of its names. -/
theorem names_pagingClause_twice (dialect other : PagingDialect) (page otherPage : Page)
    (params : Params) :
    let paged := (pagingClause dialect (some page) params).2
    (pagingClause other (some otherPage) paged).2.names = paged.names := by
  intro paged
  have hoffset : (paged.get? pageOffsetParam).isSome = true := by
    rw [get?_pageOffsetParam, Option.isSome_some]
  have hsize : ∀ value, ((paged.add pageOffsetParam value).get? pageSizeParam).isSome = true := by
    intro value
    have hdistinct : Text.sameAscii pageOffsetParam pageSizeParam = false := by
      rw [Text.sameAscii_comm, pageSizeParam_ne_pageOffsetParam]
    rw [Params.get?_add_of_other hdistinct, get?_pageSizeParam, Option.isSome_some]
  rw [pagingClause, Params.names_add_of_isSome (hsize _), Params.names_add_of_isSome hoffset]

/-! ## Clause and query -/

/-- **Clause and query.**  Without a page, there is no clause and the parameters are as they were.
With one, all other parameters stay where they are, at most two are new, and on every database the
clause is bound to the two numbers of the page, as far as 63 bits allow.  A query takes the numbers
as they are, so that clause and query have the same ones if there is room for them, and the clause
never has greater ones.  A further page replaces the numbers and adds no parameters. -/
theorem clauses_and_queries_agree_on_pages (dialect : PagingDialect) (params : Params) :
    pagingClause dialect none params = ("", params) ∧
    ∀ page : Page,
      let paged := pagingClause dialect (some page) params
      params.KeptApart paged.2 ∧
      (∃ skip take : Int64, BoundTo paged.1 paged.2 dialect page skip take ∧
        Approximates skip page.offset ∧ Approximates take page.limit) ∧
      (∀ (q : Query) (order : Option DefaultOrder) (b : Backend),
        (q.applyPaging (some page) order).statement b =
          ({ q with window := none }.statement b).limited page.limit page.offset) ∧
      ∀ (other : PagingDialect) (otherPage : Page),
        let again := pagingClause other (some otherPage) paged.2
        again.2.names = paged.2.names ∧
          ∃ skip take : Int64, BoundTo again.1 again.2 other otherPage skip take := by
  refine ⟨rfl, fun page => ⟨keptApart_pagingClause dialect page params, ?_, ?_, ?_⟩⟩
  · exact ⟨_, _, boundTo_pagingClause dialect page params, approximates_saturate page.offset,
      approximates_saturate page.limit⟩
  · exact fun q _ b => q.statement_take ⟨page.limit, page.offset⟩ b
  · intro other otherPage
    exact ⟨names_pagingClause_twice dialect other page otherPage params, _, _,
      boundTo_pagingClause other otherPage _⟩

end ListQuery
