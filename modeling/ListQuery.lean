import ListQuery.Config.Layers
import ListQuery.Reading.Body
import ListQuery.Proofs.Scanning.Placeholders
import ListQuery.Proofs.Clause.Listing
import ListQuery.Proofs.Query.Runs
import ListQuery.Proofs.Sort.Terms
import ListQuery.Proofs.Agreement.Orderings
import ListQuery.Proofs.Text.Lower
import ListQuery.Proofs.FieldMap.History
import ListQuery.Proofs.Query.Ordering
import ListQuery.Proofs.Clause.ColumnMapping
import ListQuery.Proofs.Query.Conditions
import ListQuery.Proofs.Allowlist
import ListQuery.Proofs.Agreement.Filters
import ListQuery.Proofs.Independence
import ListQuery.Proofs.Scanning.Enclosed
import ListQuery.Proofs.Coercion
import ListQuery.Proofs.Query.FilterOutcome
import ListQuery.Proofs.Query.Independence
import ListQuery.Proofs.Page.Limit
import ListQuery.Proofs.Sort.Grammar
import ListQuery.Proofs.Page.Reading
import ListQuery.Proofs.Clause.Overwriting
import ListQuery.Proofs.Clause.Reference
import ListQuery.Proofs.Scanning.Composition
import ListQuery.Proofs.Scanning.Dependence
import ListQuery.Proofs.Clause.PageParams
import ListQuery.Proofs.FieldMap.Calls
import ListQuery.Proofs.Query.OrderingOutcome
import ListQuery.Proofs.Query.RegisteredNames
import ListQuery.Proofs.Clause.PropertyNames
import ListQuery.Proofs.Sort.Canonical
import ListQuery.Proofs.Sort.Concatenation
import ListQuery.Proofs.Agreement.Paging
import ListQuery.Proofs.Config.Pages
import ListQuery.Proofs.Coercion.Integer
import ListQuery.Proofs.Coercion.Spelling
import ListQuery.Proofs.Coercion.Timestamp
import ListQuery.Proofs.Config.Layering
import ListQuery.Proofs.Params.Calls
