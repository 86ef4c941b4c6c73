import ListQuery.Text.Blank
import ListQuery.Text.Case
import ListQuery.Text.Digit
import ListQuery.Text.Printable
import ListQuery.Text.Quoted
import ListQuery.Number.Binary64
import ListQuery.Number.Numeral
import ListQuery.Number.Shortest
import ListQuery.Text.Form
import ListQuery.Time.Calendar
import ListQuery.Time.Iso
import ListQuery.Time.Span
import ListQuery.Time.Lexeme
import ListQuery.Time.FreeText
import ListQuery.OrderedMap
import ListQuery.Value.Basic
import ListQuery.Number.Whole
import ListQuery.Value.Display
import ListQuery.Value.Typed
import ListQuery.Column.Name
import ListQuery.Column.Path
import ListQuery.Text.Like
import ListQuery.Query.Draft
import ListQuery.Query.Key
import ListQuery.Query.Params
import ListQuery.Query.Preset
import ListQuery.Policy.Check
import ListQuery.Query.Build
import ListQuery.Sql.Predicate
import ListQuery.Sql.Quote
import ListQuery.Sql.Select
import ListQuery.Sql.Literal
import ListQuery.Sql.Statement
import ListQuery.Join.Basic
import ListQuery.Listing.Fault
import ListQuery.Listing.Order
import ListQuery.Listing.Page
import ListQuery.Listing.Where
import ListQuery.Listing.Query
import ListQuery.Join.ActivityLog
import ListQuery.Listing.Respond
import ListQuery.Join.Draft
import ListQuery.Time.Fraction
import ListQuery.Proofs.Steps
import ListQuery.Proofs.Sql.Truth
import ListQuery.Proofs.Sql.Clause
import ListQuery.Proofs.Sql.Evaluation
import ListQuery.Proofs.Listing.Meaning
import ListQuery.Proofs.Listing.Ownership
import ListQuery.Proofs.Column.Resolve
import ListQuery.Proofs.Query.Parsed
import ListQuery.Proofs.Listing.Buildable
import ListQuery.Proofs.Join.Walk
import ListQuery.Proofs.Join.ActivityLog
import ListQuery.Proofs.Policy.Accepted
import ListQuery.Proofs.Policy.Operators
import ListQuery.Proofs.SideBySide
import ListQuery.Proofs.Sql.Shape
import ListQuery.Proofs.Join.Agreement
import ListQuery.Proofs.Listing.Independence
import ListQuery.Proofs.Sql.Alphabet
import ListQuery.Proofs.Sql.Layout
import ListQuery.Proofs.Listing.Parts
import ListQuery.Proofs.Listing.Written
import ListQuery.Proofs.Listing.Counted
import ListQuery.Proofs.Join.Kept
import ListQuery.Proofs.Policy.Precedence
import ListQuery.Proofs.Join.Key
import ListQuery.Proofs.Join.Scope
import ListQuery.Proofs.Listing.Arguments
import ListQuery.Proofs.Text.Pattern
import ListQuery.Proofs.Column.Folded
import ListQuery.Proofs.Policy.Tables
import ListQuery.Proofs.Value.Typed
import ListQuery.Proofs.Query.Readable
import ListQuery.Proofs.Query.Key
import ListQuery.Proofs.Query.RoundTrip
import ListQuery.Proofs.Number.Quotient
import ListQuery.Proofs.Listing.Guarded
import ListQuery.Proofs.Join.LogWalks
import ListQuery.Proofs.Join.LogSource
import ListQuery.Proofs.Join.Naming
import ListQuery.Proofs.Listing.Refused
import ListQuery.Proofs.Listing.Mirrored
import ListQuery.Proofs.Policy.Scoped
import ListQuery.Proofs.Query.Grammar
import ListQuery.Proofs.Query.Mirror
import ListQuery.Proofs.Join.References
import ListQuery.Proofs.Join.Chain
import ListQuery.Proofs.Join.Compose
import ListQuery.Proofs.Number.Ceiling
import ListQuery.Proofs.Listing.PageCount
import ListQuery.Proofs.Text.Upper
import ListQuery.Proofs.Query.Ordering
import ListQuery.Proofs.Listing.Ordered
import ListQuery.Proofs.Listing.Qualified
import ListQuery.Proofs.Value.Searched
import ListQuery.Proofs.Listing.Searched
import ListQuery.Proofs.Query.Sources
import ListQuery.Proofs.Sql.Literal
import ListQuery.Proofs.Join.StaticCondition
import ListQuery.Proofs.Sql.Relation
import ListQuery.Proofs.Listing.Introduced
