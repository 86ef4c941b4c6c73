import ListQuery.Listing.Order
import ListQuery.Listing.Page
import ListQuery.Listing.Source
import ListQuery.Listing.Where
import ListQuery.Sql.Statement
/-!
The two statements of a list: the rows of one page, and the number of all rows that pass. Both read
the same tables with the same criteria. A mark in the condition of a join that names no argument
stays in their text; under a compiler that refuses such marks they are not written. The single
stages of a statement can also be applied one by one.
-/
namespace ListQuery

open Sql

/-- The statement for a selection, unless a mark in it is refused. -/
def Sql.Select.compiled (strays : StrayMarks) (s : Select) : Except QueryFault Statement :=
  match s.refusal? strays with
  | none => .ok s.statement
  | some name => .error (.strayMark name)

/-- A list to be read: its table, what is wanted of it, and the tables joined to it. -/
structure ListRequest where
  table : String
  options : Options
  joins : List Join

namespace ListRequest

def page (r : ListRequest) : Page := .of r.options.page r.options.limit

/-- The statement for all rows that pass, with a projection to choose. -/
def matching (r : ListRequest) (projection : Projection) : Except QueryFault Select := do
  let source ← sourceOf r.table r.joins
  .ok ((Select.all projection source).filtered (← r.options.criteria))

def rows (r : ListRequest) : Except QueryFault Select := do
  let selected ← r.matching (.allOf r.table)
  let terms ← orderTerms r.table defaultOrderColumn r.options.order !r.joins.isEmpty
  .ok ((selected.orderedBy terms).within r.page.window)

def count (r : ListRequest) : Except QueryFault Select := r.matching .count

def rowsStatement (r : ListRequest) : Except QueryFault Statement := r.rows.map Select.statement

def countStatement (r : ListRequest) : Except QueryFault Statement := r.count.map Select.statement

/-- The statement for the rows, under a compiler that keeps stray marks or refuses them. -/
def rowsUnder (strays : StrayMarks) (r : ListRequest) : Except QueryFault Statement := do
  (← r.rows).compiled strays

def countUnder (strays : StrayMarks) (r : ListRequest) : Except QueryFault Statement := do
  (← r.count).compiled strays

end ListRequest

/-- A single step from a description towards its statement. -/
inductive Stage where
  | conditions
  | filter
  | filterOr
  | search
  | order
  | page
  deriving DecidableEq, Repr

def Stage.apply (stage : Stage) (table : String) (o : Options) (s : Select) :
    Except QueryFault Select :=
  match stage with
  | .conditions => o.conditionCriteria.map s.filtered
  | .filter => o.filterCriteria.map s.filtered
  | .filterOr => o.filterOrCriteria.map s.filtered
  | .search => o.searchCriteria.map s.filtered
  | .order => (orderTerms table defaultOrderColumn o.order false).map s.orderedBy
  | .page => .ok (s.within (Page.of o.page o.limit).window)

end ListQuery
