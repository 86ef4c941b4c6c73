import ListQuery.Column.Path
import ListQuery.Listing.Fault
import ListQuery.Query.Options
import ListQuery.Sql.Select
/-!
The order of a list. Without an order clause the rows come by a default column, latest first. Where
other tables are joined, a bare column belongs to the main table.
-/
namespace ListQuery

open Sql Column Text

def defaultOrderColumn : String := "created_at"

/-- A column of the main table where it could be one of several tables. -/
def qualify (table column : String) (hasJoins : Bool) : String :=
  if hasJoins && !isDotted column then table ++ "." ++ column else column

def isDescending (direction : String) : Bool := upper direction == "DESC"

def orderTerm (table column : String) (hasJoins descending : Bool) : Except QueryFault OrderTerm :=
  (safeName (resolve (qualify table column hasJoins))).map fun name => ⟨name, descending⟩

def orderTerms (table fallback : String) (order : List OrderClause) (hasJoins : Bool) :
    Except QueryFault (List OrderTerm) :=
  if order.isEmpty then (orderTerm table fallback hasJoins true).map ([·])
  else order.mapM fun clause =>
    orderTerm table (resolve clause.column) hasJoins (isDescending clause.direction)

end ListQuery
