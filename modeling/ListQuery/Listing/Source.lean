import ListQuery.Join.Basic
import ListQuery.Listing.Fault
import ListQuery.Sql.Select
/-!
The tables a list is read from: the main table and everything joined to it, each under a safe name.
-/
namespace ListQuery

open Sql

def Join.joinedTable (j : Join) : Except QueryFault JoinedTable := do
  match j.tableName? with
  | none => .error .blankTable
  | some name =>
    let table ← safeName name
    let asName ← j.writtenAlias.mapM safeName
    .ok ⟨table, asName, j.condition⟩

def sourceOf (table : String) (joins : List Join) : Except QueryFault Source := do
  let main ← safeName table
  .ok ⟨main, ← joins.mapM Join.joinedTable⟩

end ListQuery
