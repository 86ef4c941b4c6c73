import ListQuery.Sql.Predicate
/-!
Statements that read rows: what is selected, the tables it comes from, which rows pass, their order
and the window of them that is wanted.
-/
namespace ListQuery.Sql

inductive Projection where
  /-- All columns of a table. -/
  | allOf (table : String)
  /-- The number of rows. -/
  | count
  /-- The number one for every row. -/
  | one
  deriving DecidableEq, Repr

/-- A table that adds columns to the rows it has a match for. -/
structure JoinedTable where
  table : String
  asName : Option String
  condition : String
  deriving DecidableEq, Repr

structure Source where
  table : String
  joins : List JoinedTable
  deriving DecidableEq, Repr

structure OrderTerm where
  column : String
  descending : Bool
  deriving DecidableEq, Repr

structure Window where
  limit : Int
  offset : Int
  deriving DecidableEq, Repr

structure Select where
  projection : Projection
  source : Source
  criteria : List Criterion
  order : List OrderTerm
  window : Option Window
  deriving DecidableEq, Repr

namespace Select

/-- A statement that reads every row. -/
def all (projection : Projection) (source : Source) : Select := ⟨projection, source, [], [], none⟩

def filtered (s : Select) (criteria : List Criterion) : Select :=
  { s with criteria := s.criteria ++ criteria }

def orderedBy (s : Select) (terms : List OrderTerm) : Select := { s with order := s.order ++ terms }

def within (s : Select) (window : Window) : Select := { s with window := some window }

end Select

end ListQuery.Sql
