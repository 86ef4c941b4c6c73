/-!
The six comparison operators, by the names a request uses and by the signs of SQL.
-/
namespace ListQuery

inductive Operator where
  | eq
  | ne
  | gt
  | gte
  | lt
  | lte
  deriving DecidableEq, Repr

namespace Operator

def all : List Operator := [.eq, .ne, .gt, .gte, .lt, .lte]

def name : Operator → String
  | .eq => "eq"
  | .ne => "ne"
  | .gt => "gt"
  | .gte => "gte"
  | .lt => "lt"
  | .lte => "lte"

/-- The sign between a column and what it is compared with. -/
def sign : Operator → String
  | .eq => "="
  | .ne => "!="
  | .gt => ">"
  | .gte => ">="
  | .lt => "<"
  | .lte => "<="

def ofName? (name : String) : Option Operator := all.find? fun op => op.name == name

theorem ofName?_name (op : Operator) : ofName? op.name = some op := by cases op <;> decide

theorem name_of_ofName? {name : String} {op : Operator} (h : ofName? name = some op) :
    op.name = name := by
  simpa using List.find?_some h

end Operator

end ListQuery
