import ListQuery.OrderedMap
import ListQuery.Query.Operator
import ListQuery.Text.Case
/-!
What a list allows its callers: the columns to filter, search and order by, the operators for each
column, the largest page, and whether rows must be limited to one owner. Names are compared without
regard to case, and a column without operators of its own allows all of them.
-/
namespace ListQuery

open Text

def operatorNames : List String := Operator.all.map Operator.name

/-- Common sets of operators for a column. -/
inductive OperatorSet where
  | all
  | comparison
  | equality
  | strictEquality
  deriving DecidableEq, Repr

def OperatorSet.names : OperatorSet → List String
  | .all | .comparison => operatorNames
  | .equality => [Operator.eq.name, Operator.ne.name]
  | .strictEquality => [Operator.eq.name]

inductive PolicyFault where
  | pageSizeBelowOne
  | scopeColumnMissing
  | unknownOperators (column : String) (operators : List String)
  deriving DecidableEq, Repr

def PolicyFault.message : PolicyFault → String
  | .pageSizeBelowOne => "max_page_size must be >= 1"
  | .scopeColumnMissing => "scope_column is required when require_scope_filter is set"
  | .unknownOperators column operators =>
    s!"operator_whitelist for '{column}' contains unknown operators: " ++
      String.intercalate ", " operators

structure Policy where
  filterColumns : List String
  searchColumns : List String
  orderColumns : List String
  operators : OrderedMap (List String)
  maxPageSize : Int
  requireScope : Bool
  scopeColumn : String
  deriving DecidableEq, Repr

namespace Policy

def defaultMaxPageSize : Int := 100

def defaultScopeColumn : String := "user_id"

def closed : Policy := ⟨[], [], [], .empty, defaultMaxPageSize, false, defaultScopeColumn⟩

def unknownOperators (operators : List String) : List String :=
  operators.filter fun op => !operatorNames.contains op

/-- Checks a policy before it is used. -/
def checked (p : Policy) : Except PolicyFault Policy :=
  if p.maxPageSize < 1 then .error .pageSizeBelowOne
  else if p.requireScope && p.scopeColumn.isEmpty then .error .scopeColumnMissing
  else
    match p.operators.entries.find? fun entry => !(unknownOperators entry.2).isEmpty with
    | some entry => .error (.unknownOperators entry.1 (unknownOperators entry.2))
    | none => .ok p

def sameName (a b : String) : Bool := lower a == lower b

def allows (names : List String) (column : String) : Bool := names.any (sameName · column)

/-- The operators that a column allows. -/
def operatorsFor (p : Policy) (column : String) : List String :=
  match p.operators.entries.find? fun entry => sameName entry.1 column with
  | some entry => entry.2
  | none => operatorNames

/-- Nothing but the order by time stamps, for the rows of one owner. -/
def default : Policy :=
  { closed with orderColumns := ["created_at", "updated_at"], requireScope := true }

def activities (maxPageSize : Int) : Policy where
  filterColumns :=
    ["user_id", "activity_type", "duration_minutes", "distance_km", "calories_burned",
     "activity_date", "created_at", "updated_at", "tags.name", "tags.id"]
  searchColumns := ["title", "description", "notes", "tags.name"]
  orderColumns :=
    ["created_at", "updated_at", "activity_date", "duration_minutes", "distance_km",
     "calories_burned", "tags.name"]
  operators := .ofList
    [("user_id", OperatorSet.strictEquality.names),
     ("activity_date", OperatorSet.comparison.names),
     ("distance_km", OperatorSet.comparison.names),
     ("duration_minutes", OperatorSet.comparison.names),
     ("calories_burned", OperatorSet.comparison.names),
     ("created_at", OperatorSet.comparison.names),
     ("activity_type", OperatorSet.equality.names),
     ("tags.name", OperatorSet.equality.names),
     ("tags.id", OperatorSet.strictEquality.names)]
  maxPageSize
  requireScope := true
  scopeColumn := defaultScopeColumn

end Policy

end ListQuery
