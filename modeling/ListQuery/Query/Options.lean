import ListQuery.OrderedMap
import ListQuery.Query.Operator
import ListQuery.Text.Case
import ListQuery.Value.Basic
/-!
A query description: which rows of a list are wanted, in what order and which page of them. An
equality condition is also entered into the plain filter; an order clause takes the place of an
earlier clause on the same column.
-/
namespace ListQuery

/-- A comparison of a column with a value. The operator is the name in the request, known or not. -/
structure Condition where
  column : String
  operator : String
  value : Value

structure OrderClause where
  column : String
  direction : String
  deriving DecidableEq, Repr

/-- The direction of a clause that names none. -/
def defaultDirection : String := "ASC"

def defaultPage : Int := 1

def defaultLimit : Int := 10

structure Options where
  page : Int
  limit : Int
  /-- Equalities of which all must hold. -/
  filter : OrderedMap Value
  conditions : List Condition
  /-- Equalities of which one must hold. -/
  filterOr : OrderedMap Value
  /-- Terms of which one must be found. -/
  search : OrderedMap Value
  order : List OrderClause

namespace Options

def default : Options := ⟨defaultPage, defaultLimit, .empty, [], .empty, .empty, []⟩

/-- Adds a comparison; an equality is entered into the filter too. -/
def addCondition (o : Options) (c : Condition) : Options :=
  { o with
    conditions := o.conditions ++ [c]
    filter := if c.operator = Operator.eq.name then o.filter.insert c.column c.value else o.filter }

def addConditions (o : Options) (cs : List Condition) : Options := cs.foldl addCondition o

def withoutOrder (o : Options) (column : String) : Options :=
  { o with order := o.order.filter fun clause => clause.column ≠ column }

def addOrder (o : Options) (column direction : String) : Options :=
  { o with order := (o.withoutOrder column).order ++ [⟨column, Text.upper direction⟩] }

/-- The order as a map from columns to directions. -/
def orderMap (o : Options) : OrderedMap String :=
  .ofList (o.order.map fun clause => (clause.column, clause.direction))

/-- Every column the description refers to, with repetitions. -/
def columns (o : Options) : List String :=
  o.filter.keys ++ o.filterOr.keys ++ o.conditions.map (·.column) ++ o.search.keys ++
    o.order.map (·.column)

end Options

end ListQuery
