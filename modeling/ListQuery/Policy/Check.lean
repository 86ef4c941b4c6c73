import ListQuery.Column.Name
import ListQuery.Policy.Config
import ListQuery.Query.Options
/-!
Checking a description against a policy. The rules are tried in a fixed order, each over the
description from front to back, and the first offence is the one reported: names, filter columns,
search columns, order columns, order directions, page bounds, scope, and conditions.
-/
namespace ListQuery

open Text Column

inductive Bound where
  | page
  | limit
  deriving DecidableEq, Repr

inductive Rejection where
  | name (column : String) (fault : NameFault)
  | filterColumn (column : String)
  | searchColumn (column : String)
  | orderColumn (column : String)
  | orderDirection (column direction : String)
  | below (bound : Bound)
  | limitAbove (maximum : Int)
  | scopeMissing (column : String)
  | unknownOperator (column operator : String)
  | operatorDenied (column operator : String) (allowed : List String)
  deriving DecidableEq, Repr

def directionMessage (direction : String) : String :=
  s!"invalid order direction: {direction} (must be ASC or DESC)"

namespace Rejection

def message : Rejection → String
  | name _ fault => fault.message
  | filterColumn column => s!"filtering on column '{column}' is not allowed"
  | searchColumn column => s!"searching on column '{column}' is not allowed"
  | orderColumn column => s!"ordering by column '{column}' is not allowed"
  | orderDirection column direction =>
    s!"invalid order direction for column '{column}': " ++ directionMessage direction
  | below .page => "page must be at least 1"
  | below .limit => "limit must be at least 1"
  | limitAbove maximum => s!"limit cannot exceed {maximum}"
  | scopeMissing column => s!"{column} filter is required for multi-tenant queries"
  | unknownOperator _ operator => s!"unknown operator '{operator}'"
  | operatorDenied column operator allowed =>
    s!"operator '{operator}' is not allowed for column '{column}' (allowed: " ++
      String.intercalate ", " allowed ++ ")"

/-- The column at fault. -/
def column? : Rejection → Option String
  | name column _ | filterColumn column | searchColumn column | orderColumn column => some column
  | orderDirection column _ | scopeMissing column => some column
  | unknownOperator column _ | operatorDenied column _ _ => some column
  | below _ | limitAbove _ => none

/-- The operator at fault. -/
def operator? : Rejection → Option String
  | unknownOperator _ operator | operatorDenied _ operator _ => some operator
  | _ => none

/-- The bound that does not hold. -/
def bound? : Rejection → Option String
  | below .page => some "page"
  | below .limit | limitAbove _ => some "limit"
  | scopeMissing _ => some "scope"
  | _ => none

end Rejection

/-- Whether a direction is one of the two that SQL knows, in any case. -/
def isDirection (direction : String) : Bool :=
  upper direction == "ASC" || upper direction == "DESC"

namespace Policy

def nameRejection? (column : String) : Option Rejection :=
  (nameFault? column).map (.name column)

def deniedColumn? (allowed : List String) (rejection : String → Rejection) (column : String) :
    Option Rejection :=
  if allows allowed column then none else some (rejection column)

def directionRejection? (clause : OrderClause) : Option Rejection :=
  if isDirection clause.direction then none
  else some (.orderDirection clause.column clause.direction)

def boundRejection? (p : Policy) (o : Options) : Option Rejection :=
  if o.page < 1 then some (.below .page)
  else if o.limit < 1 then some (.below .limit)
  else if p.maxPageSize < o.limit then some (.limitAbove p.maxPageSize)
  else none

def scopeRejection? (p : Policy) (o : Options) : Option Rejection :=
  if p.requireScope && !o.filter.keys.contains p.scopeColumn then some (.scopeMissing p.scopeColumn)
  else none

def conditionRejection? (p : Policy) (c : Condition) : Option Rejection :=
  if !operatorNames.contains c.operator then some (.unknownOperator c.column c.operator)
  else if !allows p.filterColumns c.column then some (.filterColumn c.column)
  else if !(p.operatorsFor c.column).contains c.operator then
    some (.operatorDenied c.column c.operator (p.operatorsFor c.column))
  else none

/-- The first offence of a description, if there is one. -/
def rejection? (p : Policy) (o : Options) : Option Rejection :=
  o.columns.findSome? nameRejection?
  <|> (o.filter.keys ++ o.filterOr.keys).findSome? (deniedColumn? p.filterColumns .filterColumn)
  <|> o.search.keys.findSome? (deniedColumn? p.searchColumns .searchColumn)
  <|> (o.order.map (·.column)).findSome? (deniedColumn? p.orderColumns .orderColumn)
  <|> o.order.findSome? directionRejection?
  <|> p.boundRejection? o
  <|> p.scopeRejection? o
  <|> o.conditions.findSome? p.conditionRejection?

end Policy

end ListQuery
