import ListQuery.Query.Operator
import ListQuery.Sql.Literal
import ListQuery.Sql.Statement
/-!
Conditions that belong to a relationship and are written into its join with their value. A null
value is tested with `IS NULL`, or `IS NOT NULL` when the operator is `ne`. A condition has no
arguments, so a mark in it names none; it stays in the text, or the condition is refused for it.
-/
namespace ListQuery

open Sql

structure StaticCondition where
  column : String
  operator : String
  value : Value

inductive JoinFault where
  | unknownOperator (operator : String)
  | unsupportedKind (kind : String)
  | literal (fault : LiteralFault)
  | blankTable
  | strayMark (name : String)
  deriving DecidableEq, Repr

def JoinFault.message : JoinFault → String
  | .unknownOperator operator => s!"unknown operator '{operator}' in join condition"
  | .unsupportedKind kind => "unsupported relationship type: " ++ kind
  | .literal .noLiteral => "a join condition holds a value without a literal"
  | .literal (.whole fault) => fault.message
  | .blankTable => "a join names no table"
  | .strayMark name => s!"a mark names no argument: '{name}'"

namespace StaticCondition

def nullTest (c : StaticCondition) : String :=
  c.column ++ if c.operator = Operator.ne.name then " IS NOT NULL" else " IS NULL"

def comparisonText (c : StaticCondition) (op : Operator) : Except JoinFault String :=
  match valueLiteral c.value with
  | .ok literal => .ok (c.column ++ " " ++ op.sign ++ " " ++ literal)
  | .error fault => .error (.literal fault)

/-- The condition as SQL text. -/
def text (c : StaticCondition) : Except JoinFault String :=
  match c.value with
  | .null => .ok c.nullTest
  | _ =>
    match Operator.ofName? c.operator with
    | none => .error (.unknownOperator c.operator)
    | some op => c.comparisonText op

def textUnder (strays : StrayMarks) (c : StaticCondition) : Except JoinFault String := do
  let written ← c.text
  match strays.refusal? 0 written.toList with
  | none => .ok written
  | some name => .error (.strayMark name)

end StaticCondition

end ListQuery
