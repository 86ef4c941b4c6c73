import ListQuery.Column.Name
import ListQuery.Number.Whole
/-!
Why no statement can be written for a description.
-/
namespace ListQuery

open Column Number

inductive QueryFault where
  | unsafeName (fault : NameFault)
  | unsupportedValue (kind : String)
  | unknownOperator (operator column : String)
  | scalarNeeded (operator column : String)
  | blankTable
  | itemNotText
  | whole (fault : WholeFault)
  | strayMark (name : String)
  deriving DecidableEq, Repr

def QueryFault.message : QueryFault → String
  | .unsafeName fault => "refusing to build SQL: " ++ fault.message
  | .unsupportedValue kind => "unsupported filter value type: " ++ kind
  | .unknownOperator operator column => s!"unknown operator '{operator}' for column '{column}'"
  | .scalarNeeded operator column =>
    s!"operator '{operator}' needs a scalar value for column '{column}'"
  | .blankTable => "a join names no table"
  | .itemNotText => "a search list holds an item that is no text"
  | .whole fault => fault.message
  | .strayMark name => s!"a mark names no argument: '{name}'"

/-- Lets a safe name through. -/
def safeName (name : String) : Except QueryFault String :=
  match nameFault? name with
  | none => .ok name
  | some fault => .error (.unsafeName fault)

end ListQuery
