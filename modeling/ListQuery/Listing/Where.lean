import ListQuery.Column.Path
import ListQuery.Listing.Fault
import ListQuery.Query.Options
import ListQuery.Sql.Predicate
import ListQuery.Text.Like
import ListQuery.Value.Display
/-!
The criteria of a description. Null is tested with `IS NULL`, a list with `IN`, and a scalar with
the operator itself; only equality and its opposite take null or a list. A search term matches every
text that contains it.
-/
namespace ListQuery

open Sql Column Number Text

/-- A column as SQL writes it. -/
def sqlColumn (column : String) : Except QueryFault String := safeName (resolve column)

/-- A value that can be the argument of a comparison. -/
def Value.argument : Value → Except QueryFault Scalar
  | .scalar s => .ok s
  | v => .error (.unsupportedValue v.kindName)

def Value.arguments (items : List Value) : Except QueryFault (List Scalar) :=
  items.mapM Value.argument

/-- The predicate of a plain equality. -/
def equality (column : String) (value : Value) : Except QueryFault Predicate := do
  let name ← sqlColumn column
  match value with
  | .null => .ok (.isNull name)
  | .list items => .ok (.within name (← Value.arguments items))
  | v => .ok (.compare name .eq (← v.argument))

/-- The predicate of a condition with a known operator on a safe column. -/
def comparison (name : String) (op : Operator) (c : Condition) : Except QueryFault Predicate := do
  match c.value, op with
  | .null, .eq => .ok (.isNull name)
  | .null, .ne => .ok (.isNotNull name)
  | .null, _ => .error (.scalarNeeded c.operator c.column)
  | .list items, .eq => .ok (.within name (← Value.arguments items))
  | .list items, .ne => .ok (.without name (← Value.arguments items))
  | .list _, _ => .error (.scalarNeeded c.operator c.column)
  | v, op => .ok (.compare name op (← v.argument))

def Condition.predicate (c : Condition) : Except QueryFault Predicate :=
  match Operator.ofName? c.operator with
  | none => .error (.unknownOperator c.operator c.column)
  | some op => do comparison (← sqlColumn c.column) op c

def itemText (item : Value) : Except QueryFault String :=
  match item.text? with
  | some s => .ok s
  | none => .error .itemNotText

/-- The text that is searched for. -/
def searchText : Value → Except QueryFault String
  | .scalar (.bool b) => .ok (if b then "true" else "false")
  | .null => .ok "null"
  | .list items => do .ok ("[" ++ String.intercalate "," (← items.mapM itemText) ++ "]")
  | v => v.display.mapError .whole

def searchPredicate (column : String) (term : Value) : Except QueryFault Predicate := do
  let pattern := containsPattern (← searchText term)
  .ok (.matching (← sqlColumn column) pattern)

namespace Options

def conditionCriteria (o : Options) : Except QueryFault (List Criterion) :=
  o.conditions.mapM fun c => c.predicate.map .single

def filterCriteria (o : Options) : Except QueryFault (List Criterion) :=
  o.filter.entries.mapM fun e => (equality e.1 e.2).map .single

/-- One criterion for a map of alternatives, none for an empty map. -/
def choice (predicate : String → Value → Except QueryFault Predicate) (m : OrderedMap Value) :
    Except QueryFault (List Criterion) :=
  if m.isEmpty then .ok []
  else (m.entries.mapM fun e => predicate e.1 e.2).map fun members => [.anyOf members]

def filterOrCriteria (o : Options) : Except QueryFault (List Criterion) :=
  choice equality o.filterOr

def searchCriteria (o : Options) : Except QueryFault (List Criterion) :=
  choice searchPredicate o.search

/-- All criteria of a description, in the order in which they are written. -/
def criteria (o : Options) : Except QueryFault (List Criterion) := do
  let conditions ← o.conditionCriteria
  let filters ← o.filterCriteria
  let alternatives ← o.filterOrCriteria
  let terms ← o.searchCriteria
  .ok (conditions ++ filters ++ alternatives ++ terms)

end Options

end ListQuery
