import ListQuery.Query.Draft
import ListQuery.Time.Iso
import ListQuery.Value.Display
/-!
Descriptions put together in code. A comparison takes any admissible value, and a date in ISO form;
a list of alternatives takes anything that has items and holds their texts. The page and the limit
are not checked, so they may be any value until the description is used.
-/
namespace ListQuery

open Number Time

inductive BuildFault where
  | fields (fault : FieldFault)
  | noItems
  | noDirection
  | whole (fault : WholeFault)
  deriving DecidableEq, Repr

/-- A value as a filter takes it: dates and moments become their ISO text. -/
def Value.dated : Value → Value
  | .date d => .text d.iso
  | .moment t => .text t.iso
  | v => v

/-- The items of a value: of a list, the characters of a text, or the keys of an object. -/
def Value.items? : Value → Option (List Value)
  | .list items => some items
  | .scalar (.text s) => some (s.toList.map fun c => .text (String.singleton c))
  | .object entries => some (entries.map fun e => .text e.1)
  | _ => none

namespace Options

/-- Adds a comparison of unchecked parts. -/
def require (o : Options) (column operator value : Value) : Except FieldFault Options :=
  (Condition.ofParts column operator value).map o.addCondition

def compare (o : Options) (column : Value) (op : Operator) (value : Value) :
    Except FieldFault Options :=
  o.require column (.text op.name) value.dated

/-- Filters a column by the texts of several values. -/
def oneOf (o : Options) (column : String) (values : Value) : Except BuildFault Options :=
  match values.items? with
  | none => .error .noItems
  | some items =>
    match items.mapM fun item => item.dated.display with
    | .ok texts => .ok { o with filter := o.filter.insert column (.texts texts) }
    | .error fault => .error (.whole fault)

def isNull (o : Options) (column : String) : Options :=
  { o with filter := o.filter.insert column .null }

def orEqual (o : Options) (column : String) (value : Value) : Options :=
  { o with filterOr := o.filterOr.insert column value }

def searchFor (o : Options) (column : String) (term : Value) : Options :=
  { o with search := o.search.insert column term }

/-- Adds an order clause of unchecked parts. An earlier clause on the column is dropped first, and
stays dropped where the direction is refused. -/
def orderBy (o : Options) (column direction : Value) : Options × Option BuildFault :=
  match column.text?, direction.text? with
  | some column, some direction => (o.addOrder column direction, none)
  | some column, none => (o.withoutOrder column, some .noDirection)
  | none, some _ => (o, some (.fields ⟨["column"]⟩))
  | none, none => (o, some .noDirection)

end Options

/-- A description under construction, with the page and the limit as they were last asked for. -/
structure Builder where
  options : Options
  page : Value
  limit : Value

namespace Builder

def start (o : Options) : Builder := ⟨o, .int o.page, .int o.limit⟩

def onPage (b : Builder) (page : Value) : Builder := { b with page }

def limitedTo (b : Builder) (limit : Value) : Builder := { b with limit }

/-- The finished description, if page and limit are whole numbers. -/
def build? (b : Builder) : Option Options :=
  match b.page, b.limit with
  | .scalar (.int page), .scalar (.int limit) => some { b.options with page, limit }
  | _, _ => none

theorem build?_start (o : Options) : (start o).build? = some o := rfl

end Builder

end ListQuery
