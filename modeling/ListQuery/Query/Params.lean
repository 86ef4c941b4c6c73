import ListQuery.Distinct
import ListQuery.Query.Key
import ListQuery.Query.Options
import ListQuery.Text.Form
import ListQuery.Value.Display
import ListQuery.Value.Typed
/-!
Descriptions from request parameters. Only the first value of a key counts and unknown keys are
passed over; a page or limit that is no positive whole number gives the default.
-/
namespace ListQuery

open Number Text

/-- The positive whole number a text holds, or else a default. -/
def positiveOr (fallback : Int) (raw : String) : Except WholeFault Int :=
  match WholeNumeral.read? (trim raw.toList) with
  | none => .ok fallback
  | some w => w.value?.map fun n => if 0 < n then n else fallback

namespace Options

/-- Enters the value of one parameter. -/
def enter (o : Options) (raw : String) : Target → Except WholeFault Options
  | .page => (positiveOr defaultPage raw).map fun n => { o with page := n }
  | .limit => (positiveOr defaultLimit raw).map fun n => { o with limit := n }
  | .condition column operator =>
    (Value.ofTyped raw).map fun v => o.addCondition ⟨column, operator, v⟩
  | .filterOr column =>
    (Value.ofTyped raw).map fun v => { o with filterOr := o.filterOr.insert column v }
  | .search column =>
    (Value.ofTyped raw).map fun v => { o with search := o.search.insert column v }
  | .order column => .ok (o.addOrder column (String.ofList (trim raw.toList)))

def addParam (o : Options) (key raw : String) : Except WholeFault Options :=
  match Target.ofKey? key with
  | none => .ok o
  | some target => o.enter raw target

/-- A description from keys and values in order. -/
def ofParams (params : List (String × String)) : Except WholeFault Options :=
  (firstByKey params).foldlM (fun o p => o.addParam p.1 p.2) default

/-- A description from keys and values of any kind, which count as their text. -/
def ofValueParams (params : List (String × Value)) : Except WholeFault Options :=
  (firstByKey params).foldlM (fun o p => do o.addParam p.1 (← p.2.display)) default

/-- Of a list only its first item counts, and an empty list is no parameter at all. -/
def firstItem? : String × Value → Option (String × Value)
  | (_, .list []) => none
  | (key, .list (item :: _)) => some (key, item)
  | entry => some entry

/-- A description from a map whose values may be lists. -/
def ofParamMap (params : OrderedMap Value) : Except WholeFault Options :=
  ofValueParams (params.entries.filterMap firstItem?)

def ofQueryString (query : String) : Except WholeFault Options := ofParams (formFields query)

end Options

end ListQuery
