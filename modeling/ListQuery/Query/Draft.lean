import ListQuery.Number.Typed
import ListQuery.Query.Options
/-!
Descriptions that come in as plain objects. Each field is checked on its own, and a refusal names
every field at fault. A page number may be a whole number in any guise: a truth value, a double
without a fraction, or a text of digits.
-/
namespace ListQuery

open Number

/-- The fields of an object that do not hold what they should, in order and without repetition. -/
structure FieldFault where
  fields : List String
  deriving DecidableEq, Repr

/-- Doubles at or beyond this bound are not taken for whole numbers. -/
def wholeDoubleBound : Nat := twoTo 63

def Value.whole? : Value → Option Int
  | .scalar (.int n) => some n
  | .scalar (.bool b) => some (if b then 1 else 0)
  | .scalar (.float x) => x.toInt?.filter fun n => n.natAbs < wholeDoubleBound
  | .scalar (.text s) => wholeOfText? s
  | _ => none

def Value.admissible? (v : Value) : Option Value := if v.isAdmissible then some v else none

def admissibleEntry? (entry : String × Value) : Option (String × Value) :=
  entry.2.admissible?.map fun v => (entry.1, v)

def Value.filterMap? : Value → Option (OrderedMap Value)
  | .object entries => (entries.mapM admissibleEntry?).map OrderedMap.ofList
  | _ => none

/-- The names of the fields that are missing or wrong. -/
def faultyFields (checks : List (String × Bool)) : List String :=
  (checks.filter fun c => !c.2).map (·.1)

/-- A comparison of unchecked parts. -/
def Condition.ofParts (column operator value : Value) : Except FieldFault Condition :=
  match column.text?, operator.text?, value.admissible? with
  | some column, some operator, some value => .ok ⟨column, operator, value⟩
  | c, o, v =>
    .error ⟨faultyFields [("column", c.isSome), ("operator", o.isSome), ("value", v.isSome)]⟩

def Condition.ofFields? (entries : List (String × Value)) : Option Condition := do
  let column ← entries.lookup "column"
  let operator ← entries.lookup "operator"
  (Condition.ofParts column operator ((entries.lookup "value").getD .null)).toOption

/-- An order clause of unchecked parts. -/
def OrderClause.ofParts (column direction : Value) : Except FieldFault OrderClause :=
  match column.text?, direction.text? with
  | some column, some direction => .ok ⟨column, direction⟩
  | c, d => .error ⟨faultyFields [("column", c.isSome), ("direction", d.isSome)]⟩

def OrderClause.ofFields? (entries : List (String × Value)) : Option OrderClause := do
  let column ← entries.lookup "column"
  let direction := (entries.lookup "direction").getD (.text defaultDirection)
  (OrderClause.ofParts column direction).toOption

def Value.object? : Value → Option (List (String × Value))
  | .object entries => some entries
  | _ => none

def Value.objects? : Value → Option (List (List (String × Value)))
  | .list items => items.mapM Value.object?
  | _ => none

def Value.conditions? (v : Value) : Option (List Condition) :=
  v.objects?.bind fun items => items.mapM Condition.ofFields?

def OrderClause.ofEntry? (entry : String × Value) : Option OrderClause :=
  entry.2.text?.map fun direction => ⟨entry.1, direction⟩

/-- An order is a list of clauses or a map from columns to directions. -/
def Value.order? : Value → Option (List OrderClause)
  | .object entries => entries.mapM OrderClause.ofEntry?
  | v => v.objects?.bind fun items => items.mapM OrderClause.ofFields?

/-- The name a field is given under; the first name wins. -/
def nameGiven (entries : List (String × Value)) (name other : String) : String :=
  if (entries.lookup name).isSome ∨ (entries.lookup other).isNone then name else other

/-- A field that is read when it is there, with what stands for it otherwise. -/
def readField? {α : Type} (field : Option Value) (read? : Value → Option α) (absent : α) :
    Option α :=
  match field with
  | none => some absent
  | some v => read? v

/-- The fields of a description in the order in which faults are reported. -/
def fieldNames : List String :=
  ["filter", "filterConditions", "filterOr", "filter_conditions", "filter_or", "limit", "order",
   "page", "search"]

/-- Checks a description given as the entries of an object; other fields are ignored. Two fields
have a second name, and a fault is reported under the name that was used. -/
def Options.ofFields (entries : List (String × Value)) : Except FieldFault Options :=
  let conditionsName := nameGiven entries "filterConditions" "filter_conditions"
  let filterOrName := nameGiven entries "filterOr" "filter_or"
  let page := readField? (entries.lookup "page") Value.whole? defaultPage
  let limit := readField? (entries.lookup "limit") Value.whole? defaultLimit
  let filter := readField? (entries.lookup "filter") Value.filterMap? .empty
  let conditions := readField? (entries.lookup conditionsName) Value.conditions? []
  let filterOr := readField? (entries.lookup filterOrName) Value.filterMap? .empty
  let search := readField? (entries.lookup "search") Value.filterMap? .empty
  let order := readField? (entries.lookup "order") Value.order? []
  match page, limit, filter, conditions, filterOr, search, order with
  | some page, some limit, some filter, some conditions, some filterOr, some search, some order =>
    .ok ⟨page, limit, filter, conditions, filterOr, search, order⟩
  | _, _, _, _, _, _, _ =>
    let faulty := faultyFields
      [("filter", filter.isSome), (conditionsName, conditions.isSome),
       (filterOrName, filterOr.isSome), ("limit", limit.isSome), ("order", order.isSome),
       ("page", page.isSome), ("search", search.isSome)]
    .error ⟨fieldNames.filter faulty.contains⟩

end ListQuery
