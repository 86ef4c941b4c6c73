import ListQuery.Query.Draft
import ListQuery.Time.FreeText
import ListQuery.Time.Iso
import ListQuery.Time.Span
/-!
Conditions that many lists need: rows of one owner, rows that are not deleted, rows newer or older
than a number of days, and rows between two dates. Moments are compared in ISO form.
-/
namespace ListQuery

open Number Time

inductive PresetFault where
  | noBound
  | notDays
  | notDate
  | span (fault : SpanFault)
  | dateText (fault : DateTextFault) (text : String)
  | fields (fault : FieldFault)
  deriving DecidableEq, Repr

def PresetFault.message : PresetFault → String
  | .noBound => "At least one of start or end must be provided"
  | .notDays => "days must be a number"
  | .notDate => "a date must be a moment or a text"
  | .span fault => fault.message
  | .dateText fault text => fault.message text
  | .fields _ => "invalid condition"

namespace Preset

def defaultDays : Value := .int 30

def ownerColumn : String := "user_id"

def deletionColumn : String := "deleted_at"

def creationColumn : String := "created_at"

/-- A condition on a column that may turn out to be no text. -/
def condition (column : Value) (op : Operator) (value : Value) :
    Except PresetFault (List Condition) :=
  ((Condition.ofParts column (.text op.name) value).map ([·])).mapError .fields

def ownedBy (owner column : Value) : Except PresetFault (List Condition) :=
  condition column .eq owner

def notDeleted (column : Value) : Except PresetFault (List Condition) := condition column .eq .null

def span (days : Value) : Except PresetFault Int :=
  let checked : Except SpanFault Int → Except PresetFault Int := Except.mapError .span
  match days with
  | .scalar (.int n) => checked (spanOfDays n)
  | .scalar (.bool b) => checked (spanOfDays (if b then 1 else 0))
  | .scalar (.float x) => checked (spanOfFraction x)
  | _ => .error .notDays

/-- The moment a number of days before another. -/
def cutoff (days : Value) (moment : DateTime) : Except PresetFault DateTime := do
  (moment.earlier (← span days)).mapError .span

/-- A comparison with a moment in ISO form. -/
def comparedWith (column : Value) (op : Operator) (t : DateTime) :
    Except PresetFault (List Condition) :=
  condition column op (.text t.iso)

def recent (days column : Value) (now : DateTime) : Except PresetFault (List Condition) := do
  comparedWith column .gte (← cutoff days now)

def olderThan (days column : Value) (now : DateTime) : Except PresetFault (List Condition) := do
  comparedWith column .lt (← cutoff days now)

/-- One end of a range of dates; null is no end. A text is read on the given day. -/
def bound (today : Date) : Value → Except PresetFault (Option DateTime)
  | .null => .ok none
  | .moment t => .ok (some t)
  | .scalar (.text s) =>
    match DateTime.ofText s today with
    | .ok t => .ok (some t)
    | .error fault => .error (.dateText fault s)
  | _ => .error .notDate

/-- The condition that one end of a range stands for. -/
def boundConditions (column : Value) (op : Operator) (today : Date) (limit : Value) :
    Except PresetFault (List Condition) := do
  match ← bound today limit with
  | none => .ok []
  | some t => comparedWith column op t

/-- A range of dates, the ends included. The first end is settled before the second is read. -/
def dateRange (column start finish : Value) (today : Date) :
    Except PresetFault (List Condition) := do
  if start.isNull && finish.isNull then .error .noBound
  else
    let first ← boundConditions column .gte today start
    .ok (first ++ (← boundConditions column .lte today finish))

end Preset

end ListQuery
