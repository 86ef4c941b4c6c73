import ListQuery.Number.Binary64
import ListQuery.Time.Calendar
/-!
Spans of days, and moments a span away from another. A span is held in microseconds; a fraction
of a day is multiplied as a double and then rounded to whole microseconds, ties to even.
-/
namespace ListQuery.Time

open ListQuery.Number

/-- How a span of days or the moment it leads to can be out of range. -/
inductive SpanFault where
  | tooManyDays (days : Int)
  | daysTooLarge
  | notANumber
  | infinite
  | outOfCalendar
  deriving DecidableEq, Repr

/-- The text of a fault. -/
def SpanFault.message : SpanFault → String
  | .tooManyDays days => s!"days={days}; must have magnitude <= 999999999"
  | .daysTooLarge => "Python int too large to convert to C int"
  | .notANumber => "cannot convert float NaN to integer"
  | .infinite => "cannot convert float infinity to integer"
  | .outOfCalendar => "date value out of range"

def maxSpanDays : Nat := 999999999

/-- A span of microseconds, refused when its whole days exceed the limit. -/
def checkSpan (microseconds : Int) : Except SpanFault Int :=
  let days := microseconds.fdiv microsecondsPerDay
  if days < -2147483648 ∨ 2147483648 ≤ days then .error .daysTooLarge
  else if maxSpanDays < days.natAbs then .error (.tooManyDays days)
  else .ok microseconds

def spanOfDays (days : Int) : Except SpanFault Int := checkSpan (days * microsecondsPerDay)

/-- Whole days are exact; the rest of the day is one rounded product. -/
def spanOfFraction : Binary64 → Except SpanFault Int
  | .nan => .error .notANumber
  | .infinity _ => .error .infinite
  | .finite negative units =>
    let whole := units / Binary64.unitsPerOne * microsecondsPerDay
    let part := match Binary64.scaleUnits (units % Binary64.unitsPerOne) microsecondsPerDay with
      | .finite _ product => divHalfEven product Binary64.unitsPerOne
      | _ => 0
    let total : Int := (whole + part : Nat)
    checkSpan (if negative then -total else total)

/-- The moment a span earlier, on the same clock. -/
def DateTime.earlier (t : DateTime) (span : Int) : Except SpanFault DateTime :=
  match DateTime.ofPosition? (t.position - span) t.offset with
  | some moment => .ok moment
  | none => .error .outOfCalendar

example : (spanOfFraction (.ofRatio false 1 2)).toOption = some 43200000000 := by decide +kernel

end ListQuery.Time
