import ListQuery.Time.Span
/-!
Why a text names no moment. The parts of a moment are held in machine words, so a part is refused
for its size before it is refused for the calendar.
-/
namespace ListQuery.Time

inductive DateTextFault where
  | unknownFormat
  /-- The fraction of a number with too many digits in front of its point. -/
  | noFraction
  | noDate
  | noSuchMonth (month : Nat)
  | exceedsInt
  | exceedsLong
  | yearOutOfRange (year : Nat)
  | monthOutOfRange
  | dayOutOfRange
  | hourOutOfRange
  | minuteOutOfRange
  | secondOutOfRange
  | offsetOutOfRange
  | span (fault : SpanFault)
  deriving DecidableEq, Repr

namespace DateTextFault

/-- Whether the reader refused the text, so that the report quotes it. -/
def isReadingFault : DateTextFault → Bool
  | .noFraction | .exceedsInt | .exceedsLong | .offsetOutOfRange | .span _ => false
  | _ => true

def reason : DateTextFault → String
  | .unknownFormat => "Unknown string format"
  | .noFraction => "the fraction needs too many digits"
  | .noDate => "String does not contain a date"
  | .noSuchMonth month => s!"bad month number {month}; must be 1-12"
  | .exceedsInt => "signed integer is greater than maximum"
  | .exceedsLong => "Python int too large to convert to C long"
  | .yearOutOfRange year => s!"year {year} is out of range"
  | .monthOutOfRange => "month must be in 1..12"
  | .dayOutOfRange => "day is out of range for month"
  | .hourOutOfRange => "hour must be in 0..23"
  | .minuteOutOfRange => "minute must be in 0..59"
  | .secondOutOfRange => "second must be in 0..59"
  | .offsetOutOfRange => "offset must be a timedelta strictly between " ++
      "-timedelta(hours=24) and timedelta(hours=24)."
  | .span fault => fault.message

/-- The report on a text. -/
def message (fault : DateTextFault) (text : String) : String :=
  if fault.isReadingFault then fault.reason ++ ": " ++ text else fault.reason

end DateTextFault

/-- The greatest value of a part of a moment. -/
def intBound : Nat := 2147483647

def longBound : Nat := 9223372036854775807

/-- Lets a number through that fits where the parts of a moment are held. -/
def checkPart (n : Nat) : Except DateTextFault Unit :=
  if longBound < n then .error .exceedsLong
  else if intBound < n then .error .exceedsInt
  else .ok ()

end ListQuery.Time
