import ListQuery.Time.Reading
/-!
Dates and moments written by hand: ISO forms, digits run together, month names, month before day
unless the first number is too large for a month, and clocks with colons, units or `am` and `pm`.
Which number is the year, the month or the day is decided when all of them are known. Parts of the
date that are not written are those of the day of reading; a day of the week without a day moves the
date forward to it.
-/
namespace ListQuery.Time

namespace Reading

/-- The written year, month and day. -/
structure Parts where
  year : Option Nat
  month : Option Nat
  day : Option Nat
  deriving DecidableEq, Repr

def partsByLabel (entries : List DateEntry) : Parts :=
  let value (part : DatePart) := (entries.find? fun e => e.part == some part).map (·.value)
  ⟨value .year, value .month, value .day⟩

/-- The one part that two known parts leave for the third number. -/
def remainingPart (known : List DatePart) : DatePart :=
  if !known.contains .year then .year else if !known.contains .month then .month else .day

def monthIndex? (entries : List DateEntry) : Option Nat :=
  entries.findIdx? fun e => e.part == some .month

/-- Decides which number is the year, the month and the day. -/
def parts? (entries : List DateEntry) : Option Parts :=
  let known := entries.filterMap (·.part)
  if entries.length = known.length then some (partsByLabel entries)
  else if entries.length = 3 ∧ known.length = 2 then
    let rest := remainingPart known
    some (partsByLabel (entries.map fun e => { e with part := some (e.part.getD rest) }))
  else
    match entries.map (·.value), monthIndex? entries with
    | [a], _ => some (if 31 < a then ⟨some a, none, none⟩ else ⟨none, none, some a⟩)
    | [a, b], some i =>
      let month := if i = 0 then a else b
      let other := if i = 0 then b else a
      some (if 31 < other then ⟨some other, some month, none⟩ else ⟨none, some month, some other⟩)
    | [a, b], none =>
      some (if 31 < a then ⟨some a, some b, none⟩
        else if 31 < b then ⟨some b, some a, none⟩
        else ⟨none, some a, some b⟩)
    | [a, b, c], some 0 =>
      some (if 31 < b then ⟨some b, some a, some c⟩ else ⟨some c, some a, some b⟩)
    | [a, b, c], some 1 =>
      some (if 31 < a then ⟨some a, some b, some c⟩ else ⟨some c, some b, some a⟩)
    | [a, b, c], some _ =>
      some (if 31 < b then ⟨some b, some c, some a⟩ else ⟨some a, some c, some b⟩)
    | [a, b, c], none =>
      let yearFirst := (entries.head?.bind (·.part)) = some .year
      some (if 31 < a ∨ yearFirst then ⟨some a, some b, some c⟩
        else if 12 < a then ⟨some c, some b, some a⟩
        else ⟨some c, some a, some b⟩)
    | _, _ => none

def isEmpty (r : Reading) : Bool :=
  r.entries.isEmpty && r.weekday.isNone && r.hour.isNone && r.minute.isNone && r.second.isNone

/-- The offset that the zone name and the written offset stand for together. -/
def finalOffset (r : Reading) : Option Int :=
  match r.zone, r.offset with
  | none, offset => offset
  | some letters, offset => if isUniversalZone letters then some 0 else offset

/-- The parts of the date, with those of the day of reading in place of missing ones. -/
def fullDate (r : Reading) (parts : Parts) (today : Date) : Read Date := do
  let near (year : Nat) : Nat := if r.centuryWritten then year else nearYear today.year year
  let year := (parts.year.map near).getD today.year
  let month := parts.month.getD today.month
  match parts.day, monthLength? year month with
  | some day, _ => .ok ⟨year, month, day⟩
  | none, some length => .ok ⟨year, month, min today.day length⟩
  | none, none => .error (.noSuchMonth month)

/-- Lets a date and a clock through that exist. -/
def checkedMoment (d : Date) (hour minute second microsecond : Nat) : Read DateTime := do
  [d.year, d.month, d.day, hour, minute, second].forM checkPart
  if d.year = 0 ∨ 9999 < d.year then .error (.yearOutOfRange d.year)
  else
    match monthLength? d.year d.month with
    | none => .error .monthOutOfRange
    | some length =>
      if d.day = 0 ∨ length < d.day then .error .dayOutOfRange
      else if 24 ≤ hour then .error .hourOutOfRange
      else if 60 ≤ minute then .error .minuteOutOfRange
      else if 60 ≤ second then .error .secondOutOfRange
      else .ok ⟨d, hour, minute, second, microsecond, none⟩

/-- The first day from a date on that is a given day of the week. -/
def onWeekday (d : Date) (weekday : Nat) : Read Date :=
  let number := d.dayNumber + (weekday + 7 - (d.dayNumber - 1) % 7) % 7
  if lastDayNumber < number then .error (.span .outOfCalendar) else .ok (.ofDayNumber number)

def secondsPerDay : Nat := 86400

/-- Lets an offset through that is less than a day. -/
def checkedOffset (offset : Option Int) : Read (Option Int) := do
  match offset with
  | none => .ok none
  | some seconds =>
    let _ ← (checkSpan (seconds * 1000000)).mapError .span
    if secondsPerDay ≤ seconds.natAbs then .error .offsetOutOfRange else .ok (some seconds)

def toDateTime (r : Reading) (parts : Parts) (today : Date) : Read DateTime := do
  let t ← checkedMoment (← r.fullDate parts today) (r.hour.getD 0) (r.minute.getD 0)
    (r.second.getD 0) (r.microsecond.getD 0)
  let date ← match r.weekday, parts.day with
    | some weekday, none => onWeekday t.date weekday
    | _, _ => .ok t.date
  .ok { t with date, offset := ← checkedOffset r.finalOffset }

end Reading

/-- The moment a text names, read on a given day. -/
def DateTime.ofText (text : String) (today : Date) : Read DateTime := do
  let r ← Reading.empty.readFrom today.year [] (lexemes text)
  let parts ← readable (Reading.parts? r.entries)
  if r.isEmpty then .error .noDate else r.toDateTime parts today

end ListQuery.Time
