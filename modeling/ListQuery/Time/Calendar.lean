/-!
Calendar dates and moments of the years 1 to 9999. Days are numbered from 1 January of the year 1,
which is day 1; a moment is a number of microseconds on that line, with an optional offset from
universal time that only its written form shows.
-/
namespace ListQuery.Time

structure Date where
  year : Nat
  month : Nat
  day : Nat
  deriving DecidableEq, Repr, Inhabited

structure DateTime where
  date : Date
  hour : Nat
  minute : Nat
  second : Nat
  microsecond : Nat
  /-- Seconds ahead of universal time. -/
  offset : Option Int
  deriving DecidableEq, Repr, Inhabited

def isLeapYear (year : Nat) : Bool := year % 4 == 0 && (year % 100 != 0 || year % 400 == 0)

def monthLengths (year : Nat) : List Nat :=
  [31, if isLeapYear year then 29 else 28, 31, 30, 31, 30, 31, 31, 30, 31, 30, 31]

/-- The number of days of a month; none for a month outside the year. -/
def monthLength? (year month : Nat) : Option Nat :=
  if month = 0 then none else (monthLengths year)[month - 1]?

def daysBeforeYear (year : Nat) : Nat :=
  let y := year - 1
  365 * y + y / 4 - y / 100 + y / 400

def Date.dayNumber (d : Date) : Nat :=
  daysBeforeYear d.year + ((monthLengths d.year).take (d.month - 1)).foldl (· + ·) 0 + d.day

/-- Splits a day of the year, counted from zero, into a month and a day of it. -/
def monthAndDay (month : Nat) (dayOfYear : Nat) : List Nat → Nat × Nat
  | [] => (month, dayOfYear + 1)
  | length :: rest =>
    if dayOfYear < length then (month, dayOfYear + 1)
    else monthAndDay (month + 1) (dayOfYear - length) rest

/-- The date of a day number. Four centuries, centuries, leap cycles and years are taken off in
turn; the last day of a cycle belongs to its last year. -/
def Date.ofDayNumber (number : Nat) : Date :=
  let n := number - 1
  let cycle := n / 146097
  let century := min (n % 146097 / 36524) 3
  let leap := (n % 146097 - century * 36524) / 1461
  let rest := (n % 146097 - century * 36524) % 1461
  let single := min (rest / 365) 3
  let year := cycle * 400 + century * 100 + leap * 4 + single + 1
  let (month, day) := monthAndDay 1 (rest - single * 365) (monthLengths year)
  ⟨year, month, day⟩

/-- The number of the last day of the year 9999. -/
def lastDayNumber : Nat := 3652059

def microsecondsPerDay : Nat := 86400000000

def DateTime.microsecondOfDay (t : DateTime) : Nat :=
  ((t.hour * 60 + t.minute) * 60 + t.second) * 1000000 + t.microsecond

/-- Microseconds since the start of the year 1, read off the written clock. -/
def DateTime.position (t : DateTime) : Int :=
  ((t.date.dayNumber - 1) * microsecondsPerDay + t.microsecondOfDay : Nat)

/-- The moment at a position with an offset; none outside the years 1 to 9999. -/
def DateTime.ofPosition? (position : Int) (offset : Option Int) : Option DateTime :=
  if 0 ≤ position ∧ position < (lastDayNumber * microsecondsPerDay : Nat) then
    let n := position.toNat
    let clock := n % microsecondsPerDay
    let seconds := clock / 1000000
    some ⟨.ofDayNumber (n / microsecondsPerDay + 1), seconds / 3600, seconds / 60 % 60,
      seconds % 60, clock % 1000000, offset⟩
  else none

def midnight (d : Date) : DateTime := ⟨d, 0, 0, 0, 0, none⟩

example : (⟨1, 1, 1⟩ : Date).dayNumber = 1 := by decide
example : (⟨9999, 12, 31⟩ : Date).dayNumber = lastDayNumber := by decide +kernel
example : Date.ofDayNumber (⟨2024, 2, 29⟩ : Date).dayNumber = ⟨2024, 2, 29⟩ := by decide +kernel
example : Date.ofDayNumber lastDayNumber = ⟨9999, 12, 31⟩ := by decide +kernel

end ListQuery.Time
