import ListQuery.Text.Case
import ListQuery.Time.Lexeme
/-!
Words and marks that may stand in a date: the names of months and days of the week, the halves of a
day, the units of a clock, the names of universal time, and what can be skipped. Case does not
matter.
-/
namespace ListQuery.Time

open ListQuery.Text

def lowerWord (letters : List Char) : String := String.ofList (lowerChars letters)

def monthNames : List (List String) :=
  [["jan", "january"], ["feb", "february"], ["mar", "march"], ["apr", "april"], ["may"],
   ["jun", "june"], ["jul", "july"], ["aug", "august"], ["sep", "sept", "september"],
   ["oct", "october"], ["nov", "november"], ["dec", "december"]]

/-- The names of the days of the week, Monday first. -/
def weekdayNames : List (List String) :=
  [["mon", "monday"], ["tue", "tuesday"], ["wed", "wednesday"], ["thu", "thursday"],
   ["fri", "friday"], ["sat", "saturday"], ["sun", "sunday"]]

inductive ClockUnit where
  | hour
  | minute
  | second
  deriving DecidableEq, Repr

/-- The unit of the number behind one with the given unit. -/
def ClockUnit.next? : ClockUnit → Option ClockUnit
  | .hour => some .minute
  | .minute => some .second
  | .second => none

def clockUnits : List (ClockUnit × List String) :=
  [(.hour, ["h", "hour", "hours"]), (.minute, ["m", "minute", "minutes"]),
   (.second, ["s", "second", "seconds"])]

/-- Words that are numbers outside of dates. -/
def numberWords : List String := ["nan", "inf", "infinity"]

def fillerWords : List String := ["at", "on", "and", "ad", "m", "t", "of", "st", "nd", "rd", "th"]

def fillerMarks : List Char := [' ', '.', ',', ';', '-', '/', '\x27']

def monthNumber? (letters : List Char) : Option Nat :=
  (monthNames.findIdx? fun names => names.contains (lowerWord letters)).map (· + 1)

/-- The number of a day of the week, zero for Monday. -/
def weekday? (letters : List Char) : Option Nat :=
  weekdayNames.findIdx? fun names => names.contains (lowerWord letters)

/-- Whether a word says that an hour is one after noon. -/
def afternoon? (letters : List Char) : Option Bool :=
  let w := lowerWord letters
  if w = "am" ∨ w = "a" then some false else if w = "pm" ∨ w = "p" then some true else none

def isUniversalZone (letters : List Char) : Bool :=
  ["utc", "gmt", "z"].contains (lowerWord letters)

def Lexeme.isFiller : Lexeme → Bool
  | .number _ => false
  | .word letters => fillerWords.contains (lowerWord letters)
  | .mark c => fillerMarks.contains c

def Lexeme.afternoon? : Lexeme → Option Bool
  | .word letters => Time.afternoon? letters
  | _ => none

def Lexeme.unit? : Lexeme → Option ClockUnit
  | .word letters =>
    (clockUnits.find? fun entry => entry.2.contains (lowerWord letters)).map (·.1)
  | _ => none

def Lexeme.month? : Lexeme → Option Nat
  | .word letters => monthNumber? letters
  | _ => none

end ListQuery.Time
