import ListQuery.Number.Whole
import ListQuery.Time.Fraction
import ListQuery.Time.Words
/-!
Reading the lexemes of a date from left to right. Numbers of the date are collected with the part
that each is known to be, if any; a clock, a zone and an offset are taken apart at once. A lexeme
that fits nowhere ends the reading with a fault.
-/
namespace ListQuery.Time

open ListQuery.Number ListQuery.Text

inductive DatePart where
  | year
  | month
  | day
  deriving DecidableEq, Repr

/-- A number of the date, with the part it is already known to be. -/
structure DateEntry where
  value : Nat
  part : Option DatePart
  deriving DecidableEq, Repr

/-- What has been read so far. -/
structure Reading where
  entries : List DateEntry
  centuryWritten : Bool
  weekday : Option Nat
  hour : Option Nat
  minute : Option Nat
  second : Option Nat
  microsecond : Option Nat
  zone : Option (List Char)
  /-- Seconds ahead of universal time. -/
  offset : Option Int
  deriving DecidableEq, Repr

abbrev Read (α : Type) : Type := Except DateTextFault α

/-- The end of a reading that cannot go on. -/
def unreadable {α : Type} : Read α := .error .unknownFormat

def readable {α : Type} : Option α → Read α
  | some a => .ok a
  | none => unreadable

def whole (text : List Char) : Read Nat :=
  if text.isEmpty ∨ maxWholeDigits < text.length then unreadable
  else (readable (digitValues? text)).map natOfDigits

/-- Seconds with their microseconds; a fraction is cut after six digits. -/
def seconds (text : List Char) : Read (Nat × Nat) := do
  if text.contains '.' then
    let second ← whole (text.takeWhile (· != '.'))
    let places := (text.dropWhile (· != '.')).drop 1
    .ok (second, ← whole ((places ++ List.replicate 6 '0').take 6))
  else .ok (← whole text, 0)

/-- The text of a number; any other lexeme ends the reading. -/
def Lexeme.numberText : Lexeme → Read (List Char)
  | .number text => .ok text
  | _ => unreadable

/-- A year of two digits is the one within fifty years of the year of reading. -/
def nearYear (thisYear year : Nat) : Nat :=
  if 100 ≤ year then year
  else
    let near := year + thisYear / 100 * 100
    if thisYear + 50 ≤ near then near - 100
    else if near + 50 < thisYear then near + 100
    else near

namespace Reading

def empty : Reading := ⟨[], false, none, none, none, none, none, none, none⟩

def knows (r : Reading) (part : DatePart) : Bool := r.entries.any fun e => e.part == some part

/-- Adds a number of the date; a part may be known only once. -/
def add (r : Reading) (value : Nat) (part : Option DatePart) : Read Reading :=
  if part.any r.knows then unreadable
  else .ok { r with entries := r.entries ++ [⟨value, part⟩] }

def addYear (r : Reading) (value : Nat) : Read Reading :=
  ({ r with centuryWritten := true } : Reading).add value (some .year)

/-- Three digits or more can only be a year. -/
def addText (r : Reading) (text : List Char) (part : Option DatePart) : Read Reading := do
  let value ← whole text
  if 2 < text.length then r.addYear value else r.add value part

def addFraction (r : Reading) (f : Fraction) : Read Reading :=
  if f.exceeds 100 then r.addYear f.whole else r.add f.whole none

def addMonth (r : Reading) (month : Nat) : Read Reading := r.add month (some .month)

/-- An hour of the twelve-hour clock. -/
def halfDayHour (hour : Nat) (afternoon : Bool) : Nat :=
  if afternoon then (if hour < 12 then hour + 12 else hour) else (if hour = 12 then 0 else hour)

def withHalfDay (r : Reading) (hour : Nat) (afternoon : Bool) : Reading :=
  { r with hour := some (halfDayHour hour afternoon) }

def value? (r : Reading) (part : DatePart) : Option Nat :=
  (r.entries.find? fun e => e.part == some part).map (·.value)

/-- Whether a number may be the day, given what is known. -/
def couldBeDay (r : Reading) (f : Fraction) : Bool :=
  if r.knows .day then false
  else
    match r.value? .month with
    | none => f.within 31
    | some month => (monthLength? ((r.value? .year).getD 2000) month).any f.within

/-- A number run together from date and clock, four digits of which are a year. -/
def addRunTogether (r : Reading) (text : List Char) : Read Reading := do
  let r ← r.addText (text.take 4) (some .year)
  let r ← r.addText ((text.drop 4).take 2) none
  let r ← r.addText ((text.drop 6).take 2) none
  if text.length ≤ 8 then .ok r
  else
    let hour ← whole ((text.drop 8).take 2)
    let minute ← whole ((text.drop 10).take 2)
    if text.length ≤ 12 then .ok { r with hour := some hour, minute := some minute }
    else
      let second ← whole (text.drop 12)
      .ok { r with hour := some hour, minute := some minute, second := some second }

/-- Six digits: a short date when nothing is known yet, a clock otherwise. -/
def addSix (r : Reading) (text : List Char) : Read Reading := do
  if r.entries.isEmpty ∧ !text.contains '.' then
    let r ← r.addText (text.take 2) none
    let r ← r.addText ((text.drop 2).take 2) none
    r.addText (text.drop 4) none
  else
    let hour ← whole (text.take 2)
    let minute ← whole ((text.drop 2).take 2)
    let (second, microsecond) ← seconds (text.drop 4)
    .ok { r with
      hour := some hour
      minute := some minute
      second := some second
      microsecond := some microsecond }

/-- A clock without colons after a complete date. -/
def addShortClock (r : Reading) (text : List Char) : Read Reading := do
  let hour ← whole (text.take 2)
  if text.length = 2 then .ok { r with hour := some hour }
  else .ok { r with hour := some hour, minute := some (← whole (text.drop 2)) }

/-- The unit a number has from the words around it, if there is one, and the lexemes up to a unit
that follows. A unit in front counts for the number before it, so the next smaller one is meant;
behind seconds there is none. -/
def unitAround? (before rest : List Lexeme) : Option (Option ClockUnit × Nat) :=
  match rest, before with
  | next :: more, _ =>
    match next.unit?, next, more with
    | some unit, _, _ => some (some unit, 1)
    | none, .mark ' ', second :: _ =>
      (second.unit?.map fun unit => (some unit, 2)).or (unitBefore? before)
    | none, _, _ => unitBefore? before
  | [], .mark ' ' :: last :: _ => last.unit?.map fun unit => (unit.next?, 0)
  | [], before => unitBefore? before
where
  unitBefore? (before : List Lexeme) : Option (Option ClockUnit × Nat) :=
    (before.head?.bind Lexeme.unit?).map fun unit => (unit.next?, 0)

/-- A number with a unit; without one it is passed over. -/
def addUnit (r : Reading) (unit : Option ClockUnit) (text : List Char) (f : Fraction) :
    Read Reading := do
  match unit with
  | none => .ok r
  | some .hour =>
    .ok { r with hour := some f.whole, minute := (← f.sixtieths).or r.minute }
  | some .minute => .ok { r with minute := some f.whole, second := ← f.sixtieths }
  | some .second =>
    let (second, microsecond) ← seconds text
    .ok { r with second := some second, microsecond := some microsecond }

/-- A clock with colons after its hour. The result counts the lexemes used up. -/
def addColonClock (r : Reading) (hour : Nat) (minutes : Lexeme) (rest : List Lexeme) :
    Read (Reading × Nat) := do
  let f ← readable (Fraction.read? (← minutes.numberText))
  let r := { r with hour := some hour, minute := some f.whole, second := ← f.sixtieths }
  match rest with
  | .mark ':' :: next :: _ =>
    let (second, microsecond) ← seconds (← next.numberText)
    .ok ({ r with second := some second, microsecond := some microsecond }, 4)
  | _ => .ok (r, 2)

/-- The third member of a date whose first two are joined by a mark. -/
def addThird (r : Reading) (sep : Char) (rest : List Lexeme) : Read (Reading × Nat) := do
  match rest with
  | .mark c :: more =>
    if c = sep then
      let third ← readable more.head?
      match third.month? with
      | some month => .ok (← r.addMonth month, 2)
      | none => .ok (← r.addText (← third.numberText) none, 2)
    else .ok (r, 0)
  | _ => .ok (r, 0)

/-- Members of a date joined by hyphens, slashes or points. -/
def addJoined (r : Reading) (text : List Char) (sep : Char) (rest : List Lexeme) :
    Read (Reading × Nat) := do
  let r ← r.addText text none
  match rest with
  | [] => .ok (r, 1)
  | next :: more =>
    if next.isFiller then .ok (r, 1)
    else
      let r ← match next with
        | .number second => r.addText second none
        | _ => r.addMonth (← readable next.month?)
      let (r, used) ← r.addThird sep more
      .ok (r, 2 + used)

/-- A number on its own, followed by something that can be skipped. -/
def addLone (r : Reading) (f : Fraction) (rest : List Lexeme) : Read (Reading × Nat) := do
  match (rest.drop 1).head?.bind Lexeme.afternoon? with
  | some afternoon => .ok (r.withHalfDay f.whole afternoon, 2)
  | none => .ok (← r.addFraction f, 1)

/-- A number directly in front of a word or a mark that is no part of it. -/
def addBare (r : Reading) (f : Fraction) (afternoon : Option Bool) : Read (Reading × Nat) := do
  match afternoon with
  | some afternoon =>
    if f.whole < 24 then .ok (r.withHalfDay f.whole afternoon, 1)
    else if r.couldBeDay f then .ok (← r.addFraction f, 0)
    else unreadable
  | none => if r.couldBeDay f then .ok (← r.addFraction f, 0) else unreadable

def joints : List Char := ['-', '/', '.']

def addOther (r : Reading) (text : List Char) (f : Fraction) (rest : List Lexeme) :
    Read (Reading × Nat) :=
  match rest with
  | [] => r.addLone f rest
  | .mark ':' :: minutes :: more => r.addColonClock f.whole minutes more
  | next :: more =>
    match next with
    | .mark c =>
      if joints.contains c then r.addJoined text c more
      else if next.isFiller then r.addLone f rest
      else r.addBare f none
    | _ => if next.isFiller then r.addLone f rest else r.addBare f next.afternoon?

def addNumber (r : Reading) (before : List Lexeme) (text : List Char) (rest : List Lexeme) :
    Read (Reading × Nat) := do
  let f ← readable (Fraction.read? text)
  let n := text.length
  let next := rest.head?
  if r.entries.length = 3 ∧ (n = 2 ∨ n = 4) ∧ r.hour = none ∧ next ≠ some (.mark ':') ∧
      next.bind Lexeme.unit? = none then
    .ok (← r.addShortClock text, 0)
  else if n = 6 ∨ (6 < n ∧ text.idxOf '.' = 6) then .ok (← r.addSix text, 0)
  else if n = 8 ∨ n = 12 ∨ n = 14 then .ok (← r.addRunTogether text, 0)
  else
    match unitAround? before rest with
    | some (unit, used) => .ok (← r.addUnit unit text f, used)
    | none => r.addOther text f rest

/-- The number behind the name of a month and a mark, and one more behind the same mark. -/
def addAfterMonth (r : Reading) (sep : Char) (rest : List Lexeme) : Read (Reading × Nat) := do
  let second ← readable rest.head?
  let r ← r.addText (← second.numberText) none
  match rest.drop 1 with
  | .mark c :: more =>
    if c = sep then
      let third ← readable more.head?
      .ok (← r.addText (← third.numberText) none, 4)
    else .ok (r, 2)
  | _ => .ok (r, 2)

/-- A year behind the name of a month and a word between them; what is no number is passed over. -/
def addYearOf (r : Reading) (thisYear : Nat) (year : Lexeme) : Read Reading := do
  match year with
  | .number text =>
    if text.all isAnyDigit then r.addYear (nearYear thisYear (← whole text)) else .ok r
  | _ => .ok r

/-- A month name, with the numbers joined to it. -/
def addMonthName (r : Reading) (thisYear month : Nat) (rest : List Lexeme) :
    Read (Reading × Nat) := do
  let r ← r.addMonth month
  match rest with
  | .mark ' ' :: .word link :: .mark ' ' :: year :: _ =>
    if lowerWord link = "of" then .ok (← r.addYearOf thisYear year, 4) else .ok (r, 0)
  | .mark c :: more => if c = '-' ∨ c = '/' then r.addAfterMonth c more else .ok (r, 0)
  | _ => .ok (r, 0)

/-- Whether a word may name a zone where no offset is in the way. -/
def couldNameZone (r : Reading) (letters : List Char) : Bool :=
  r.hour.isSome && r.zone.isNone && decide (letters.length ≤ 5) &&
    (letters.all Char.isUpper || letters == ['z'])

def couldBeZone (r : Reading) (letters : List Char) : Bool :=
  r.offset.isNone && r.couldNameZone letters

/-- The name of a zone in parentheses behind an offset. -/
def addZoneNote (r : Reading) (rest : List Lexeme) : Reading × Nat :=
  match rest with
  | filler :: .mark '(' :: .word letters :: .mark ')' :: _ =>
    if filler.isFiller ∧ 3 ≤ letters.length ∧ r.couldNameZone letters then
      ({ r with zone := some letters }, 4)
    else (r, 0)
  | _ => (r, 0)

/-- Hours and minutes of an offset, and the lexemes they take. -/
def offsetParts (rest : List Lexeme) : Read (Nat × Nat × Nat) := do
  let text ← (← readable rest.head?).numberText
  if text.length = 4 then .ok (← whole (text.take 2), ← whole (text.drop 2), 1)
  else
    match rest.drop 1 with
    | .mark ':' :: more =>
      let hours ← whole text
      .ok (hours, ← whole (← (← readable more.head?).numberText), 3)
    | _ => if text.length ≤ 2 then .ok (← whole text, 0, 1) else unreadable

/-- An offset from universal time after its sign. -/
def addOffset (r : Reading) (ahead : Bool) (rest : List Lexeme) : Read (Reading × Nat) := do
  let (hours, minutes, used) ← offsetParts rest
  let seconds : Int := (hours * 3600 + minutes * 60 : Nat)
  let offset := if ahead then seconds else -seconds
  let (r, note) := ({ r with offset := some offset } : Reading).addZoneNote (rest.drop used)
  .ok (r, used + note)

/-- A zone name. A sign behind it counts the other way round: the zone is what lies ahead. -/
def addZone (r : Reading) (letters : List Char) (rest : List Lexeme) : Read (Reading × Nat) := do
  let named := { r with zone := some letters }
  match rest with
  | .mark c :: more =>
    if c = '+' ∨ c = '-' then
      let r := if isUniversalZone letters then r else named
      let (r, used) ← r.addOffset (c = '-') more
      .ok (r, used + 1)
    else .ok (named, 0)
  | _ => .ok (named, 0)

def addHalfDay (r : Reading) (afternoon : Bool) : Read Reading :=
  match r.hour with
  | some hour => if hour ≤ 12 then .ok (r.withHalfDay hour afternoon) else unreadable
  | none => unreadable

def addWord (r : Reading) (thisYear : Nat) (letters : List Char) (rest : List Lexeme) :
    Read (Reading × Nat) := do
  if numberWords.contains (lowerWord letters) then unreadable
  else
    match weekday? letters, monthNumber? letters, Time.afternoon? letters with
    | some weekday, _, _ => .ok ({ r with weekday := some weekday }, 0)
    | none, some month, _ => r.addMonthName thisYear month rest
    | none, none, some afternoon => .ok (← r.addHalfDay afternoon, 0)
    | none, none, none =>
      if r.couldBeZone letters then r.addZone letters rest
      else if (Lexeme.word letters).isFiller then .ok (r, 0)
      else unreadable

/-- Reads one lexeme, given those in front of it, the nearest first; the number counts the following
lexemes that were read with it. -/
def step (r : Reading) (thisYear : Nat) (before : List Lexeme) (next : Lexeme)
    (rest : List Lexeme) : Read (Reading × Nat) :=
  match next with
  | .number text => r.addNumber before text rest
  | .word letters => r.addWord thisYear letters rest
  | .mark c =>
    if r.hour.isSome ∧ (c = '+' ∨ c = '-') then r.addOffset (c = '+') rest
    else if (Lexeme.mark c).isFiller then .ok (r, 0)
    else unreadable

def readFrom (r : Reading) (thisYear : Nat) (before : List Lexeme) : List Lexeme → Read Reading
  | [] => .ok r
  | next :: rest =>
    match r.step thisYear before next rest with
    | .ok (r, used) =>
      r.readFrom thisYear ((rest.take used).reverse ++ next :: before) (rest.drop used)
    | .error fault => .error fault
  termination_by lexemes => lexemes.length
  decreasing_by simp only [List.length_drop, List.length_cons]; omega

end Reading

end ListQuery.Time
