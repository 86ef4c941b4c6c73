import ListQuery.Number.Numeral
import ListQuery.Time.Calendar
/-!
The ISO form of dates and moments. Microseconds are written with six digits and only when they
are not zero; the offset follows as hours and minutes, with seconds only when there are some.
-/
namespace ListQuery.Time

open ListQuery.Number ListQuery.Text

def padded (width n : Nat) : String :=
  let digits := n.repr
  String.ofList (List.replicate (width - digits.length) '0') ++ digits

def Date.iso (d : Date) : String :=
  padded 4 d.year ++ "-" ++ padded 2 d.month ++ "-" ++ padded 2 d.day

def offsetIso (offset : Int) : String :=
  let n := offset.natAbs
  let sign := if offset < 0 then "-" else "+"
  let seconds := if n % 60 = 0 then "" else ":" ++ padded 2 (n % 60)
  sign ++ padded 2 (n / 3600) ++ ":" ++ padded 2 (n / 60 % 60) ++ seconds

def DateTime.clock (t : DateTime) : String :=
  let fraction := if t.microsecond = 0 then "" else "." ++ padded 6 t.microsecond
  padded 2 t.hour ++ ":" ++ padded 2 t.minute ++ ":" ++ padded 2 t.second ++ fraction

/-- The written form with a chosen mark between date and clock. -/
def DateTime.written (t : DateTime) (mark : String) : String :=
  let offset := match t.offset with
    | some o => offsetIso o
    | none => ""
  t.date.iso ++ mark ++ t.clock ++ offset

def DateTime.iso (t : DateTime) : String := t.written "T"

/-- A natural number written with a fixed number of digits at the front of a text. -/
def takeNumber? (width : Nat) (s : List Char) : Option (Nat × List Char) := do
  let digits ← digitValues? (s.take width)
  if digits.length = width then some (natOfDigits digits, s.drop width) else none

def takeMark? (mark : Char) : List Char → Option (List Char)
  | c :: rest => if c = mark then some rest else none
  | [] => none

/-- The six digits of microseconds that a written fraction stands for. -/
def fractionMicroseconds (places : List Nat) : Nat :=
  natOfDigits ((places ++ List.replicate 6 0).take 6)

def readOffset? : List Char → Option (Option Int)
  | [] => some none
  | ['Z'] => some (some 0)
  | sign :: rest => do
    let (hours, rest) ← takeNumber? 2 rest
    let rest ← takeMark? ':' rest
    let (minutes, rest) ← takeNumber? 2 rest
    let seconds ← match rest with
      | [] => some 0
      | mark :: rest => do
        let (seconds, rest) ← takeNumber? 2 rest
        if mark = ':' ∧ rest.isEmpty then some seconds else none
    let n : Int := (hours * 3600 + minutes * 60 + seconds : Nat)
    if sign = '+' then some (some n) else if sign = '-' then some (some (-n)) else none

def readSeconds? : List Char → Option (Nat × Nat × List Char)
  | ':' :: rest => do
    let (second, rest) ← takeNumber? 2 rest
    match rest with
    | '.' :: rest =>
      let (places, rest) := readDigits rest
      some (second, fractionMicroseconds places, rest)
    | rest => some (second, 0, rest)
  | rest => some (0, 0, rest)

def takeDate? (s : List Char) : Option (Date × List Char) := do
  let (year, s) ← takeNumber? 4 s
  let s ← takeMark? '-' s
  let (month, s) ← takeNumber? 2 s
  let s ← takeMark? '-' s
  let (day, s) ← takeNumber? 2 s
  some (⟨year, month, day⟩, s)

def Date.ofIso? (text : String) : Option Date := do
  let (date, rest) ← takeDate? text.toList
  if rest.isEmpty then some date else none

def DateTime.ofIso? (text : String) : Option DateTime := do
  let (date, rest) ← takeDate? text.toList
  match rest with
  | [] => some (midnight date)
  | _ :: rest =>
    let (hour, rest) ← takeNumber? 2 rest
    let rest ← takeMark? ':' rest
    let (minute, rest) ← takeNumber? 2 rest
    let (second, microsecond, rest) ← readSeconds? rest
    let offset ← readOffset? rest
    some ⟨date, hour, minute, second, microsecond, offset⟩

example : (DateTime.ofIso? "2024-01-01T10:20:30.5-00:30").map (·.iso) =
    some "2024-01-01T10:20:30.500000-00:30" := by decide +kernel

end ListQuery.Time
