import ListQuery.Number.Shortest
import ListQuery.Number.Whole
import ListQuery.Text.Quoted
import ListQuery.Time.Iso
import ListQuery.Value.Basic
/-!
Values as text. A text stands for itself and a moment has a blank before its clock; inside a list
or an object texts are quoted and dates are written with their parts. A whole number that is too
long cannot be written.
-/
namespace ListQuery

open Number Text Time

def boolWord (b : Bool) : String := if b then "True" else "False"

def Scalar.display : Scalar → Except WholeFault String
  | .bool b => .ok (boolWord b)
  | .int n => writeWhole n
  | .float x => .ok x.text
  | .text s => .ok s

def commaSeparated (items : List String) : String := String.intercalate ", " items

/-- Text between braces. -/
def braced (inner : String) : String := "\x7b" ++ inner ++ "\x7d"

/-- The zone of an offset, with whole days and the seconds left over. -/
def offsetParts (offset : Int) : String :=
  if offset = 0 then "datetime.timezone.utc"
  else
    let days := offset.fdiv 86400
    let seconds := offset.fmod 86400
    let dayPart := if days = 0 then [] else [s!"days={days}"]
    let secondPart := if seconds = 0 then [] else [s!"seconds={seconds}"]
    "datetime.timezone(datetime.timedelta(" ++ commaSeparated (dayPart ++ secondPart) ++ "))"

def dateParts (d : Date) : List String := [s!"{d.year}", s!"{d.month}", s!"{d.day}"]

def momentParts (t : DateTime) : List String :=
  let clock := [s!"{t.hour}", s!"{t.minute}"]
  let fine :=
    if t.microsecond ≠ 0 then [s!"{t.second}", s!"{t.microsecond}"]
    else if t.second ≠ 0 then [s!"{t.second}"]
    else []
  let zone := match t.offset with
    | some offset => ["tzinfo=" ++ offsetParts offset]
    | none => []
  dateParts t.date ++ clock ++ fine ++ zone

namespace Value

/-- The text of a value that stands inside another one. -/
def nested : Value → Except WholeFault String
  | .null => .ok "None"
  | .scalar (.text s) => .ok (quoted s)
  | .scalar s => s.display
  | .list items => do
    let texts ← nestedList items
    .ok ("[" ++ commaSeparated texts ++ "]")
  | .object entries => do
    let texts ← nestedEntries entries
    .ok (braced (commaSeparated texts))
  | .date d => .ok ("datetime.date(" ++ commaSeparated (dateParts d) ++ ")")
  | .moment t => .ok ("datetime.datetime(" ++ commaSeparated (momentParts t) ++ ")")
where
  nestedList : List Value → Except WholeFault (List String)
    | [] => .ok []
    | item :: rest => do
      let head ← nested item
      let tail ← nestedList rest
      .ok (head :: tail)
  nestedEntries : List (String × Value) → Except WholeFault (List String)
    | [] => .ok []
    | (key, item) :: rest => do
      let head ← nested item
      let tail ← nestedEntries rest
      .ok ((quoted key ++ ": " ++ head) :: tail)

def display : Value → Except WholeFault String
  | .scalar s => s.display
  | .date d => .ok d.iso
  | .moment t => .ok (t.written " ")
  | v => v.nested

example : (list [int 1, text "a", null]).display.toOption = some "[1, 'a', None]" := by
  decide +kernel
example : (object [("a", bool true)]).display.toOption = some "\x7b'a': True\x7d" := by
  decide +kernel

end Value

end ListQuery
