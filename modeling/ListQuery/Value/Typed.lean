import ListQuery.Number.Numeral
import ListQuery.Number.Whole
import ListQuery.Text.Blank
import ListQuery.Value.Basic
/-!
Values as they are typed into a request. A trimmed text is tried as a word of its own (`true`,
`false`, `null`), as a bracketed list, as a whole number and as a decimal number, in this order;
what is none of these stays a text. Only a whole number that is too long is refused.
-/
namespace ListQuery

open Number Text

def isBracket (c : Char) : Bool := c == '[' || c == ']'

/-- Whether a text starts with an opening and ends with a closing bracket. -/
def isBracketed (s : List Char) : Bool := s.head? == some '[' && s.getLast? == some ']'

def commaPieces (s : List Char) : List (List Char) := (s.splitOn ',').map trim

/-- The items between the outer brackets of a list. Brackets are dropped from both ends however
many there are, and a list with nothing else in it is empty. -/
def listItems (s : List Char) : List String :=
  let inner := trimWhere isBracket s
  if inner.isEmpty then [] else (commaPieces inner).map String.ofList

/-- A decimal number, unless it is one that no finite double is near to. -/
def typedDecimal? (s : List Char) : Option Binary64 :=
  if s.contains '_' then none
  else ((Numeral.read? s).map Numeral.toBinary64).filter Binary64.isFinite

def typedNumber (s : List Char) : Except WholeFault Value :=
  match WholeNumeral.read? s with
  | some w => w.value?.map Value.int
  | none =>
    match typedDecimal? s with
    | some x => .ok (.float x)
    | none => .ok (.text (String.ofList s))

def Value.ofTyped (raw : String) : Except WholeFault Value :=
  let s := trim raw.toList
  if s = "true".toList then .ok (.bool true)
  else if s = "false".toList then .ok (.bool false)
  else if s = "null".toList then .ok .null
  else if isBracketed s then .ok (.texts (listItems s))
  else typedNumber s

/-- The items of a comma-separated text that are not blank. -/
def commaItems (raw : String) : List String :=
  ((commaPieces raw.toList).filter fun item => !item.isEmpty).map String.ofList

example : commaItems "running, cycling,,swimming" = ["running", "cycling", "swimming"] := by
  decide +kernel

end ListQuery
