import ListQuery.Number.Binary64
import ListQuery.OrderedMap
import ListQuery.Time.Calendar
/-!
The values a query carries. A scalar can be compared in SQL; a filter also takes null and a list of
texts. Nothing else may be filtered by, but a description that has not been checked can hold it.
-/
namespace ListQuery

open Number Time

inductive Scalar where
  | bool (b : Bool)
  | int (n : Int)
  | float (x : Binary64)
  | text (s : String)
  deriving DecidableEq, Repr, Inhabited

inductive Value where
  | null
  | scalar (s : Scalar)
  | list (items : List Value)
  | object (entries : List (String × Value))
  | date (d : Date)
  | moment (t : DateTime)
  deriving Inhabited

namespace Value

def bool (b : Bool) : Value := .scalar (.bool b)

def int (n : Int) : Value := .scalar (.int n)

def float (x : Binary64) : Value := .scalar (.float x)

def text (s : String) : Value := .scalar (.text s)

def texts (items : List String) : Value := .list (items.map text)

def isNull : Value → Bool
  | .null => true
  | _ => false

def text? : Value → Option String
  | .scalar (.text s) => some s
  | _ => none

/-- Whether a filter may hold the value: null, a scalar or a list of texts. -/
def isAdmissible : Value → Bool
  | .null | .scalar _ => true
  | .list items => items.all fun item => item.text?.isSome
  | .object _ | .date _ | .moment _ => false

/-- The word for a kind of value that SQL cannot take as an argument. -/
def kindName : Value → String
  | .null => "NoneType"
  | .scalar (.bool _) => "bool"
  | .scalar (.int _) => "int"
  | .scalar (.float _) => "float"
  | .scalar (.text _) => "str"
  | .list _ => "list"
  | .object _ => "dict"
  | .date _ => "date"
  | .moment _ => "datetime"

/-- An object of pairs; the last value of a repeated key counts. -/
def ofPairs (pairs : List (String × Value)) : Value := .object (OrderedMap.ofList pairs).entries

example : (texts ["a", "b"]).isAdmissible = true := by decide
example : (list [int 1]).isAdmissible = false := by decide

end Value

end ListQuery
