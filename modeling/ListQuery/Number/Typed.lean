import ListQuery.Number.Whole
import ListQuery.Text.Blank
/-!
Whole numbers that a text may hold where a number is wanted. White space around the text, a plus
sign, zeros in front, a fraction of zeros and single underscores between digits are taken away; what
is left has to be a plain whole number. Zeros and underscores in front are skipped together.
-/
namespace ListQuery.Number

open ListQuery.Text

/-- A sign or digit other than zero, with which the rest of a number may start. -/
def startsNumber (c : Char) : Bool := c == '-' || (c.isDigit && c != '0')

/-- What follows a zero in front; the last character skipped stays if it is needed. -/
def afterZero? (last : Char) : List Char → Option (List Char)
  | [] => some [last]
  | c :: rest =>
    if c = '0' ∨ c = '_' then afterZero? c rest
    else if startsNumber c then some (c :: rest)
    else if c = '.' then some (last :: c :: rest)
    else none

def dropLeadingZeros? : List Char → Option (List Char)
  | [] => none
  | c :: rest => if c = '0' then afterZero? c rest
    else if startsNumber c then some (c :: rest) else none

/-- Drops a point with one or more zeros and nothing else behind it. -/
def dropZeroFraction (s : List Char) : List Char :=
  match (s.dropWhile (· != '.')).drop 1 with
  | [] => s
  | places => if places.all (· == '0') then s.takeWhile (· != '.') else s

/-- Drops underscores, none of which may be at an end or beside another. -/
def dropSeparators? (s : List Char) : Option (List Char) :=
  let groups := s.splitOn '_'
  if groups.all fun g => !g.isEmpty then some groups.flatten else none

/-- The digits of a number without needless zeros. -/
def plainDigits? : List Char → Option (List Nat)
  | [] => none
  | ['0'] => some [0]
  | c :: rest => if c = '0' ∨ !(c :: rest).all Char.isDigit then none else digitValues? (c :: rest)

/-- A plain whole number; sign and digits together are limited in number. -/
def plainWhole? (s : List Char) : Option WholeNumeral :=
  if maxWholeDigits < s.length then none
  else
    match s with
    | '-' :: rest => (plainDigits? rest).map (⟨true, ·⟩)
    | s => (plainDigits? s).map (⟨false, ·⟩)

/-- Reads a number without white space around it and without a plus sign in front. -/
def unsignedWhole? (negative : Bool) (s : List Char) : Option WholeNumeral := do
  let body ← dropSeparators? (dropZeroFraction (← dropLeadingZeros? s))
  plainWhole? (if negative then '-' :: body else body)

/-- The whole number that a text holds. -/
def wholeOfText? (text : String) : Option Int :=
  let numeral := match trimWhere isWhiteSpace text.toList with
    | '+' :: rest => if rest.head? = some '-' then none else unsignedWhole? false rest
    | '-' :: rest => unsignedWhole? true rest
    | s => unsignedWhole? false s
  numeral.map (·.value)

example : wholeOfText? " +1_0.00 " = some 10 ∧ wholeOfText? "-00__7" = some (-7) := by
  decide +kernel
example : wholeOfText? "1__0" = none ∧ wholeOfText? "5." = none ∧ wholeOfText? "0_" = none := by
  decide +kernel

end ListQuery.Number
