import ListQuery.Number.Numeral
import ListQuery.Number.Power
import ListQuery.Number.Rounding
import ListQuery.Time.TextFault
/-!
Numbers of a date with a decimal fraction. A fraction of an hour or a minute is taken in sixtieths,
with 28 significant digits in every step and ties to even.
-/
namespace ListQuery.Time

open ListQuery.Number ListQuery.Text

/-- A number as it is written: its whole part and the digits behind its point. -/
structure Fraction where
  whole : Nat
  places : List Nat
  deriving DecidableEq, Repr

namespace Fraction

def read? (text : List Char) : Option Fraction :=
  match readDigits text with
  | ([], _) => none
  | (digits, []) => some ⟨natOfDigits digits, []⟩
  | (digits, mark :: rest) =>
    if mark = '.' then (digitValues? rest).map fun places => ⟨natOfDigits digits, places⟩ else none

/-- Whether the number is more than its whole part. -/
def isBroken (f : Fraction) : Bool := f.places.any (· != 0)

def exceeds (f : Fraction) (bound : Nat) : Bool :=
  decide (bound < f.whole) || (f.whole == bound && f.isBroken)

/-- Whether the number lies between one and a bound, both included. -/
def within (f : Fraction) (bound : Nat) : Bool := decide (1 ≤ f.whole) && !f.exceeds bound

end Fraction

/-- The number of digits that a step of reckoning keeps. -/
def keptDigits : Nat := 28

def digitCount (n : Nat) : Nat := (Nat.toDigits 10 n).length

/-- The nearest number with no more digits than are kept. -/
def keepDigits (n : Nat) : Nat :=
  let unit := tenTo (digitCount n - keptDigits)
  divHalfEven n unit * unit

/-- The whole sixtieths in a fraction; none where there is no fraction. A fraction can only be
taken of a number whose whole part has no more digits than are kept. -/
def Fraction.sixtieths (f : Fraction) : Except DateTextFault (Option Nat) :=
  if keptDigits < digitCount f.whole then .error .noFraction
  else if f.isBroken then
    .ok (some (keepDigits (60 * keepDigits (natOfDigits f.places)) / tenTo f.places.length))
  else .ok none

example : (Fraction.sixtieths ⟨10, [5]⟩).toOption = some (some 30) := by decide +kernel
example : (Fraction.sixtieths ⟨0, [0, 1, 6]⟩).toOption = some (some 0) := by decide +kernel

end ListQuery.Time
