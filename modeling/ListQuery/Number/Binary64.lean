import ListQuery.Number.Power
import ListQuery.Number.Rounding
/-!
Double-precision numbers, exactly. A finite number is a sign and a count of the least positive
double, `2^-1074`; the counts that occur are those whose binary digits span at most 53 places.
Every operation computes the exact result and rounds it once, to nearest with ties to even.
-/
namespace ListQuery.Number

inductive Binary64 where
  | nan
  | infinity (negative : Bool)
  | finite (negative : Bool) (units : Nat)
  deriving DecidableEq, Repr, Inhabited

namespace Binary64

/-- Units in one: finite values are counted in units of `2^-1074`. -/
def unitsPerOne : Nat := twoTo 1074

/-- The first count that is too large for a finite double, `2^1024`. -/
def overflowUnits : Nat := twoTo 2098

/-- Binary digits of a count that do not fit into the 53 of a mantissa. -/
def surplusBits (units : Nat) : Nat := units.log2 + 1 - 53

/-- Rounds the exact quotient `num / den` of units to a count of 53 significant binary digits. -/
def roundUnits (num den : Nat) : Nat :=
  let shift := surplusBits (num / den)
  divHalfEven num (den * twoTo shift) * twoTo shift

/-- The double nearest to a quotient of naturals; a quotient that is too large is infinite. -/
def ofRatio (negative : Bool) (num den : Nat) : Binary64 :=
  let units := roundUnits (num * unitsPerOne) den
  if units < overflowUnits then .finite negative units else .infinity negative

def zero : Binary64 := .finite false 0

def isFinite : Binary64 → Bool
  | .finite _ _ => true
  | _ => false

/-- The whole number that a double is, when it is one. -/
def toInt? : Binary64 → Option Int
  | .finite negative units =>
    if units % unitsPerOne = 0 then
      let n : Int := (units / unitsPerOne : Nat)
      some (if negative then -n else n)
    else none
  | _ => none

/-- The least whole number that is not below a finite double. -/
def ceil? : Binary64 → Option Int
  | .finite false units => some (ceilDiv units unitsPerOne : Nat)
  | .finite true units => some (-((units / unitsPerOne : Nat) : Int))
  | _ => none

/-- A double, if it is finite. -/
def finite? : Binary64 → Option Binary64
  | .finite negative units => some (.finite negative units)
  | _ => none

/-- Division of a natural by a positive natural; none when the quotient is too large. -/
def quotient? (num den : Nat) : Option Binary64 := (ofRatio false num den).finite?

/-- The product of a part of a double, given in units, with a whole number. -/
def scaleUnits (units factor : Nat) : Binary64 := ofRatio false (units * factor) unitsPerOne

example : ofRatio false 1 1 = .finite false unitsPerOne := by decide +kernel
example : (ofRatio false (twoTo 53 + 1) 1).toInt? = some (twoTo 53) := by decide +kernel
example : quotient? (twoTo 1024) 1 = none := by decide +kernel

end Binary64

end ListQuery.Number
