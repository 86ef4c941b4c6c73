import ListQuery.Number.Binary64
/-!
The fewest decimal digits that identify a double. The numbers that round to a double form an
interval; among the decimals with the fewest digits inside it the nearest one is chosen, and of
two equally near ones the even one. The text lays these digits out positionally from `10^-4` up to
`10^16` and with an exponent outside.
-/
namespace ListQuery.Number

/-- The number `digits * 10 ^ exponent`. -/
structure Decimal where
  digits : Nat
  exponent : Int
  deriving DecidableEq, Repr

namespace Binary64

/-- Compares `a * 10 ^ e` with `n` quarters of a unit. -/
def compareQuarters (a : Nat) (e : Int) (n : Nat) : Ordering :=
  compare (a * tenTo e.toNat * (4 * unitsPerOne)) (n * tenTo (-e).toNat)

/-- Whether a decimal rounds to the double with this count of units. The ends of the interval lie
half a step away, a quarter below a power of two, and belong to it when the mantissa is even. -/
def identifies (units : Nat) (d : Decimal) : Bool :=
  let step := twoTo (surplusBits units)
  let mantissa := units / step
  let below := if mantissa = twoTo 52 ∧ 1 < step then step else 2 * step
  let closed := mantissa % 2 == 0
  let low := compareQuarters d.digits d.exponent (4 * units - below)
  let high := compareQuarters d.digits d.exponent (4 * units + 2 * step)
  (low == .gt || (closed && low == .eq)) && (high == .lt || (closed && high == .eq))

/-- The least `k` with the value below `10 ^ k`. -/
def magnitude (units : Nat) : Int :=
  let estimate : Int := ((units.log2 : Int) - 1074) * 30103 / 100000
  let below (k : Int) : Bool := units * tenTo (-k).toNat < unitsPerOne * tenTo k.toNat
  if below estimate then estimate
  else if below (estimate + 1) then estimate + 1
  else estimate + 2

/-- The two decimals next to the value on the grid of `10 ^ e`. -/
def neighbours (units : Nat) (e : Int) : Nat × Nat :=
  let q := units * tenTo (-e).toNat / (unitsPerOne * tenTo e.toNat)
  (q, q + 1)

/-- Whether the lower of two neighbours on a grid is the one to take when both identify. -/
def lowerNearer (units q : Nat) (e : Int) : Bool :=
  match compareQuarters (2 * q + 1) e (8 * units) with
  | .gt => true
  | .eq => q % 2 == 0
  | .lt => false

def onGrid? (units : Nat) (e : Int) : Option Decimal :=
  let (q, q') := neighbours units e
  match identifies units ⟨q, e⟩, identifies units ⟨q', e⟩ with
  | true, true => some (if lowerNearer units q e then ⟨q, e⟩ else ⟨q', e⟩)
  | true, false => some ⟨q, e⟩
  | false, true => some ⟨q', e⟩
  | false, false => none

/-- Seventeen digits always identify a double, so the exact value at the end is never needed. -/
def shortest (units : Nat) : Decimal :=
  let k := magnitude units
  match (List.range 17).findSome? fun n : Nat => onGrid? units (k - 1 - (n : Int)) with
  | some d => d
  | none => ⟨units * fiveTo 1074, -1074⟩

end Binary64

/-- Digits before trailing zeros, with the zeros moved into the exponent. -/
def stripZeros (digits : List Char) : List Char := (digits.reverse.dropWhile (· == '0')).reverse

def exponentText (e : Int) : List Char :=
  let digits := Nat.toDigits 10 e.natAbs
  (if e < 0 then '-' else '+') :: (List.replicate (2 - digits.length) '0' ++ digits)

/-- Lays out significant digits whose first one stands for `10 ^ e`. -/
def layout (digits : List Char) (e : Int) : List Char :=
  if e < -4 ∨ 16 ≤ e then
    match digits with
    | [] => []
    | d :: rest => (if rest.isEmpty then [d] else d :: '.' :: rest) ++ 'e' :: exponentText e
  else if e < 0 then ['0', '.'] ++ List.replicate (-e - 1).toNat '0' ++ digits
  else
    let whole := (e + 1).toNat
    let padded := digits ++ List.replicate (whole - digits.length) '0'
    let places := digits.drop whole
    padded.take whole ++ '.' :: (if places.isEmpty then ['0'] else places)

def Decimal.layout (d : Decimal) : List Char :=
  let all := Nat.toDigits 10 d.digits
  Number.layout (stripZeros all) (d.exponent + all.length - 1)

def Binary64.text : Binary64 → String
  | .nan => "nan"
  | .infinity negative => if negative then "-inf" else "inf"
  | .finite negative units =>
    let body := if units = 0 then "0.0" else String.ofList (shortest units).layout
    if negative then "-" ++ body else body

example : (Binary64.ofRatio false 1 10).text = "0.1" := by decide +kernel
example : (Binary64.ofRatio true (tenTo 16) 1).text = "-1e+16" := by decide +kernel
example : (Binary64.finite false 1).text = "5e-324" := by decide +kernel

end ListQuery.Number
