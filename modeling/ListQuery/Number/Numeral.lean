import ListQuery.Number.Binary64
import ListQuery.Text.Digit
/-!
Numerals as they are typed: whole numbers with a sign, and decimal fractions with an exponent.
The digits may be of any script. A numeral is the exact number that was written; a double is the
one nearest to it.
-/
namespace ListQuery.Number

open ListQuery.Text

def readSign : List Char → Bool × List Char
  | '-' :: rest => (true, rest)
  | '+' :: rest => (false, rest)
  | s => (false, s)

/-- The longest run of digits at the front, and what follows it. -/
def readDigits : List Char → List Nat × List Char
  | [] => ([], [])
  | c :: rest =>
    match digitValue? c with
    | some d => let more := readDigits rest; (d :: more.1, more.2)
    | none => ([], c :: rest)

/-- A whole number as it is written: a sign and at least one digit. -/
structure WholeNumeral where
  negative : Bool
  digits : List Nat
  deriving DecidableEq, Repr

def WholeNumeral.read? (s : List Char) : Option WholeNumeral :=
  match readSign s with
  | (negative, body) =>
    match readDigits body with
    | ([], _) => none
    | (digits, []) => some ⟨negative, digits⟩
    | _ => none

def WholeNumeral.value (w : WholeNumeral) : Int :=
  if w.negative then -(natOfDigits w.digits : Int) else natOfDigits w.digits

/-- The most digits a whole number may have where it is read from text or written as text. -/
def maxWholeDigits : Nat := 4300

/-- The number `digits * 10 ^ exponent` with a sign. -/
structure Numeral where
  negative : Bool
  digits : List Nat
  exponent : Int
  deriving DecidableEq, Repr

/-- An exponent mark with its signed digits; without a mark the exponent is zero. -/
def readExponent? : List Char → Option Int
  | [] => some 0
  | c :: rest =>
    if c = 'e' ∨ c = 'E' then (WholeNumeral.read? rest).map (·.value) else none

def Numeral.read? (s : List Char) : Option Numeral :=
  match readSign s with
  | (negative, body) =>
    match readDigits body with
    | (whole, '.' :: rest) =>
      match readDigits rest with
      | (places, tail) =>
        if whole.isEmpty && places.isEmpty then none
        else (readExponent? tail).map fun e => ⟨negative, whole ++ places, e - places.length⟩
    | (whole, tail) =>
      if whole.isEmpty then none
      else (readExponent? tail).map fun e => ⟨negative, whole, e⟩

/-- Beyond this power of ten every numeral is infinite or zero as a double. -/
def decimalReach : Int := 400

def Numeral.toBinary64 (n : Numeral) : Binary64 :=
  let significant := n.digits.dropWhile (· == 0)
  let magnitude := n.exponent + significant.length
  if significant.isEmpty || decide (magnitude < -decimalReach) then .finite n.negative 0
  else if decimalReach < magnitude then .infinity n.negative
  else
    let value := natOfDigits significant
    if 0 ≤ n.exponent then .ofRatio n.negative (value * tenTo n.exponent.toNat) 1
    else .ofRatio n.negative value (tenTo (-n.exponent).toNat)

example : (WholeNumeral.read? "-012".toList).map (·.value) = some (-12) := by decide +kernel
example : Numeral.read? "1.50e2".toList = some ⟨false, [1, 5, 0], 0⟩ := by decide +kernel
example : (Numeral.read? ".".toList) = none ∧ (Numeral.read? "1e".toList) = none := by
  decide +kernel

end ListQuery.Number
