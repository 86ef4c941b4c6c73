/-!
Rounding of exact quotients to the nearest whole number. A tie goes to the even neighbour.
-/
namespace ListQuery.Number

def divHalfEven (num den : Nat) : Nat :=
  let q := num / den
  let r := num % den
  if 2 * r < den ∨ (2 * r = den ∧ q % 2 = 0) then q else q + 1

/-- The least whole number that is not below a quotient of a natural by a positive natural. -/
def ceilDiv (num den : Nat) : Nat := (num + den - 1) / den

example : divHalfEven 5 2 = 2 ∧ divHalfEven 7 2 = 4 ∧ divHalfEven 8 3 = 3 := by decide

end ListQuery.Number
