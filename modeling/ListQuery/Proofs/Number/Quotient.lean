import ListQuery.Number.Binary64
import Mathlib.Tactic.Ring
/-!
Quotients of whole numbers as doubles. Rounding stays on its side of a whole number, and of every
double; the step between doubles is known from the size of the quotient.
-/
namespace ListQuery.Number

theorem twoTo_add (m n : Nat) : twoTo (m + n) = twoTo m * twoTo n := Nat.pow_add 2 m n

theorem twoTo_le_twoTo {m n : Nat} (h : m ≤ n) : twoTo m ≤ twoTo n :=
  Nat.pow_le_pow_right (by decide) h

theorem twoTo_dvd_twoTo {m n : Nat} (h : m ≤ n) : twoTo m ∣ twoTo n := Nat.pow_dvd_pow 2 h

theorem twoTo_le_iff_le_log2 {n k : Nat} (some_bit : n ≠ 0) : twoTo k ≤ n ↔ k ≤ n.log2 :=
  (Nat.le_log2 some_bit).symm

section
variable {num den k : Nat} (pos : 0 < den)
include pos

theorem lt_ceilDiv_iff : k < ceilDiv num den ↔ k * den < num := by
  rw [ceilDiv, Nat.lt_iff_add_one_le, Nat.le_div_iff_mul_le pos, Nat.add_one_mul]
  omega

/-- What lies past the middle is rounded up, and so is the middle itself above an odd number. -/
theorem lt_divHalfEven_iff : k < divHalfEven num den ↔
    (2 * k + 1) * den < 2 * num ∨ ((2 * k + 1) * den = 2 * num ∧ k % 2 = 1) := by
  have split := Nat.div_add_mod' num den
  have rest := Nat.mod_lt num pos
  have middle : (2 * k + 1) * den = 2 * (k * den) + den := by ring
  unfold divHalfEven
  dsimp only
  rw [middle]
  rcases Nat.lt_trichotomy k (num / den) with below | same | above
  · obtain ⟨d, apart⟩ := Nat.exists_eq_add_of_lt below
    have width : (k + d + 1) * den = k * den + d * den + den := by ring
    rw [apart, width] at split
    split <;> omega
  · rw [← same] at split ⊢
    split <;> omega
  · obtain ⟨d, apart⟩ := Nat.exists_eq_add_of_lt above
    have width : (num / den + d + 1) * den = num / den * den + d * den + den := by ring
    rw [apart, width]
    split <;> omega

theorem divHalfEven_mul_right : divHalfEven (k * den) den = k := by
  rw [divHalfEven, Nat.mul_div_cancel _ pos, Nat.mul_mod_left, if_pos (.inl pos)]

/-- Rounding stays on its side of a whole number. -/
theorem divHalfEven_le (bound : num ≤ k * den) : divHalfEven num den ≤ k := by
  have middle : (2 * k + 1) * den = 2 * (k * den) + den := by ring
  rw [← Nat.not_lt, lt_divHalfEven_iff pos, middle]
  omega

end

namespace Binary64

theorem unitsPerOne_pos : 0 < unitsPerOne := twoTo_pos 1074

/-- Rounding to a double stays on its side of a number that is a double of the same scale. -/
theorem roundUnits_le {num den k : Nat} (pos : 0 < den)
    (scaled : twoTo (surplusBits (num / den)) ∣ k) (bound : num ≤ k * den) :
    roundUnits num den ≤ k := by
  obtain ⟨m, rfl⟩ := scaled
  rw [roundUnits, Nat.mul_comm (twoTo _) m]
  apply Nat.mul_le_mul_right
  apply divHalfEven_le (Nat.mul_pos pos (twoTo_pos _))
  calc num ≤ twoTo _ * m * den := bound
    _ = m * (den * twoTo _) := by ring

section
variable {num den : Nat} (pos : 0 < den)
include pos

/-- A quotient below `2^53` is rounded at a place behind the point, or to a whole number. -/
theorem surplusBits_le (small : num < twoTo 53 * den) :
    surplusBits (num * unitsPerOne / den) ≤ 1074 := by
  have below : num * unitsPerOne / den < twoTo (53 + 1074) := by
    rw [Nat.div_lt_iff_lt_mul pos, twoTo_add]
    calc num * unitsPerOne < twoTo 53 * den * unitsPerOne :=
          Nat.mul_lt_mul_of_pos_right small unitsPerOne_pos
      _ = twoTo 53 * twoTo 1074 * den := by
          rw [unitsPerOne]
          ring
  rw [surplusBits]
  by_cases none_left : num * unitsPerOne / den = 0
  · rw [none_left]
    decide
  · have := mt (twoTo_le_iff_le_log2 none_left).mpr (Nat.not_le.mpr below)
    omega

end

end Binary64

end ListQuery.Number
