import ListQuery.Proofs.Number.Quotient
/-!
Quotients that are rounded up as if they were exact. A quotient between two whole numbers keeps its
ceiling as a double if it is not rounded down to the lower one and the upper one is a double. Which
quotients these are depends on the size of the lower number, since doubles get sparser as they grow.
-/
namespace ListQuery.Number

section
variable {num den k : Nat} (pos : 0 < den)
include pos

theorem ceilDiv_eq_succ_iff : ceilDiv num den = k + 1 ↔ k * den < num ∧ num ≤ (k + 1) * den := by
  have lower : k < ceilDiv num den ↔ k * den < num := lt_ceilDiv_iff pos
  have upper : k + 1 < ceilDiv num den ↔ (k + 1) * den < num := lt_ceilDiv_iff pos
  omega

end

theorem log2_mul_twoTo {n b x : Nat} (n_pos : 0 < n) (low : n * twoTo b ≤ x)
    (high : x < (n + 1) * twoTo b) : x.log2 = n.log2 + b := by
  have some_bit : n ≠ 0 := Nat.ne_of_gt n_pos
  have x_pos : x ≠ 0 := Nat.ne_of_gt (Nat.lt_of_lt_of_le (Nat.mul_pos n_pos (twoTo_pos b)) low)
  refine (Nat.log2_eq_iff x_pos).mpr ⟨?_, ?_⟩
  · calc 2 ^ (n.log2 + b) = 2 ^ n.log2 * twoTo b := Nat.pow_add 2 _ _
      _ ≤ n * twoTo b := Nat.mul_le_mul_right _ (Nat.log2_self_le some_bit)
      _ ≤ x := low
  · calc x < (n + 1) * twoTo b := high
      _ ≤ 2 ^ (n.log2 + 1) * twoTo b := Nat.mul_le_mul_right _ Nat.lt_log2_self
      _ = 2 ^ (n.log2 + b + 1) := by
        rw [Nat.add_right_comm]
        exact (Nat.pow_add 2 _ _).symm

namespace Binary64

/-- A whole number that a double can be: what is behind its first 53 digits is zero. -/
def IsWholeDouble (n : Nat) : Prop := twoTo (surplusBits n) ∣ n ∧ n < twoTo 1024

instance (n : Nat) : Decidable (IsWholeDouble n) := inferInstanceAs (Decidable (_ ∧ _))

/-- The dividends whose quotient has the same ceiling as its double. Apart from zero a dividend is
some multiple of the divisor and a rest that is not zero; the multiple gives the number below. -/
inductive KeepsCeiling (den : Nat) : Nat → Prop
  | zero : KeepsCeiling den 0
  /-- The quotient is at most one, and not so small that it is rounded to zero. -/
  | tiny {rest : Nat} (some_rest : 0 < rest) (within : rest ≤ den)
      (visible : den < rest * twoTo 1075) : KeepsCeiling den rest
  /-- The rest is more than half the step of the doubles above the number. -/
  | clear {n rest : Nat} (n_pos : 0 < n) (few : n < twoTo 53) (within : rest ≤ den)
      (above : twoTo n.log2 * den < rest * twoTo 53) : KeepsCeiling den (n * den + rest)
  /-- The rest is half the step, which is one, and the number is odd. -/
  | middle {n rest : Nat} (large : twoTo 52 ≤ n) (few : n < twoTo 53) (odd : n % 2 = 1)
      (half : 2 * rest = den) : KeepsCeiling den (n * den + rest)
  /-- Every double of this size is a whole number, and the next number is one of them. -/
  | whole {n rest : Nat} (many : twoTo 53 ≤ n) (some_rest : 0 < rest) (within : rest ≤ den)
      (double : IsWholeDouble (n + 1)) : KeepsCeiling den (n * den + rest)

theorem twoTo_surplusBits_dvd_succ_iff {n : Nat} (n_pos : 0 < n) :
    twoTo (surplusBits n) ∣ n + 1 ↔ twoTo (surplusBits (n + 1)) ∣ n + 1 := by
  rcases Nat.lt_or_ge (n + 1) (twoTo (n.log2 + 1)) with short | long
  · -- the next number has as many digits
    have low : twoTo n.log2 ≤ n + 1 :=
      Nat.le_succ_of_le (Nat.log2_self_le (Nat.ne_of_gt n_pos))
    have same : (n + 1).log2 = n.log2 := (Nat.log2_eq_iff (Nat.succ_ne_zero n)).mpr ⟨low, short⟩
    rw [surplusBits, surplusBits, same]
  · -- the next number is a power of two
    have power : n + 1 = twoTo (n.log2 + 1) := Nat.le_antisymm Nat.lt_log2_self long
    have digits : (n + 1).log2 = n.log2 + 1 := by
      rw [power]
      exact Nat.log2_two_pow
    rw [surplusBits, surplusBits, digits, power]
    exact iff_of_true (twoTo_dvd_twoTo (by omega)) (twoTo_dvd_twoTo (by omega))

section
variable {den n rest : Nat} (pos : 0 < den)
include pos

theorem lt_roundUnits_scaled_iff {num k s : Nat} (shift : surplusBits (num / den) = s) :
    k * twoTo s < roundUnits num den ↔
      (2 * k + 1) * (den * twoTo s) < 2 * num ∨
        ((2 * k + 1) * (den * twoTo s) = 2 * num ∧ k % 2 = 1) := by
  rw [roundUnits, shift, Nat.mul_lt_mul_right (twoTo_pos s),
    lt_divHalfEven_iff (Nat.mul_pos pos (twoTo_pos s))]

/-- A quotient that is a double is not rounded. -/
theorem roundUnits_of_dvd {k : Nat} (double : twoTo (surplusBits k) ∣ k) :
    roundUnits (k * den) den = k := by
  obtain ⟨m, whole⟩ := double
  have scaled : k * den = m * (den * twoTo (surplusBits k)) := by
    nth_rewrite 1 [whole]
    ring
  rw [roundUnits, Nat.mul_div_cancel _ pos, scaled,
    divHalfEven_mul_right (Nat.mul_pos pos (twoTo_pos _)), Nat.mul_comm, ← whole]

omit pos in
theorem ceil_quotient_eq_iff {num : Nat} :
    (quotient? num den).bind ceil? = some ((n + 1 : Nat) : Int) ↔
      roundUnits (num * unitsPerOne) den < overflowUnits ∧
        n * unitsPerOne < roundUnits (num * unitsPerOne) den ∧
        roundUnits (num * unitsPerOne) den ≤ (n + 1) * unitsPerOne := by
  rw [← ceilDiv_eq_succ_iff unitsPerOne_pos, quotient?, ofRatio]
  split
  · next fits =>
    simp only [finite?, Option.bind_some, ceil?, Option.some.injEq, fits, true_and]
    exact Int.ofNat_inj
  · next large => simp [finite?, large]

end

/-- A whole number is a double exactly when its units are. -/
theorem twoTo_surplusBits_units_dvd_iff {m : Nat} (m_pos : 0 < m) :
    twoTo (surplusBits (m * unitsPerOne)) ∣ m * unitsPerOne ↔ twoTo (surplusBits m) ∣ m := by
  have digits : (m * unitsPerOne).log2 = m.log2 + 1074 :=
    log2_mul_twoTo m_pos (Nat.le_refl _) (Nat.mul_lt_mul_of_pos_right (by omega) unitsPerOne_pos)
  rw [surplusBits, surplusBits, digits]
  rcases Nat.lt_or_ge m.log2 53 with few | many
  · have none_left : m.log2 + 1 - 53 = 0 := by omega
    rw [none_left]
    refine iff_of_true (Nat.dvd_mul_left_of_dvd (twoTo_dvd_twoTo ?_) m) (Nat.one_dvd m)
    omega
  · have more : m.log2 + 1074 + 1 - 53 = m.log2 + 1 - 53 + 1074 := by omega
    rw [more, twoTo_add]
    exact Nat.mul_dvd_mul_iff_right (twoTo_pos 1074)

theorem twoTo_surplusBits_dvd_of_le {m : Nat} (few : m ≤ twoTo 53) : twoTo (surplusBits m) ∣ m := by
  rcases Nat.lt_or_eq_of_le few with short | rfl
  · have none_left : surplusBits m = 0 := by
      rcases Nat.eq_zero_or_pos m with rfl | m_pos
      · decide
      · have := (Nat.log2_lt (Nat.ne_of_gt m_pos)).mpr short
        rw [surplusBits]
        omega
    rw [none_left]
    exact Nat.one_dvd m
  · decide

section
variable {den n rest : Nat} (pos : 0 < den)
include pos

/-- A quotient that is a whole double is not rounded. -/
theorem roundUnits_whole {m : Nat} (m_pos : 0 < m) (double : twoTo (surplusBits m) ∣ m) :
    roundUnits (m * den * unitsPerOne) den = m * unitsPerOne := by
  rw [Nat.mul_right_comm]
  exact roundUnits_of_dvd pos ((twoTo_surplusBits_units_dvd_iff m_pos).mpr double)

theorem log2_units (n_pos : 0 < n) (short : rest < den) :
    ((n * den + rest) * unitsPerOne / den).log2 = n.log2 + 1074 := by
  refine log2_mul_twoTo n_pos ?_ ?_
  · rw [Nat.le_div_iff_mul_le pos, Nat.mul_right_comm]
    exact Nat.mul_le_mul_right _ (Nat.le_add_right _ _)
  · rw [Nat.div_lt_iff_lt_mul pos, Nat.mul_right_comm, Nat.add_one_mul]
    exact Nat.mul_lt_mul_of_pos_right (by omega) unitsPerOne_pos

/-- A quotient of at most one is not rounded to zero unless it is half the least double or less. -/
theorem roundUnits_pos_iff :
    0 < roundUnits (rest * unitsPerOne) den ↔ den < rest * twoTo 1075 := by
  have twice : 2 * (rest * unitsPerOne) = rest * twoTo 1075 := by
    rw [unitsPerOne, twoTo_succ 1074]
    ring
  rw [← Nat.zero_mul (twoTo (surplusBits (rest * unitsPerOne / den))),
    lt_roundUnits_scaled_iff pos rfl, Nat.mul_zero, Nat.zero_add, Nat.one_mul, twice]
  constructor
  · rintro (above | ⟨_, odd⟩)
    · exact Nat.lt_of_le_of_lt (Nat.le_mul_of_pos_right den (twoTo_pos _)) above
    · cases odd
  · intro visible
    left
    rcases Nat.eq_zero_or_pos (surplusBits (rest * unitsPerOne / den)) with exact_units | rounded
    · rw [exact_units]
      exact (Nat.mul_one den).trans_lt visible
    · -- the step is at most the quotient itself
      have some_units : rest * unitsPerOne / den ≠ 0 := by
        intro none_there
        rw [none_there] at rounded
        exact absurd rounded (by decide)
      have step : twoTo (surplusBits (rest * unitsPerOne / den)) ≤ rest * unitsPerOne / den := by
        refine Nat.le_trans (Nat.pow_le_pow_right (by decide) ?_) (Nat.log2_self_le some_units)
        rw [surplusBits]
        omega
      have below := Nat.le_trans (Nat.mul_le_mul_left den step) (Nat.mul_div_le _ den)
      have some_rest : 0 < rest * unitsPerOne := Nat.pos_of_ne_zero fun none_there =>
        some_units (by rw [none_there, Nat.zero_div])
      omega

variable (within : rest ≤ den)
include within

section
variable (few : n < twoTo 53)
include few

/-- A quotient below a whole number up to `2^53` is not rounded to anything above it. -/
theorem roundUnits_le_succ :
    roundUnits ((n * den + rest) * unitsPerOne) den ≤ (n + 1) * unitsPerOne := by
  rcases Nat.lt_or_eq_of_le within with short | rfl
  · have below : n * den + rest < twoTo 53 * den :=
      calc n * den + rest < (n + 1) * den := by
            rw [Nat.add_one_mul]
            omega
        _ ≤ twoTo 53 * den := Nat.mul_le_mul_right den few
    refine roundUnits_le pos ?_ ?_
    · exact Nat.dvd_mul_left_of_dvd (twoTo_dvd_twoTo (surplusBits_le pos below)) (n + 1)
    · rw [Nat.mul_right_comm, Nat.add_one_mul]
      exact Nat.mul_le_mul_right _ (Nat.add_le_add_left within _)
  · rw [← Nat.add_one_mul]
    exact Nat.le_of_eq (roundUnits_whole pos (Nat.succ_pos n) (twoTo_surplusBits_dvd_of_le few))

theorem ceil_quotient_few_iff :
    (quotient? (n * den + rest) den).bind ceil? = some ((n + 1 : Nat) : Int) ↔
      n * unitsPerOne < roundUnits ((n * den + rest) * unitsPerOne) den := by
  have upper := roundUnits_le_succ pos within few
  have room : twoTo 53 * unitsPerOne < overflowUnits := by decide +kernel
  have fits : roundUnits ((n * den + rest) * unitsPerOne) den < overflowUnits :=
    Nat.lt_of_le_of_lt upper (Nat.lt_of_le_of_lt (Nat.mul_le_mul_right _ few) room)
  rw [ceil_quotient_eq_iff]
  exact ⟨fun kept => kept.2.1, fun above => ⟨fits, above, upper⟩⟩

/-- A quotient above a whole number from one on stays above it unless it is nearer to it than to the
next double, or as near and the number is even. -/
theorem lt_roundUnits_few_iff (n_pos : 0 < n) :
    n * unitsPerOne < roundUnits ((n * den + rest) * unitsPerOne) den ↔
      twoTo n.log2 * den < rest * twoTo 53 ∨
        (twoTo n.log2 * den = rest * twoTo 53 ∧ n.log2 = 52 ∧ n % 2 = 1) := by
  have digits : n.log2 < 53 := (Nat.log2_lt (Nat.ne_of_gt n_pos)).mpr few
  rcases Nat.lt_or_eq_of_le within with short | rfl
  · obtain ⟨u, places⟩ : ∃ u, 52 = n.log2 + u := Nat.exists_eq_add_of_le (by omega)
    have shift : surplusBits ((n * den + rest) * unitsPerOne / den) = 1022 + n.log2 := by
      rw [surplusBits, log2_units pos n_pos short]
      omega
    have unit : unitsPerOne = twoTo 1022 * twoTo n.log2 * twoTo u := by
      rw [unitsPerOne, ← twoTo_add, ← twoTo_add, Nat.add_assoc, ← places]
    have mantissa : twoTo 53 = twoTo n.log2 * twoTo u * 2 := by
      rw [← twoTo_add, ← places, ← twoTo_succ]
    have same : n * unitsPerOne = n * twoTo u * twoTo (1022 + n.log2) := by
      rw [unit, twoTo_add]
      ring
    have middle : (2 * (n * twoTo u) + 1) * (den * twoTo (1022 + n.log2)) =
        2 * (n * den * unitsPerOne) + twoTo 1022 * (twoTo n.log2 * den) := by
      rw [unit, twoTo_add]
      ring
    have twice : 2 * ((n * den + rest) * unitsPerOne) =
        2 * (n * den * unitsPerOne) + twoTo 1022 * (rest * twoTo 53) := by
      rw [mantissa, unit]
      ring
    have odd : n * twoTo u % 2 = 1 ↔ n.log2 = 52 ∧ n % 2 = 1 := by
      cases u with
      | zero =>
        have full : n.log2 = 52 := places.symm
        simp [twoTo, full]
      | succ u =>
        have other : n.log2 ≠ 52 := by omega
        simp [twoTo_succ, ← Nat.mul_assoc, other]
    rw [same, lt_roundUnits_scaled_iff pos shift, middle, twice, odd,
      Nat.add_lt_add_iff_left, Nat.add_left_cancel_iff,
      Nat.mul_lt_mul_left (twoTo_pos 1022), Nat.mul_right_inj (Nat.ne_of_gt (twoTo_pos 1022))]
  · have clear : twoTo n.log2 * rest < rest * twoTo 53 := by
      rw [Nat.mul_comm]
      exact Nat.mul_lt_mul_of_pos_left (Nat.pow_lt_pow_right (by decide) digits) pos
    rw [← Nat.add_one_mul,
      roundUnits_whole pos (Nat.succ_pos n) (twoTo_surplusBits_dvd_of_le few)]
    exact iff_of_true (Nat.mul_lt_mul_of_pos_right (Nat.lt_succ_self n) unitsPerOne_pos)
      (.inl clear)

end

omit within in
/-- A quotient above a whole number reaches the next one where no double is between them. -/
theorem units_le_roundUnits {b m : Nat} (some_rest : 0 < rest)
    (shift : surplusBits ((n * den + rest) * unitsPerOne / den) = b + 1074) (b_pos : 1 ≤ b)
    (whole : n + 1 = twoTo b * m) :
    (n + 1) * unitsPerOne ≤ roundUnits ((n * den + rest) * unitsPerOne) den := by
  have units : (n + 1) * unitsPerOne = m * twoTo (b + 1074) := by
    rw [whole, twoTo_add, unitsPerOne]
    ring
  obtain ⟨k, rfl⟩ : ∃ k, m = k + 1 := Nat.exists_eq_add_one.mpr
    (Nat.pos_of_ne_zero fun none => by rw [none, Nat.mul_zero] at whole; omega)
  rw [units, roundUnits, shift]
  refine Nat.mul_le_mul_right _ ((lt_divHalfEven_iff (Nat.mul_pos pos (twoTo_pos _))).mpr
    (.inl ?_))
  have step : 2 * (den * unitsPerOne) ≤ den * twoTo (b + 1074) := by
    have double_unit : 2 * unitsPerOne ≤ twoTo (b + 1074) := by
      rw [Nat.mul_comm, unitsPerOne, ← twoTo_succ]
      exact twoTo_le_twoTo (by omega)
    rw [Nat.mul_left_comm]
    exact Nat.mul_le_mul_left den double_unit
  have width : k * (den * twoTo (b + 1074)) + den * twoTo (b + 1074) =
      n * den * unitsPerOne + den * unitsPerOne := by
    calc k * (den * twoTo (b + 1074)) + den * twoTo (b + 1074)
        = den * ((k + 1) * twoTo (b + 1074)) := by ring
      _ = den * ((n + 1) * unitsPerOne) := by rw [units]
      _ = n * den * unitsPerOne + den * unitsPerOne := by ring
  have some_units := Nat.mul_pos some_rest unitsPerOne_pos
  have parts : (n * den + rest) * unitsPerOne = n * den * unitsPerOne + rest * unitsPerOne :=
    Nat.add_mul _ _ _
  have middle : (2 * k + 1) * (den * twoTo (b + 1074)) =
      2 * (k * (den * twoTo (b + 1074))) + den * twoTo (b + 1074) := by ring
  omega

section
variable (many : twoTo 53 ≤ n)
include many

/-- From `2^53` on every double is whole, and the step is the one at the number above. -/
theorem exists_surplus_many :
    ∃ b, surplusBits ((n * den + rest) * unitsPerOne / den) = b + 1074 ∧ 1 ≤ b ∧
      (twoTo b ∣ n + 1 ↔ twoTo (surplusBits (n + 1)) ∣ n + 1) := by
  have n_pos : 0 < n := Nat.lt_of_lt_of_le (twoTo_pos 53) many
  rcases Nat.lt_or_eq_of_le within with short | rfl
  · have digits := (twoTo_le_iff_le_log2 (Nat.ne_of_gt n_pos)).mp many
    refine ⟨surplusBits n, ?_, ?_, twoTo_surplusBits_dvd_succ_iff n_pos⟩
    · rw [surplusBits, surplusBits, log2_units pos n_pos short]
      omega
    · rw [surplusBits]
      omega
  · have digits : 53 ≤ (n + 1).log2 :=
      (twoTo_le_iff_le_log2 (Nat.succ_ne_zero n)).mp (Nat.le_succ_of_le many)
    have units : ((n + 1) * unitsPerOne).log2 = (n + 1).log2 + 1074 :=
      log2_mul_twoTo n.succ_pos (Nat.le_refl _)
        (Nat.mul_lt_mul_of_pos_right (Nat.lt_succ_self _) unitsPerOne_pos)
    refine ⟨surplusBits (n + 1), ?_, ?_, Iff.rfl⟩
    · rw [← Nat.add_one_mul, Nat.mul_right_comm, Nat.mul_div_cancel _ pos, surplusBits,
        surplusBits, units]
      omega
    · rw [surplusBits]
      omega

/-- From `2^53` on only a quotient below a double keeps its ceiling. -/
theorem ceil_quotient_many_iff (some_rest : 0 < rest) :
    (quotient? (n * den + rest) den).bind ceil? = some ((n + 1 : Nat) : Int) ↔
      IsWholeDouble (n + 1) := by
  obtain ⟨b, shift, b_pos, double⟩ := exists_surplus_many pos within many
  have limit : overflowUnits = twoTo 1024 * unitsPerOne := by decide +kernel
  rw [ceil_quotient_eq_iff, IsWholeDouble, ← double]
  constructor
  · rintro ⟨fits, above, below⟩
    rw [roundUnits, shift, twoTo_add, ← Nat.mul_assoc] at above below
    have past := Nat.lt_of_mul_lt_mul_right above
    have short := Nat.le_of_mul_le_mul_right below unitsPerOne_pos
    have same := Nat.le_antisymm past short
    refine ⟨Dvd.intro_left _ same.symm, ?_⟩
    rw [roundUnits, shift, twoTo_add, ← Nat.mul_assoc, ← same, limit, unitsPerOne] at fits
    exact Nat.lt_of_mul_lt_mul_right fits
  · rintro ⟨⟨m, whole⟩, fits⟩
    have units : (n + 1) * unitsPerOne = m * twoTo (b + 1074) := by
      rw [whole, twoTo_add, unitsPerOne]
      ring
    have upper : roundUnits ((n * den + rest) * unitsPerOne) den ≤ (n + 1) * unitsPerOne := by
      refine roundUnits_le pos (shift ▸ Dvd.intro_left m units.symm) ?_
      rw [Nat.mul_right_comm, Nat.add_one_mul]
      exact Nat.mul_le_mul_right _ (Nat.add_le_add_left within _)
    have lower : (n + 1) * unitsPerOne ≤ roundUnits ((n * den + rest) * unitsPerOne) den :=
      units_le_roundUnits pos some_rest shift b_pos whole
    refine ⟨?_, ?_, upper⟩
    · rw [limit]
      exact Nat.lt_of_le_of_lt upper (Nat.mul_lt_mul_of_pos_right fits unitsPerOne_pos)
    · exact Nat.lt_of_lt_of_le
        (Nat.mul_lt_mul_of_pos_right (Nat.lt_succ_self n) unitsPerOne_pos) lower

end

omit within in
/-- A dividend that is not zero is a multiple of the divisor and a rest that is not zero. -/
theorem exists_rest {num : Nat} (some_num : 0 < num) :
    ∃ n rest, num = n * den + rest ∧ 0 < rest ∧ rest ≤ den := by
  have split := Nat.div_add_mod' (num - 1) den
  have short := Nat.mod_lt (num - 1) pos
  exact ⟨(num - 1) / den, (num - 1) % den + 1, by omega, Nat.succ_pos _, short⟩

theorem ceilDiv_of_rest (some_rest : 0 < rest) : ceilDiv (n * den + rest) den = n + 1 := by
  rw [ceilDiv_eq_succ_iff pos, Nat.add_one_mul]
  omega

end

theorem ceil_quotient_of_zero {den num : Nat}
    (none_left : roundUnits (num * unitsPerOne) den = 0) :
    (quotient? num den).bind ceil? = some 0 := by
  have positive : 0 < overflowUnits := twoTo_pos _
  have ceiling : ceilDiv 0 unitsPerOne = 0 := by decide +kernel
  rw [quotient?, ofRatio, none_left, if_pos positive]
  exact congrArg (fun n : Nat => some (n : Int)) ceiling

theorem keepsCeiling_of_ceil_quotient {den num : Nat} (pos : 0 < den)
    (kept : (quotient? num den).bind ceil? = some (ceilDiv num den : Int)) :
    KeepsCeiling den num := by
  rcases Nat.eq_zero_or_pos num with rfl | some_num
  · exact .zero
  · obtain ⟨n, rest, rfl, some_rest, within⟩ := exists_rest pos some_num
    rw [ceilDiv_of_rest pos within some_rest] at kept
    rcases Nat.lt_or_ge n (twoTo 53) with few | many
    · have above := (ceil_quotient_few_iff pos within few).mp kept
      rcases Nat.eq_zero_or_pos n with rfl | n_pos
      · rw [Nat.zero_mul, Nat.zero_mul, Nat.zero_add] at above
        rw [Nat.zero_mul, Nat.zero_add]
        exact .tiny some_rest within ((roundUnits_pos_iff pos).mp above)
      · rcases (lt_roundUnits_few_iff pos within few n_pos).mp above with
          clear | ⟨half, large, odd⟩
        · exact .clear n_pos few within clear
        · rw [large, twoTo_succ 52, Nat.mul_comm, ← Nat.mul_assoc, Nat.mul_right_comm,
            Nat.mul_left_inj (Nat.ne_of_gt (twoTo_pos 52))] at half
          refine .middle ?_ few odd (by omega)
          exact large ▸ Nat.log2_self_le (Nat.ne_of_gt n_pos)
    · exact .whole many some_rest within
        ((ceil_quotient_many_iff pos within many some_rest).mp kept)

theorem KeepsCeiling.ceil_quotient {den num : Nat} (pos : 0 < den) (keeps : KeepsCeiling den num) :
    (quotient? num den).bind ceil? = some (ceilDiv num den : Int) := by
  cases keeps with
  | zero =>
    have none_left : ceilDiv 0 den = 0 := Nat.div_eq_of_lt (by omega)
    rw [none_left]
    exact ceil_quotient_of_zero
      (Nat.le_zero.mp (roundUnits_le pos (Nat.dvd_zero _) (by simp)))
  | tiny some_rest within visible =>
    have above := (ceil_quotient_few_iff (n := 0) pos within (twoTo_pos 53)).mpr
    have count := ceilDiv_of_rest (n := 0) pos within some_rest
    rw [Nat.zero_mul, Nat.zero_mul, Nat.zero_add] at above
    rw [Nat.zero_mul, Nat.zero_add] at count
    rw [count]
    exact above ((roundUnits_pos_iff pos).mpr visible)
  | @clear n rest n_pos few within above =>
    have some_rest : 0 < rest := Nat.pos_of_ne_zero fun none => by
      rw [none, Nat.zero_mul] at above
      exact Nat.not_lt_zero _ above
    rw [ceilDiv_of_rest pos within some_rest, ceil_quotient_few_iff pos within few,
      lt_roundUnits_few_iff pos within few n_pos]
    exact .inl above
  | @middle n rest large few odd half =>
    have n_pos : 0 < n := Nat.lt_of_lt_of_le (twoTo_pos 52) large
    have at_least := (twoTo_le_iff_le_log2 (Nat.ne_of_gt n_pos)).mp large
    have at_most := (Nat.log2_lt (Nat.ne_of_gt n_pos)).mpr few
    have digits : n.log2 = 52 := by omega
    have within : rest ≤ den := by omega
    rw [ceilDiv_of_rest pos within (by omega), ceil_quotient_few_iff pos within few,
      lt_roundUnits_few_iff pos within few n_pos, digits, ← half, twoTo_succ 52]
    exact .inr ⟨by ring, rfl, odd⟩
  | whole many some_rest within double =>
    rw [ceilDiv_of_rest pos within some_rest]
    exact (ceil_quotient_many_iff pos within many some_rest).mpr double

/-- A quotient is rounded up as if it were exact, for these dividends and no others. -/
theorem ceil_quotient_iff_keepsCeiling {den num : Nat} (pos : 0 < den) :
    (quotient? num den).bind ceil? = some (ceilDiv num den : Int) ↔ KeepsCeiling den num :=
  ⟨keepsCeiling_of_ceil_quotient pos, KeepsCeiling.ceil_quotient pos⟩

/-- Up to `2^53` every dividend keeps its ceiling, unless the quotient is so small that it is
rounded to zero. -/
theorem keepsCeiling_of_le_twoTo {den num : Nat} (pos : 0 < den) (bound : num ≤ twoTo 53)
    (visible : den < num * twoTo 1075) : KeepsCeiling den num := by
  have some_num : 0 < num := Nat.pos_of_ne_zero fun none_left => by
    rw [none_left, Nat.zero_mul] at visible
    exact Nat.not_lt_zero _ visible
  obtain ⟨n, rest, rfl, some_rest, within⟩ := exists_rest pos some_num
  rcases Nat.eq_zero_or_pos n with rfl | n_pos
  · rw [Nat.zero_mul, Nat.zero_add] at visible ⊢
    exact .tiny some_rest within visible
  · have reach : n ≤ n * den := Nat.le_mul_of_pos_right n pos
    refine .clear n_pos (by omega) within ?_
    calc twoTo n.log2 * den ≤ n * den :=
          Nat.mul_le_mul_right den (Nat.log2_self_le (Nat.ne_of_gt n_pos))
      _ < twoTo 53 := by omega
      _ ≤ rest * twoTo 53 := Nat.le_mul_of_pos_left _ some_rest

/-- A quotient of a number up to `2^53` rounds up, as a double, to a number above the same whole
numbers from one on as the quotient itself. -/
theorem exists_ceil_quotient {num den : Nat} (pos : 0 < den) (bound : num ≤ twoTo 53) :
    ∃ c : Nat, (quotient? num den).bind ceil? = some (c : Int) ∧
      ∀ n, 1 ≤ n → (n < c ↔ n * den < num) := by
  by_cases visible : den < num * twoTo 1075
  · exact ⟨ceilDiv num den, (ceil_quotient_iff_keepsCeiling pos).mpr
      (keepsCeiling_of_le_twoTo pos bound visible), fun n _ => lt_ceilDiv_iff pos⟩
  · have none_left : roundUnits (num * unitsPerOne) den = 0 :=
      Nat.eq_zero_of_not_pos (mt (roundUnits_pos_iff pos).mp visible)
    have small : num ≤ den :=
      Nat.le_trans (Nat.le_mul_of_pos_right num (twoTo_pos 1075)) (Nat.not_lt.mp visible)
    refine ⟨0, ceil_quotient_of_zero none_left, fun n n_pos => ?_⟩
    have reach := Nat.le_mul_of_pos_left den n_pos
    omega

example : (quotient? (twoTo 53) 3).bind ceil? = some 3002399751580331 := by decide +kernel

/-- The least quotient that is too large for a double, half a step above the greatest one. -/
def overflowRatio : Nat := twoTo 1024 - twoTo 970

section
variable {den num : Nat} (pos : 0 < den)
include pos

/-- A count with more than 53 binary digits is not rounded below its first digit. -/
theorem twoTo_log2_le_roundUnits (many : 53 ≤ (num / den).log2) :
    twoTo (num / den).log2 ≤ roundUnits num den := by
  obtain ⟨s, digits⟩ : ∃ s, (num / den).log2 = 52 + s := Nat.exists_eq_add_of_le (by omega)
  have shift : surplusBits (num / den) = s := by
    rw [surplusBits]
    omega
  have some_units : num / den ≠ 0 := by
    intro none
    rw [none] at many
    exact absurd many (by decide)
  have low : twoTo 52 * twoTo s ≤ num / den := by
    rw [← twoTo_add, ← digits]
    exact Nat.log2_self_le some_units
  have first : twoTo 52 - 1 < divHalfEven num (den * twoTo s) := by
    refine (lt_divHalfEven_iff (Nat.mul_pos pos (twoTo_pos s))).mpr (.inl ?_)
    have odd : 2 * (twoTo 52 - 1) + 1 < 2 * twoTo 52 := by decide
    calc (2 * (twoTo 52 - 1) + 1) * (den * twoTo s)
        < 2 * twoTo 52 * (den * twoTo s) :=
          Nat.mul_lt_mul_of_pos_right odd (Nat.mul_pos pos (twoTo_pos s))
      _ = 2 * (twoTo 52 * twoTo s * den) := by ring
      _ ≤ 2 * (num / den * den) := Nat.mul_le_mul_left 2 (Nat.mul_le_mul_right den low)
      _ ≤ 2 * num := Nat.mul_le_mul_left 2 (Nat.div_mul_le_self num den)
  rw [digits, twoTo_add, roundUnits, shift]
  exact Nat.mul_le_mul_right _ (Nat.le_of_pred_lt first)

theorem roundUnits_lt_overflow_iff :
    roundUnits (num * unitsPerOne) den < overflowUnits ↔ num < overflowRatio * den := by
  have bound : overflowRatio * unitsPerOne = (2 * (twoTo 53 - 1) + 1) * twoTo 2044 := by
    decide +kernel
  have scaled : num < overflowRatio * den ↔
      num * unitsPerOne < (2 * (twoTo 53 - 1) + 1) * twoTo 2044 * den := by
    rw [← bound, Nat.mul_right_comm, Nat.mul_lt_mul_right unitsPerOne_pos]
  rw [scaled]
  rcases Nat.lt_or_ge (num * unitsPerOne / den) (twoTo 2097) with small | large
  · have below := (Nat.div_lt_iff_lt_mul pos).mp small
    have digits : surplusBits (num * unitsPerOne / den) ≤ 2097 := by
      rw [surplusBits]
      by_cases none_left : num * unitsPerOne / den = 0
      · rw [none_left]
        decide
      · have := mt (twoTo_le_iff_le_log2 none_left).mpr (Nat.not_le.mpr small)
        omega
    have upper := roundUnits_le pos (twoTo_dvd_twoTo digits) (Nat.le_of_lt below)
    have room : twoTo 2097 < overflowUnits := by decide +kernel
    have inside : twoTo 2097 ≤ (2 * (twoTo 53 - 1) + 1) * twoTo 2044 := by decide +kernel
    exact iff_of_true (Nat.lt_of_le_of_lt upper room)
      (Nat.lt_of_lt_of_le below (Nat.mul_le_mul_right den inside))
  have some_units := Nat.ne_of_gt (Nat.lt_of_lt_of_le (twoTo_pos 2097) large)
  rcases Nat.lt_or_ge (num * unitsPerOne / den) overflowUnits with last | beyond
  · -- in the last scale the middle above the greatest double is rounded up, since it is odd
    have at_least := (twoTo_le_iff_le_log2 some_units).mp large
    have at_most := mt (twoTo_le_iff_le_log2 some_units).mpr (Nat.not_le.mpr last)
    have shift : surplusBits (num * unitsPerOne / den) = 2045 := by
      rw [surplusBits]
      omega
    have top : overflowUnits = twoTo 53 * twoTo 2045 := by decide +kernel
    have middle : (2 * (twoTo 53 - 1) + 1) * (den * twoTo 2045) =
        2 * ((2 * (twoTo 53 - 1) + 1) * twoTo 2044 * den) := by
      rw [twoTo_succ 2044]
      ring
    have odd : (twoTo 53 - 1) % 2 = 1 := by decide
    have next : divHalfEven (num * unitsPerOne) (den * twoTo 2045) < twoTo 53 ↔
        ¬twoTo 53 - 1 < divHalfEven (num * unitsPerOne) (den * twoTo 2045) := by
      have := twoTo_pos 53
      omega
    rw [roundUnits, shift, top, Nat.mul_lt_mul_right (twoTo_pos _), next,
      lt_divHalfEven_iff (Nat.mul_pos pos (twoTo_pos 2045)), middle]
    omega
  · have low : 2098 ≤ (num * unitsPerOne / den).log2 :=
      (twoTo_le_iff_le_log2 some_units).mp beyond
    have upper := Nat.le_trans (twoTo_le_twoTo low)
      (twoTo_log2_le_roundUnits pos (Nat.le_trans (by decide) low))
    have outside : (2 * (twoTo 53 - 1) + 1) * twoTo 2044 ≤ overflowUnits := by decide +kernel
    have above := (Nat.le_div_iff_mul_le pos).mp beyond
    exact iff_of_false (Nat.not_lt.mpr upper)
      (Nat.not_lt.mpr (Nat.le_trans (Nat.mul_le_mul_right den outside) above))

end

end Binary64

end ListQuery.Number
