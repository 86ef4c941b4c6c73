import ListQuery.Number.Whole
import ListQuery.Proofs.Text.Words
/-!
Whole numbers as text. A number that was read is short enough to be written, and what is written for
a number that is short enough is read as this number.
-/
namespace ListQuery.Number

open ListQuery.Text

theorem foldl_digits_lt {digits : List Nat} (h : ∀ d ∈ digits, d < 10) (start : Nat) :
    digits.foldl (fun n d => 10 * n + d) start < (start + 1) * tenTo digits.length := by
  induction digits generalizing start with
  | nil =>
    change start < (start + 1) * 1
    omega
  | cons d rest ih =>
    rw [List.forall_mem_cons] at h
    have later := ih h.2 (10 * start + d)
    have room : 10 * start + d + 1 ≤ (start + 1) * 10 := by omega
    rw [List.foldl_cons, List.length_cons, tenTo_succ, Nat.mul_comm _ 10, ← Nat.mul_assoc]
    exact Nat.lt_of_lt_of_le later (Nat.mul_le_mul_right _ room)

theorem natOfDigits_lt {digits : List Nat} (h : ∀ d ∈ digits, d < 10) :
    natOfDigits digits < tenTo digits.length := by
  have bound := foldl_digits_lt h 0
  rwa [Nat.zero_add, Nat.one_mul] at bound

theorem digitValue?_lt {c : Char} {d : Nat} (h : digitValue? c = some d) : d < 10 := by
  obtain ⟨first, found, rfl⟩ := Option.map_eq_some_iff.mp h
  have bounds := List.find?_some found
  simp only [Bool.and_eq_true, decide_eq_true_eq] at bounds
  omega

theorem readDigits_lt (s : List Char) : ∀ d ∈ (readDigits s).1, d < 10 := by
  induction s with
  | nil => exact fun d member => absurd member List.not_mem_nil
  | cons c rest ih =>
    rw [readDigits]
    cases value : digitValue? c with
    | none => exact fun d member => absurd member List.not_mem_nil
    | some d => exact List.forall_mem_cons.mpr ⟨digitValue?_lt value, ih⟩

theorem tenTo_le_tenTo {m n : Nat} (h : m ≤ n) : tenTo m ≤ tenTo n :=
  Nat.pow_le_pow_right (by decide) h

theorem length_toDigits_le_iff {n k : Nat} (pos : 0 < k) :
    (Nat.toDigits 10 n).length ≤ k ↔ n < tenTo k := Nat.length_toDigits_le_iff (by decide) pos

/-- A whole number that was read has no more digits than may be written. -/
theorem natAbs_value_lt {s : List Char} {w : WholeNumeral} {n : Int}
    (read : WholeNumeral.read? s = some w) (value : w.value? = .ok n) :
    n.natAbs < tenTo maxWholeDigits := by
  have small : ∀ d ∈ w.digits, d < 10 := by
    unfold WholeNumeral.read? at read
    have digits := readDigits_lt (readSign s).2
    split at read
    next negative body sign =>
    rw [sign] at digits
    split at read
    · cases read
    · next found =>
      cases read
      rw [found] at digits
      exact digits
    · cases read
  rw [WholeNumeral.value?] at value
  split at value
  · cases value
  · next short =>
    cases value
    have bound := Nat.lt_of_lt_of_le (natOfDigits_lt small)
      (tenTo_le_tenTo (Nat.not_lt.mp short))
    rw [WholeNumeral.value]
    split
    · rwa [Int.natAbs_neg, Int.natAbs_natCast]
    · rwa [Int.natAbs_natCast]

theorem writeWhole_of_lt {n : Int} (h : n.natAbs < tenTo maxWholeDigits) :
    writeWhole n = .ok (wholeText n) := by
  have short := (length_toDigits_le_iff (by decide)).mpr h
  rw [writeWhole, if_neg (Nat.not_lt.mpr short)]

theorem digitValue?_of_isDigit {c : Char} (digit : c.isDigit = true) :
    digitValue? c = some (c.toNat - '0'.toNat) := by
  obtain ⟨low, high⟩ := toNat_of_isDigit digit
  have below : c.toNat < 0x30 + 10 := by omega
  rw [digitValue?, digitZeros, List.find?_cons_of_pos]
  · rfl
  · simp [low, below]

theorem readDigits_of_digits {s : List Char} (digits : ∀ c ∈ s, c.isDigit = true) :
    readDigits s = (s.map fun c => c.toNat - '0'.toNat, []) := by
  induction s with
  | nil => rfl
  | cons c rest ih =>
    rw [List.forall_mem_cons] at digits
    rw [readDigits, digitValue?_of_isDigit digits.1, ih digits.2, List.map_cons]

theorem readSign_of_digits {s : List Char} (digits : ∀ c ∈ s, c.isDigit = true) :
    readSign s = (false, s) := by
  unfold readSign
  split
  · exact absurd (digits '-' List.mem_cons_self) (by decide)
  · exact absurd (digits '+' List.mem_cons_self) (by decide)
  · rfl

namespace WholeNumeral

theorem read?_of_digits {s body : List Char} {negative : Bool}
    (sign : readSign s = (negative, body)) (some_digit : body ≠ [])
    (digits : ∀ c ∈ body, c.isDigit = true) :
    read? s = some ⟨negative, body.map fun c => c.toNat - '0'.toNat⟩ := by
  cases body with
  | nil => exact absurd rfl some_digit
  | cons c rest => simp only [read?, sign, readDigits_of_digits digits, List.map_cons]

theorem read?_bracket (rest : List Char) : read? ('[' :: rest) = none := by
  have no_digit : digitValue? '[' = none := by decide
  simp [read?, readSign, readDigits, no_digit]

theorem exists_value?_iff {w : WholeNumeral} :
    (∃ n, w.value? = .ok n) ↔ ¬maxWholeDigits < w.digits.length := by
  rw [value?]
  split
  · next long => exact ⟨nofun, fun short => absurd long short⟩
  · next short => exact ⟨fun _ => short, fun _ => ⟨_, rfl⟩⟩

theorem value_of_value? {w : WholeNumeral} {n : Int} (value : w.value? = .ok n) : n = w.value := by
  rw [value?] at value
  split at value
  · cases value
  · exact (Except.ok.inj value).symm

end WholeNumeral

section
variable {n : Int}

theorem isDigit_of_mem_toDigits {c : Char} (member : c ∈ Nat.toDigits 10 n.natAbs) :
    c.isDigit = true := Nat.isDigit_of_mem_toDigits (by decide) (by decide) member

theorem isBlank_of_mem_wholeChars {c : Char} (member : c ∈ wholeChars n) : isBlank c = false := by
  rcases List.mem_append.mp member with sign | digit
  · have minus : c = '-' := by
      split at sign
      · exact List.mem_singleton.mp sign
      · cases sign
    rw [minus]
    decide
  · have bounds := toNat_of_isDigit (isDigit_of_mem_toDigits digit)
    exact isBlank_of_toNat (by omega) (by omega)

theorem readSign_wholeChars :
    readSign (wholeChars n) = (decide (n < 0), Nat.toDigits 10 n.natAbs) := by
  by_cases negative : n < 0
  · rw [wholeChars, if_pos negative, decide_eq_true negative]
    rfl
  · rw [wholeChars, if_neg negative, decide_eq_false negative]
    exact readSign_of_digits fun c member => isDigit_of_mem_toDigits member

theorem natOfDigits_toDigits (k : Nat) :
    natOfDigits ((Nat.toDigits 10 k).map fun c => c.toNat - '0'.toNat) = k := by
  rw [natOfDigits, List.foldl_map, ← Nat.ofDigitChars_eq_foldl, Nat.ofDigitChars_ten_toDigits]

/-- What is written for a whole number is read with this value, digit by digit. -/
theorem read?_wholeChars (n : Int) : ∃ w, WholeNumeral.read? (wholeChars n) = some w ∧
    w.value = n ∧ w.digits.length = (Nat.toDigits 10 n.natAbs).length := by
  refine ⟨_, WholeNumeral.read?_of_digits readSign_wholeChars Nat.toDigits_ne_nil
    fun c member => isDigit_of_mem_toDigits member, ?_, List.length_map _⟩
  rw [WholeNumeral.value, natOfDigits_toDigits]
  by_cases negative : n < 0
  · rw [if_pos (decide_eq_true negative), Int.ofNat_natAbs_of_nonpos (Int.le_of_lt negative),
      Int.neg_neg]
  · rw [if_neg (by simpa using negative), Int.natAbs_of_nonneg (Int.not_lt.mp negative)]

/-- What is written for a whole number that is not too long is read as this number. -/
theorem exists_read?_wholeChars (short : n.natAbs < tenTo maxWholeDigits) :
    ∃ w, WholeNumeral.read? (wholeChars n) = some w ∧ w.value? = .ok n := by
  have fits := (length_toDigits_le_iff (by decide)).mpr short
  obtain ⟨w, read, value, digits⟩ := read?_wholeChars n
  refine ⟨w, read, ?_⟩
  rw [WholeNumeral.value?, digits, if_neg (Nat.not_lt.mpr fits), value]

end

end ListQuery.Number
