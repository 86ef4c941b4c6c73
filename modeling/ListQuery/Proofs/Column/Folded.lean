import ListQuery.Proofs.Column.Resolve
import ListQuery.Text.Case
/-!
Names without regard to case. A database folds the capitals of an unquoted name to small letters; a
safe name has no other characters with case, so that this is its lower case. Folding keeps every dot
where it is, and with it the segments of a reference.
-/
namespace ListQuery.Column

open Text

/-- An unquoted name as a database reads it. -/
def folded (name : String) : String := String.ofList (name.toList.map Char.toLower)

/-- No capital of ASCII has a lower case of several characters. -/
theorem find?_lowerExpansions {code : Nat} (ascii : code < 128) :
    lowerExpansions.find? (·.1 == code) = none := by
  have behind : ∀ e ∈ lowerExpansions, 128 ≤ e.1 := by decide
  rw [List.find?_eq_none]
  intro e member
  have bound := behind e member
  simp only [beq_iff_eq]
  omega

/-- Of the runs of capitals the first one is that of ASCII, and all others lie behind ASCII. -/
theorem find?_lowerRuns {code : Nat} (ascii : code < 128) : lowerRuns.find? (·.covers code) =
    if 0x41 ≤ code ∧ code ≤ 0x5A then some ⟨0x41, 0x5A, 1, 32⟩ else none := by
  have runs : lowerRuns = ⟨0x41, 0x5A, 1, 32⟩ :: lowerRuns.tail := rfl
  have behind : ∀ r ∈ lowerRuns.tail, 128 ≤ r.first := by decide +kernel
  have others : lowerRuns.tail.find? (·.covers code) = none := by
    rw [List.find?_eq_none]
    intro r member
    have bound := behind r member
    simp only [CaseRun.covers, Bool.and_eq_true, decide_eq_true_eq]
    omega
  rw [runs, List.find?_cons, others]
  by_cases capital : 0x41 ≤ code ∧ code ≤ 0x5A
  · simp [CaseRun.covers, capital, Nat.mod_one]
  · have passed : CaseRun.covers ⟨0x41, 0x5A, 1, 32⟩ code = false := by
      simp only [CaseRun.covers, Bool.and_eq_false_iff, decide_eq_false_iff_not]
      omega
    rw [passed, if_neg capital]

/-- On ASCII the full case table has the small letters of ASCII. -/
theorem lowerChar_of_toNat_lt {c : Char} (ascii : c.toNat < 128) : lowerChar c = [c.toLower] := by
  have shifts : ∀ n < 128, (Char.ofNat n).toLower =
      if 0x41 ≤ n ∧ n ≤ 0x5A then Char.ofNat (n + 32) else Char.ofNat n := by decide +kernel
  have shifted := shifts c.toNat ascii
  rw [Char.ofNat_toNat] at shifted
  rw [lowerChar, mapCase, find?_lowerExpansions ascii, find?_lowerRuns ascii, shifted]
  by_cases capital : 0x41 ≤ c.toNat ∧ c.toNat ≤ 0x5A
  · rw [if_pos capital, if_pos capital]
    rfl
  · rw [if_neg capital, if_neg capital]

theorem lowerAfter_of_toNat_lt {s : List Char} (ascii : ∀ c ∈ s, c.toNat < 128) (cased : Bool) :
    lowerAfter cased s = s.map Char.toLower := by
  induction s generalizing cased with
  | nil => rfl
  | cons c rest ih =>
    rw [List.forall_mem_cons] at ascii
    have no_sigma : c ≠ 'Σ' := by
      rintro rfl
      exact absurd ascii.1 (by decide)
    rw [lowerAfter, if_neg no_sigma, lowerChar_of_toNat_lt ascii.1, ih ascii.2]
    rfl

theorem IsSafe.lower_eq {name : String} (safe : IsSafe name) : lower name = folded name := by
  rw [lower, lowerChars, folded, lowerAfter_of_toNat_lt]
  intro c member
  have bounds := toNat_of_isNameChar (safe.isNameChar member)
  omega

theorem toLower_eq_self_iff {c : Char} : c.toLower = c ↔ c.isUpper = false := by
  unfold Char.toLower
  split
  · next capital =>
    have upper : c.isUpper = true := decide_eq_true capital
    have bounds := toNat_of_isUpper upper
    rw [upper]
    refine iff_of_false (fun same => ?_) nofun
    have code : (c.toNat + 32) % 4294967296 = c.toNat := congrArg Char.toNat same
    omega
  · next other => exact iff_of_true rfl (decide_eq_false other)

/-- Folding changes nothing but capitals. -/
theorem folded_eq_self_iff {name : String} :
    folded name = name ↔ ∀ c ∈ name.toList, c.isUpper = false := by
  have kept : name.toList.map Char.toLower = name.toList.map id ↔
      ∀ c ∈ name.toList, c.toLower = c := List.map_inj_left
  simp only [← toLower_eq_self_iff]
  rw [← kept, List.map_id, folded, ← String.toList_inj, String.toList_ofList]

/-- A dot is no capital, and no capital becomes a dot. -/
theorem toLower_eq_dot_iff {c : Char} : c.toLower = '.' ↔ c = '.' := by
  unfold Char.toLower
  split
  · next capital =>
    have bounds : 65 ≤ c.val.toNat ∧ c.val.toNat ≤ 90 := capital
    constructor
    · intro dot
      have code : (c.val.toNat + 32) % 4294967296 = 46 := congrArg Char.toNat dot
      omega
    · rintro rfl
      exact absurd bounds.1 (by decide)
  · rfl

theorem splitOn_map_toLower (s : List Char) :
    (s.map Char.toLower).splitOn '.' = (s.splitOn '.').map (List.map Char.toLower) := by
  induction s with
  | nil => rfl
  | cons c rest ih =>
    obtain ⟨first, more, parts⟩ := List.exists_cons_of_ne_nil (List.splitOn_ne_nil '.' rest)
    rw [List.map_cons, List.splitOn_cons_eq_if_modifyHead, List.splitOn_cons_eq_if_modifyHead, ih,
      parts]
    by_cases dot : c = '.'
    · subst dot
      rfl
    · have other : c.toLower ≠ '.' := fun lowered => dot (toLower_eq_dot_iff.mp lowered)
      simp [dot, other]

theorem segments_folded (column : String) :
    segments (folded column) = (segments column).map folded := by
  simp [segments, folded, splitOn_map_toLower]

theorem isDotted_folded (column : String) : isDotted (folded column) = isDotted column := by
  simp [isDotted, folded, toLower_eq_dot_iff]

example : folded "Tags.Name" = "tags.name" ∧ segments (folded "Tags.Name") = ["tags", "name"] := by
  decide +kernel

end ListQuery.Column
