import ListQuery.Text.Case
/-!
Upper case twice. A text whose upper case is made of the letters from A to Z may have small letters
in it, the long s or ligatures, but none of these is in the upper case of anything. So a word in
capitals is the upper case of a text exactly when it is the upper case of its upper case.
-/
namespace ListQuery.Text

/-- The letters from A to Z. -/
def IsCapital (c : Char) : Prop := 0x41 ≤ c.toNat ∧ c.toNat ≤ 0x5A

instance (c : Char) : Decidable (IsCapital c) := inferInstanceAs (Decidable (_ ∧ _))

/-- The characters other than capitals whose upper case is made of capitals. -/
def smallRanges : List (Nat × Nat) :=
  [(0x61, 0x7A), (0xDF, 0xDF), (0x131, 0x131), (0x17F, 0x17F), (0xFB00, 0xFB06)]

def IsSmall (c : Char) : Prop := inRanges smallRanges c.toNat = true

instance (c : Char) : Decidable (IsSmall c) := inferInstanceAs (Decidable (_ = _))

theorem inRanges_iff {ranges : List (Nat × Nat)} {code : Nat} :
    inRanges ranges code = true ↔ ∃ r ∈ ranges, r.1 ≤ code ∧ code ≤ r.2 := by
  simp [inRanges]

theorem toNat_ofNat_of_ne_zero {n : Nat} (h : (Char.ofNat n).toNat ≠ 0) :
    (Char.ofNat n).toNat = n := by
  by_cases valid : n.isValidChar
  · rw [Char.ofNat, dif_pos valid]
    rfl
  · rw [Char.ofNat, dif_neg valid] at h
    exact absurd rfl h

/-- A character is mapped to several, by a run, or to itself. -/
inductive MapsCase (runs : List CaseRun) (expansions : List (Nat × List Nat)) (c : Char) :
    List Char → Prop
  | several {e : Nat × List Nat} (listed : e ∈ expansions) (code : e.1 = c.toNat) :
    MapsCase runs expansions c (e.2.map Char.ofNat)
  | shifted {r : CaseRun} (listed : r ∈ runs) (first : r.first ≤ c.toNat)
      (last : c.toNat ≤ r.last) :
    MapsCase runs expansions c [Char.ofNat (c.toNat + r.shift).toNat]
  | itself (single : ∀ e ∈ expansions, e.1 ≠ c.toNat)
      (uncovered : ∀ r ∈ runs, r.covers c.toNat = false) : MapsCase runs expansions c [c]

theorem mapsCase_mapCase (runs : List CaseRun) (expansions : List (Nat × List Nat)) (c : Char) :
    MapsCase runs expansions c (mapCase runs expansions c) := by
  unfold mapCase
  split
  · next e found =>
    have code := List.find?_some found
    exact .several (List.mem_of_find?_eq_some found) (beq_iff_eq.mp code)
  · next none_several =>
    split
    · next r found =>
      have covers := List.find?_some found
      simp only [CaseRun.covers, Bool.and_eq_true, decide_eq_true_eq] at covers
      exact .shifted (List.mem_of_find?_eq_some found) covers.1.1 covers.1.2
    · next none_covers =>
      refine .itself (fun e member => ?_) fun r member => ?_
      · simpa using List.find?_eq_none.mp none_several e member
      · simpa using List.find?_eq_none.mp none_covers r member

theorem mapsCase_upperChar (c : Char) : MapsCase upperRuns upperExpansions c (upperChar c) :=
  mapsCase_mapCase upperRuns upperExpansions c

/-- Where a run ends up is between the images of its ends. -/
theorem toNat_shifted {r : CaseRun} {c : Char} (first : r.first ≤ c.toNat) (last : c.toNat ≤ r.last)
    (visible : (Char.ofNat (c.toNat + r.shift).toNat).toNat ≠ 0) :
    r.first + r.shift ≤ (Char.ofNat (c.toNat + r.shift).toNat).toNat ∧
      (Char.ofNat (c.toNat + r.shift).toNat).toNat ≤ r.last + r.shift := by
  have code := toNat_ofNat_of_ne_zero visible
  omega

section
variable {c : Char}

theorem upperChar_of_isCapital (capital : IsCapital c) : upperChar c = [c] := by
  have several : ∀ e ∈ upperExpansions, 0x5A < e.1 := by decide +kernel
  have runs : ∀ r ∈ upperRuns, 0x5A < r.first := by decide +kernel
  have maps := mapsCase_upperChar c
  generalize upperChar c = image at maps ⊢
  cases maps with
  | several listed code => exact absurd (several _ listed) (by have := capital.2; omega)
  | shifted listed first last => exact absurd (runs _ listed) (by have := capital.2; omega)
  | itself _ _ => rfl

theorem isCapital_or_isSmall_of_upperChar (capitals : ∀ d ∈ upperChar c, IsCapital d) :
    IsCapital c ∨ IsSmall c := by
  have several : ∀ e ∈ upperExpansions, (∀ n ∈ e.2, IsCapital (Char.ofNat n)) →
      inRanges smallRanges e.1 = true := by decide +kernel
  have runs : ∀ r ∈ upperRuns, r.last + r.shift < 0x41 ∨ 0x5A < r.first + r.shift ∨
      ∃ s ∈ smallRanges, s.1 ≤ r.first ∧ r.last ≤ s.2 := by decide +kernel
  have maps := mapsCase_upperChar c
  generalize upperChar c = image at maps capitals
  cases maps with
  | several listed code =>
    rw [List.forall_mem_map] at capitals
    have small := several _ listed capitals
    rw [code] at small
    exact .inr small
  | shifted listed first last =>
    have capital := List.forall_mem_singleton.mp capitals
    have bounds := toNat_shifted first last (by have := capital.1; omega)
    rcases runs _ listed with below | above | ⟨s, small, inside⟩
    · exact absurd capital.1 (by omega)
    · exact absurd capital.2 (by omega)
    · exact .inr (inRanges_iff.mpr ⟨s, small, by omega⟩)
  | itself _ _ => exact .inl (List.forall_mem_singleton.mp capitals)

theorem not_isSmall_of_mem_upperChar {d : Char} (member : d ∈ upperChar c) : ¬IsSmall d := by
  have several : ∀ e ∈ upperExpansions, ∀ n ∈ e.2, ¬IsSmall (Char.ofNat n) := by decide +kernel
  have runs : ∀ r ∈ upperRuns, ∀ s ∈ smallRanges,
      r.last + r.shift < s.1 ∨ s.2 < r.first + r.shift := by decide +kernel
  have mapped : ∀ s ∈ smallRanges, ∀ n ∈ List.range' s.1 (s.2 + 1 - s.1),
      (∃ e ∈ upperExpansions, e.1 = n) ∨ ∃ r ∈ upperRuns, r.covers n = true := by decide +kernel
  have maps := mapsCase_upperChar c
  generalize upperChar c = image at maps member
  intro small
  obtain ⟨s, listed_small, low, high⟩ := inRanges_iff.mp small
  cases maps with
  | several listed code =>
    obtain ⟨n, inside, rfl⟩ := List.mem_map.mp member
    exact several _ listed n inside small
  | shifted listed first last =>
    rw [List.mem_singleton.mp member] at low high
    have positive : ∀ s ∈ smallRanges, 0 < s.1 := by decide
    have bounds := toNat_shifted first last (by have := positive s listed_small; omega)
    rcases runs _ listed s listed_small with below | above <;> omega
  | itself single uncovered =>
    rw [List.mem_singleton.mp member] at low high
    have inside : c.toNat ∈ List.range' s.1 (s.2 + 1 - s.1) := by
      rw [List.mem_range'_1]
      omega
    rcases mapped s listed_small c.toNat inside with ⟨e, listed, code⟩ | ⟨r, listed, covers⟩
    · exact single e listed code
    · exact Bool.false_ne_true ((uncovered r listed).symm.trans covers)

end

theorem upperChars_of_capitals {s : List Char} (capitals : ∀ c ∈ s, IsCapital c) :
    upperChars s = s := by
  induction s with
  | nil => rfl
  | cons c rest ih =>
    rw [List.forall_mem_cons] at capitals
    rw [upperChars, List.flatMap_cons, upperChar_of_isCapital capitals.1]
    exact congrArg (c :: ·) (ih capitals.2)

/-- A word in capitals is the upper case of a text or of its upper case, whichever is asked for. -/
theorem upper_upper_eq_iff {word : String} (capitals : ∀ c ∈ word.toList, IsCapital c)
    (s : String) : upper (upper s) = word ↔ upper s = word := by
  have fixed {t : String} (of_capitals : ∀ c ∈ t.toList, IsCapital c) : upper t = t := by
    rw [upper, upperChars_of_capitals of_capitals, String.ofList_toList]
  constructor
  · intro twice
    have kept : ∀ d ∈ (upper s).toList, IsCapital d := by
      intro d member
      have image : ∀ e ∈ upperChar d, IsCapital e := fun e inside => capitals e (by
        rw [← twice, upper, String.toList_ofList]
        exact List.mem_flatMap.mpr ⟨d, member, inside⟩)
      rw [upper, String.toList_ofList] at member
      obtain ⟨c, _, made⟩ := List.mem_flatMap.mp member
      exact (isCapital_or_isSmall_of_upperChar image).resolve_right
        (not_isSmall_of_mem_upperChar made)
    rw [← twice, fixed kept]
  · intro once
    rw [once, fixed capitals]

example : upper "de\u017Fc" = "DESC" := by decide +kernel

end ListQuery.Text
