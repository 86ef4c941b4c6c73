import ListQuery.Text.Blank
/-!
Words of a text. A blank divides the words in front of it from those behind it, and a text that has
no blank is one word.
-/
namespace ListQuery.Text

theorem words_append_blank {c : Char} (blank : isBlank c = true) (s t : List Char) :
    words (s ++ c :: t) = words s ++ words t := by
  rw [words, List.splitOnP_append_cons s t blank, List.filter_append]
  rfl

section
variable {s t : List Char}

/-- A text that is empty or begins with a blank. -/
def BeginsBlank (s : List Char) : Prop := ∀ c ∈ s.head?, isBlank c = true

theorem beginsBlank_nil : BeginsBlank [] := fun c member => absurd member (Option.not_mem_none c)

theorem BeginsBlank.append (hs : BeginsBlank s) (ht : BeginsBlank t) : BeginsBlank (s ++ t) := by
  cases s with
  | nil => exact ht
  | cons c rest => exact hs

theorem BeginsBlank.head?_ne (h : BeginsBlank s) {c : Char} (solid : isBlank c = false) :
    s.head? ≠ some c := by
  intro first
  rw [h c first] at solid
  cases solid

theorem words_append_of_beginsBlank (ht : BeginsBlank t) :
    words (s ++ t) = words s ++ words t := by
  cases t with
  | nil => exact (congrArg words (List.append_nil s)).trans (List.append_nil _).symm
  | cons c rest =>
    have blank : isBlank c = true := ht c rfl
    have alone : words (c :: rest) = words rest := words_append_blank blank [] rest
    rw [words_append_blank blank, alone]

end

theorem words_of_solid {s : List Char} (some_char : s ≠ []) (solid : ∀ c ∈ s, isBlank c = false) :
    words s = [s] := by
  rw [words, List.splitOnP_eq_singleton solid]
  cases s with
  | nil => exact absurd rfl some_char
  | cons c rest => rfl

theorem exists_mem_splitOnP {p : Char → Bool} {c : Char} {s : List Char} (h : c ∈ s)
    (kept : p c = false) : ∃ w ∈ s.splitOnP p, c ∈ w := by
  induction s with
  | nil => cases h
  | cons d rest ih =>
    obtain ⟨first, more, parts⟩ := List.exists_cons_of_ne_nil (List.splitOnP_ne_nil p rest)
    rw [List.splitOnP_cons_eq_if_modifyHead, parts, List.modifyHead_cons]
    rw [parts] at ih
    rcases List.mem_cons.mp h with rfl | later
    · rw [kept]
      exact ⟨c :: first, List.mem_cons_self, List.mem_cons_self⟩
    · obtain ⟨w, member, inside⟩ := ih later
      split
      · exact ⟨w, List.mem_cons_of_mem _ member, inside⟩
      · rcases List.mem_cons.mp member with rfl | deeper
        · exact ⟨d :: w, List.mem_cons_self, List.mem_cons_of_mem _ inside⟩
        · exact ⟨w, List.mem_cons_of_mem _ deeper, inside⟩

theorem not_mem_of_mem_splitOn {c : Char} {s part : List Char} (h : part ∈ s.splitOn c) :
    c ∉ part := by
  induction s generalizing part with
  | nil =>
    rw [List.splitOn_nil, List.mem_singleton] at h
    rw [h]
    exact List.not_mem_nil
  | cons d rest ih =>
    obtain ⟨first, more, parts⟩ := List.exists_cons_of_ne_nil (List.splitOn_ne_nil c rest)
    rw [List.splitOn_cons_eq_if_modifyHead, parts] at h
    rw [parts] at ih
    split at h
    · rcases List.mem_cons.mp h with rfl | later
      · exact List.not_mem_nil
      · exact ih later
    · next other =>
      rcases List.mem_cons.mp h with rfl | later
      · have different : c ≠ d := fun same => other (beq_iff_eq.mpr same.symm)
        exact fun member => (List.mem_cons.mp member).elim different (ih List.mem_cons_self)
      · exact ih (List.mem_cons_of_mem _ later)

/-- A character that is no blank is in a word. -/
theorem exists_mem_words {c : Char} {s : List Char} (h : c ∈ s) (solid : isBlank c = false) :
    ∃ w ∈ words s, c ∈ w := by
  obtain ⟨w, member, inside⟩ := exists_mem_splitOnP h solid
  refine ⟨w, List.mem_filter.mpr ⟨member, ?_⟩, inside⟩
  cases w with
  | nil => cases inside
  | cons d rest => rfl

/-- A text that has no blank. -/
def IsSolid (s : String) : Prop := ∀ c ∈ s.toList, isBlank c = false

instance (s : String) : Decidable (IsSolid s) :=
  List.decidableBAll (fun c => isBlank c = false) s.toList

theorem IsSolid.append {s t : String} (hs : IsSolid s) (ht : IsSolid t) : IsSolid (s ++ t) := by
  rw [IsSolid, String.toList_append]
  exact List.forall_mem_append.mpr ⟨hs, ht⟩

theorem toNat_of_isDigit {c : Char} (h : c.isDigit = true) : 0x30 ≤ c.toNat ∧ c.toNat ≤ 0x39 := by
  simp only [Char.isDigit, Bool.and_eq_true, decide_eq_true_eq, ge_iff_le,
    UInt32.le_iff_toNat_le] at h
  exact h

/-- No character between the space and the delete character is a blank. -/
theorem isBlank_of_toNat {c : Char} (low : 0x21 ≤ c.toNat) (high : c.toNat ≤ 0x7E) :
    isBlank c = false := by
  simp only [isBlank, inRanges, blankRanges, List.any_cons, List.any_nil, Bool.or_false,
    Bool.or_eq_false_iff, Bool.and_eq_false_iff, decide_eq_false_iff_not]
  omega

theorem isSolid_toString (n : Nat) : IsSolid (toString n) := by
  intro c member
  have digit : c ∈ Nat.toDigits 10 n := Nat.toList_repr ▸ member
  have bounds := toNat_of_isDigit (Nat.isDigit_of_mem_toDigits (by decide) (by decide) digit)
  exact isBlank_of_toNat (by omega) (by omega)

theorem eq_of_toString_eq {m n : Nat} (same : toString m = toString n) : m = n := by
  have digits : Nat.toDigits 10 m = Nat.toDigits 10 n := by
    rw [← Nat.toList_repr, ← Nat.toList_repr]
    exact congrArg String.toList same
  rw [← Nat.ofDigitChars_ten_toDigits (n := m), digits, Nat.ofDigitChars_ten_toDigits]

/-- A text that is one word. -/
structure IsWord (s : String) : Prop where
  some_char : s ≠ ""
  solid : IsSolid s

instance (s : String) : Decidable (IsWord s) :=
  decidable_of_iff (s ≠ "" ∧ IsSolid s) ⟨fun ⟨h, i⟩ => ⟨h, i⟩, fun ⟨h, i⟩ => ⟨h, i⟩⟩

theorem IsWord.append {s t : String} (hs : IsWord s) (ht : IsSolid t) : IsWord (s ++ t) := by
  refine ⟨?_, hs.solid.append ht⟩
  simp [hs.some_char]

theorem IsWord.words_eq {s : String} (h : IsWord s) : words s.toList = [s.toList] := by
  refine words_of_solid (fun empty => h.some_char ?_) h.solid
  simpa using empty

end ListQuery.Text
