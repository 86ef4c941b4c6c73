import ListQuery.Sql.Statement
import Mathlib.Data.List.TakeWhile
/-!
The numbers of placeholders. Where no mark stands in the raw text, every argument gets the number of
its place among all arguments, so the parts of a statement can be written one after the other.
-/
namespace ListQuery.Sql

/-- The arguments among several pieces, in order. -/
def argumentsOf (pieces : List Piece) : List Scalar := pieces.filterMap Piece.argument?

/-- The text of pieces whose first argument has the given number, with placeholders. -/
def numberedChars (number : Nat) : List Piece → List Char
  | [] => []
  | .text s :: rest => s.toList ++ numberedChars number rest
  | .argument _ :: rest => placeholder number ++ numberedChars (number + 1) rest

theorem argumentsOf_append (ps qs : List Piece) :
    argumentsOf (ps ++ qs) = argumentsOf ps ++ argumentsOf qs := List.filterMap_append

theorem numberedChars_append (number : Nat) (ps qs : List Piece) :
    numberedChars number (ps ++ qs) =
      numberedChars number ps ++ numberedChars (number + (argumentsOf ps).length) qs := by
  induction ps generalizing number with
  | nil => rfl
  | cons piece rest ih =>
    cases piece with
    | text s =>
      rw [List.cons_append, numberedChars, numberedChars, ih, List.append_assoc]
      rfl
    | argument v =>
      rw [List.cons_append, numberedChars, numberedChars, ih, List.append_assoc, Nat.add_assoc,
        Nat.add_comm 1]
      rfl

/-- A text in which no mark begins, also none that would end behind it. -/
def Unmarked (s : List Char) : Prop := ¬ ['%', '('] <:+: s

theorem unmarked_of_length_le_one {s : List Char} (short : s.length ≤ 1) : Unmarked s :=
  fun inside => absurd (Nat.le_trans inside.length_le short) (by decide)

theorem unmarked_nil : Unmarked [] := unmarked_of_length_le_one (Nat.zero_le 1)

/-- A text without a percent sign adds no mark in front of another text. -/
theorem Unmarked.behind {s t : List Char} (ht : Unmarked t) (h : '%' ∉ s) : Unmarked (s ++ t) := by
  induction s with
  | nil => exact ht
  | cons c rest ih =>
    intro inside
    rcases List.infix_cons_iff.mp inside with front | later
    · exact h (List.mem_cons.mpr (.inl (List.cons_prefix_cons.mp front).1))
    · exact ih (fun member => h (List.mem_cons_of_mem c member)) later

theorem Unmarked.tail {c : Char} {s : List Char} (h : Unmarked (c :: s)) : Unmarked s :=
  fun inside => h (inside.trans (List.suffix_cons c s).isInfix)

theorem unmarked_cons_iff {c : Char} {s : List Char} :
    Unmarked (c :: s) ↔ (c = '%' → s.head? ≠ some '(') ∧ Unmarked s := by
  constructor
  · intro h
    refine ⟨?_, h.tail⟩
    rintro rfl opens
    obtain ⟨behind, rfl⟩ := List.head?_eq_some_iff.mp opens
    exact h (List.prefix_append ['%', '('] behind).isInfix
  · rintro ⟨front, rest⟩ inside
    rcases List.infix_cons_iff.mp inside with begins | later
    · obtain ⟨behind, whole⟩ := begins
      obtain ⟨rfl, rfl⟩ := List.cons_eq_cons.mp whole
      exact front rfl rfl
    · exact rest later

/-- No mark begins where two texts meet if no parenthesis opens the second one. -/
theorem Unmarked.append {s t : List Char} (hs : Unmarked s) (ht : Unmarked t)
    (follows : t.head? ≠ some '(') : Unmarked (s ++ t) := by
  intro inside
  rcases List.infix_append_iff.mp inside with before | behind | ⟨front, back, parts, ends, begins⟩
  · exact hs before
  · exact ht behind
  · match front, parts with
    | [], parts =>
      rw [List.nil_append] at parts
      exact ht (parts ▸ begins.isInfix)
    | [_], parts =>
      obtain ⟨_, rfl⟩ := List.cons_eq_cons.mp parts
      obtain ⟨rest, rfl⟩ := begins
      exact follows rfl
    | c :: d :: more, parts =>
      simp only [List.cons_append, List.cons.injEq, List.nil_eq_append_iff] at parts
      obtain ⟨rfl, rfl, rfl, _⟩ := parts
      exact hs ends.isInfix

/-- A mark does not begin at the end of a text that no parenthesis follows. -/
theorem Unmarked.append_take {s t : List Char} (h : Unmarked s) (follows : t.head? ≠ some '(') :
    Unmarked (s ++ t.take 1) := by
  cases t with
  | nil => rwa [List.take_nil, List.append_nil]
  | cons c rest =>
    have alone : Unmarked [c] := unmarked_of_length_le_one (Nat.le_refl 1)
    exact h.append alone follows

/-- A mark at the front of a text is the name between its parentheses, and the text goes on. -/
theorem markAtFront?_eq_some_iff {s name : List Char} : markAtFront? s = some name ↔
    name ≠ [] ∧ ')' ∉ name ∧ ∃ rest, s = markOf name ++ rest := by
  constructor
  · intro h
    unfold markAtFront? at h
    split at h
    · next more =>
      split at h
      · next c inside rest before behind =>
        cases h
        refine ⟨List.cons_ne_nil c inside, fun closing => ?_, rest, ?_⟩
        · rw [← before] at closing
          exact absurd (List.mem_takeWhile_imp closing) (by decide)
        · rw [markOf, ← List.takeWhile_append_dropWhile (p := (· != ')')) (l := more), before,
            behind]
          simp
      · cases h
    · cases h
  · rintro ⟨some_char, free, rest, rfl⟩
    have inside : ∀ c ∈ name, (c != ')') = true := fun c member =>
      bne_iff_ne.mpr fun same => free (same ▸ member)
    have cons : markOf name ++ rest = '%' :: '(' :: (name ++ ([')', 's'] ++ rest)) := by
      simp [markOf]
    rw [cons, markAtFront?, List.takeWhile_append_of_pos inside,
      List.dropWhile_append_of_pos inside]
    cases name with
    | nil => exact absurd rfl some_char
    | cons c more => simp

theorem markAtFront?_of_unmarked {c : Char} {s : List Char} (h : Unmarked (c :: s.take 1)) :
    markAtFront? (c :: s) = none := by
  unfold markAtFront?
  split
  · next rest same =>
    cases same
    exact absurd (List.prefix_refl _).isInfix h
  · rfl

theorem fragments_cons {c : Char} {s : List Char} (h : markAtFront? (c :: s) = none) :
    fragments (c :: s) = .char c :: fragments s := by
  rw [fragments, h]

theorem fragments_mark {name : List Char} (some_char : name ≠ []) (free : ')' ∉ name)
    (t : List Char) : fragments (markOf name ++ t) = .mark name :: fragments t := by
  have front := markAtFront?_eq_some_iff.mpr ⟨some_char, free, t, rfl⟩
  have cons : markOf name ++ t = '%' :: ('(' :: name ++ [')', 's'] ++ t) := by
    simp [markOf]
  rw [cons] at front ⊢
  rw [fragments, front]
  simp only
  rw [List.drop_append_of_le_length (by simp)]
  simp

/-- Text without a mark has no fragments but its characters. -/
theorem fragments_append {s t : List Char} (h : Unmarked (s ++ t.take 1)) :
    fragments (s ++ t) = s.map .char ++ fragments t := by
  induction s with
  | nil => rfl
  | cons c rest ih =>
    have front : Unmarked (c :: (rest ++ t).take 1) := by
      cases rest with
      | nil => exact h
      | cons d more => exact fun inside => h (inside.trans ⟨[], more ++ t.take 1, by simp⟩)
    rw [List.cons_append, fragments_cons (markAtFront?_of_unmarked front), ih h.tail]
    rfl

theorem flatMap_numbered_char (count : Nat) (s : List Char) :
    (s.map Fragment.char).flatMap (Fragment.numbered count) = s := by
  rw [List.flatMap_map]
  exact List.flatMap_singleton' s

theorem findSome?_stray_char (count : Nat) (s : List Char) :
    (s.map Fragment.char).findSome? (Fragment.stray? count) = none := by
  simp [List.findSome?_eq_none_iff, Fragment.stray?]

theorem numberMarks_nil (count : Nat) : numberMarks count [] = [] := by
  rw [numberMarks, fragments]
  rfl

/-- Text without a mark is kept as it is. -/
theorem numberMarks_append {count : Nat} {s t : List Char} (h : Unmarked (s ++ t.take 1)) :
    numberMarks count (s ++ t) = s ++ numberMarks count t := by
  rw [numberMarks, fragments_append h, List.flatMap_append, flatMap_numbered_char]
  rfl

theorem strayMark?_append {count : Nat} {s t : List Char} (h : Unmarked (s ++ t.take 1)) :
    strayMark? count (s ++ t) = strayMark? count t := by
  rw [strayMark?, fragments_append h, List.findSome?_append, findSome?_stray_char]
  rfl

/-- A text without a mark is not refused. -/
theorem refusal?_of_unmarked (strays : StrayMarks) (count : Nat) {s : List Char} (h : Unmarked s) :
    strays.refusal? count s = none := by
  cases strays with
  | kept => rfl
  | refused =>
    have alone : Unmarked (s ++ [].take 1) := by rwa [List.take_nil, List.append_nil]
    rw [StrayMarks.refusal?, ← List.append_nil s, strayMark?_append alone, strayMark?, fragments]
    rfl

theorem argumentNumber?_argumentName {count number : Nat} (pos : 1 ≤ number)
    (fits : number ≤ count) : argumentNumber? count (argumentName number) = some number := by
  have read : ((argumentName number).drop 6).foldl
      (fun n c => 10 * n + (c.toNat - '0'.toNat)) 0 = number := by
    change (numberChars number).foldl _ 0 = number
    have same := Nat.ofDigitChars_ten_toDigits (n := number)
    rwa [Nat.ofDigitChars_eq_foldl] at same
  rw [argumentNumber?]
  simp only [read]
  rw [if_pos ⟨pos, fits, trivial⟩]

theorem mem_argumentName {number : Nat} {c : Char} (h : c ∈ argumentName number) :
    c ∈ "param_".toList ∨ c.isDigit = true := by
  refine (List.mem_append.mp h).imp_right fun digit => ?_
  exact Nat.isDigit_of_mem_toDigits (by decide) (by decide) digit

theorem closing_not_mem_argumentName (number : Nat) : ')' ∉ argumentName number := by
  intro member
  rcases mem_argumentName member with fixed | digit
  · exact absurd fixed (by decide)
  · cases digit

theorem argumentName_ne_nil (number : Nat) : argumentName number ≠ [] := List.cons_ne_nil _ _

/-- The fragments of pieces whose texts hold no marks. -/
def markedFragments (number : Nat) : List Piece → List Fragment
  | [] => []
  | .text s :: rest => s.toList.map .char ++ markedFragments number rest
  | .argument _ :: rest => .mark (argumentName number) :: markedFragments (number + 1) rest

theorem fragments_markedChars (number : Nat) {pieces : List Piece}
    (plain : ∀ s, .text s ∈ pieces → '%' ∉ s.toList) (t : List Char) :
    fragments (markedChars number pieces ++ t) = markedFragments number pieces ++ fragments t := by
  induction pieces generalizing number with
  | nil => rfl
  | cons piece rest ih =>
    have later : ∀ s, .text s ∈ rest → '%' ∉ s.toList := fun s member =>
      plain s (List.mem_cons_of_mem _ member)
    cases piece with
    | text s =>
      -- the text may be followed by a mark, but its own last character begins none
      have free : '%' ∉ s.toList := plain s (List.mem_cons_self ..)
      have unmarked {t : List Char} : Unmarked (s.toList ++ t.take 1) :=
        (unmarked_of_length_le_one (List.length_take_le 1 t)).behind free
      rw [markedChars, markedFragments, List.append_assoc, List.append_assoc,
        fragments_append unmarked, ih _ later]
    | argument v =>
      rw [markedChars, markedFragments, List.append_assoc, List.cons_append,
        fragments_mark (argumentName_ne_nil number) (closing_not_mem_argumentName number),
        ih _ later]

section
variable {count number : Nat} {pieces : List Piece} (pos : 1 ≤ number)
  (fits : number + (argumentsOf pieces).length ≤ count + 1)
include pos fits

/-- The marks of the arguments are numbered one after the other, and all of them are known. -/
theorem numbered_markedFragments :
    (markedFragments number pieces).flatMap (Fragment.numbered count) =
        numberedChars number pieces ∧
      (markedFragments number pieces).findSome? (Fragment.stray? count) = none := by
  induction pieces generalizing number with
  | nil => exact ⟨rfl, rfl⟩
  | cons piece rest ih =>
    cases piece with
    | text s =>
      obtain ⟨numbered, known⟩ := ih pos fits
      rw [markedFragments, numberedChars, List.flatMap_append, flatMap_numbered_char, numbered,
        List.findSome?_append, findSome?_stray_char, known]
      exact ⟨rfl, rfl⟩
    | argument v =>
      have room : number + 1 + (argumentsOf rest).length ≤ count + 1 := by
        change number + ((argumentsOf rest).length + 1) ≤ count + 1 at fits
        omega
      obtain ⟨numbered, known⟩ := ih (by omega) room
      have named := argumentNumber?_argumentName pos (by omega : number ≤ count)
      rw [markedFragments, numberedChars, List.flatMap_cons, List.findSome?_cons, numbered,
        Fragment.numbered, Fragment.stray?, named]
      exact ⟨rfl, known⟩

/-- Pieces without a percent sign in their texts are numbered one after the other. -/
theorem numberMarks_markedChars (plain : ∀ s, .text s ∈ pieces → '%' ∉ s.toList) (t : List Char) :
    numberMarks count (markedChars number pieces ++ t) =
      numberedChars number pieces ++ numberMarks count t := by
  rw [numberMarks, fragments_markedChars number plain, List.flatMap_append,
    (numbered_markedFragments pos fits).1]
  rfl

end

end ListQuery.Sql
