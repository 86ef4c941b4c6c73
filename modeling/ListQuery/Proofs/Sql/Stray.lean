import ListQuery.Proofs.Sql.Numbering
import ListQuery.Proofs.Text.Words
/-!
Marks where two texts meet. A mark that opens in one text can be closed in the next, and then it
names no argument, since the blank between the two texts is a part of its name. So two texts are
numbered apart, unless such a mark is left in what is written for the second one.
-/
namespace ListQuery.Sql

open Text

/-- A text in which a closing parenthesis stands behind the opening of each mark. -/
def MarksClosed (s : List Char) : Prop := ∀ behind, '%' :: '(' :: behind <:+ s → ')' ∈ behind

theorem Unmarked.marksClosed {s : List Char} (h : Unmarked s) : MarksClosed s :=
  fun behind ends => absurd ((List.prefix_append ['%', '('] behind).isInfix.trans ends.isInfix) h

theorem marksClosed_nil : MarksClosed [] := unmarked_nil.marksClosed

theorem marksClosed_cons_iff {c : Char} {s : List Char} :
    MarksClosed (c :: s) ↔ (c = '%' → s.head? = some '(' → ')' ∈ s) ∧ MarksClosed s := by
  constructor
  · intro h
    refine ⟨?_, fun behind ends => h behind (ends.trans (List.suffix_cons c s))⟩
    rintro rfl opens
    obtain ⟨behind, rfl⟩ := List.head?_eq_some_iff.mp opens
    exact List.mem_cons_of_mem _ (h behind (List.suffix_refl _))
  · rintro ⟨front, rest⟩ behind ends
    rcases List.suffix_cons_iff.mp ends with whole | later
    · obtain ⟨rfl, rfl⟩ := List.cons_eq_cons.mp whole
      exact (List.mem_cons.mp (front rfl rfl)).resolve_left (by decide)
    · exact rest behind later

instance : (s : List Char) → Decidable (MarksClosed s)
  | [] => .isTrue marksClosed_nil
  | _ :: s =>
    have := instDecidableMarksClosed s
    decidable_of_iff' _ marksClosed_cons_iff

namespace MarksClosed

variable {s t : List Char}

theorem of_suffix (h : MarksClosed s) (ends : t <:+ s) : MarksClosed t :=
  fun behind inside => h behind (inside.trans ends)

theorem behind (ht : MarksClosed t) (free : '%' ∉ s) : MarksClosed (s ++ t) := by
  induction s with
  | nil => exact ht
  | cons c rest ih =>
    rw [List.mem_cons, not_or] at free
    exact marksClosed_cons_iff.mpr ⟨fun same => absurd same.symm free.1, ih free.2⟩

/-- No mark opens where two texts meet if no parenthesis opens the second one. -/
theorem append (hs : MarksClosed s) (ht : MarksClosed t) (follows : t.head? ≠ some '(') :
    MarksClosed (s ++ t) := by
  induction s with
  | nil => exact ht
  | cons c rest ih =>
    obtain ⟨front, later⟩ := marksClosed_cons_iff.mp hs
    refine marksClosed_cons_iff.mpr ⟨fun percent opens => ?_, ih later⟩
    cases rest with
    | nil => exact absurd opens follows
    | cons d more => exact List.mem_append_left t (front percent opens)

end MarksClosed

theorem markAtFront?_of_closing_not_mem {s : List Char} (free : ')' ∉ s) :
    markAtFront? s = none := by
  cases found : markAtFront? s with
  | none => rfl
  | some name =>
    obtain ⟨_, _, rest, rfl⟩ := markAtFront?_eq_some_iff.mp found
    exact absurd (by simp [markOf]) free

/-- Where no parenthesis closes there is no mark. -/
theorem fragments_of_closing_not_mem {s : List Char} (free : ')' ∉ s) :
    fragments s = s.map .char := by
  induction s with
  | nil =>
    rw [fragments]
    rfl
  | cons c rest ih =>
    rw [fragments_cons (markAtFront?_of_closing_not_mem free),
      ih fun member => free (List.mem_cons_of_mem c member)]
    rfl

theorem argumentNumber?_of_blank {count : Nat} {name : List Char} {c : Char} (member : c ∈ name)
    (blank : isBlank c = true) : argumentNumber? count name = none := by
  rw [argumentNumber?]
  apply if_neg
  rintro ⟨_, _, named⟩
  rw [named] at member
  rcases mem_argumentName member with fixed | digit
  · have solid : "param_".toList.all (fun d => !isBlank d) = true := by decide
    have other := List.all_eq_true.mp solid c fixed
    rw [blank] at other
    cases other
  · have bounds := toNat_of_isDigit digit
    rw [isBlank_of_toNat (by omega) (by omega)] at blank
    cases blank

/-- A mark that only the following text closes has a part of its name, and a blank, from there. -/
theorem exists_of_markAtFront?_append {s t name : List Char} (some_char : s ≠ [])
    (blank : BeginsBlank t) (apart : markAtFront? s = none)
    (runs : markAtFront? (s ++ t) = some name) :
    ∃ opened c inside rest, s = '%' :: '(' :: opened ∧ isBlank c = true ∧
      t = c :: inside ++ [')', 's'] ++ rest ∧ name = opened ++ c :: inside := by
  obtain ⟨named, free, rest, whole⟩ := markAtFront?_eq_some_iff.mp runs
  rcases List.append_eq_append_iff.mp whole with ⟨part, mark, begins⟩ | ⟨more, longer, _⟩
  · cases part with
    | nil =>
      rw [List.append_nil] at mark
      rw [← mark, ← List.append_nil (markOf name),
        markAtFront?_eq_some_iff.mpr ⟨named, free, [], rfl⟩] at apart
      cases apart
    | cons c part =>
      have first : isBlank c = true := blank c (by rw [begins]; rfl)
      match s, some_char, mark with
      | [_], _, mark =>
        obtain ⟨_, same⟩ := List.cons_eq_cons.mp mark
        obtain ⟨rfl, _⟩ := List.cons_eq_cons.mp same
        exact absurd first (by decide)
      | _ :: _ :: opened, _, mark =>
        simp only [markOf, List.cons_append, List.cons.injEq] at mark
        obtain ⟨rfl, rfl, mark⟩ := mark
        rcases List.append_eq_append_iff.mp mark with ⟨tail, _, ends⟩ | ⟨inside, named, ends⟩
        · have last : c ∈ [')', 's'] := ends ▸ List.mem_append_right tail List.mem_cons_self
          rcases List.mem_cons.mp last with rfl | other
          · exact absurd first (by decide)
          · rw [List.mem_singleton.mp other] at first
            exact absurd first (by decide)
        · cases inside with
          | nil =>
            obtain ⟨rfl, _⟩ := List.cons_eq_cons.mp ends
            exact absurd first (by decide)
          | cons d inside =>
            obtain ⟨rfl, rfl⟩ := List.cons_eq_cons.mp ends
            exact ⟨opened, c, inside, rest, rfl, first, begins, named⟩
  · rw [longer, markAtFront?_eq_some_iff.mpr ⟨named, free, more, rfl⟩] at apart
    cases apart

theorem numberMarks_cons (count : Nat) {c : Char} {s : List Char}
    (apart : markAtFront? (c :: s) = none) : numberMarks count (c :: s) = c :: numberMarks count s ∧
      strayMark? count (c :: s) = strayMark? count s := by
  rw [numberMarks, strayMark?, fragments_cons apart]
  exact ⟨rfl, rfl⟩

theorem numberMarks_mark (count : Nat) {name : List Char} (some_char : name ≠ [])
    (free : ')' ∉ name) (t : List Char) :
    numberMarks count (markOf name ++ t) =
        (Fragment.mark name).numbered count ++ numberMarks count t ∧
      strayMark? count (markOf name ++ t) =
        ((Fragment.mark name).stray? count).or (strayMark? count t) := by
  rw [numberMarks, strayMark?, fragments_mark some_char free, List.flatMap_cons,
    List.findSome?_cons]
  refine ⟨rfl, ?_⟩
  cases (Fragment.mark name).stray? count <;> rfl

/-- The second of two texts is written as if it stood alone, or a mark of no argument runs over from
the first one and is left there. -/
def FollowsApart (count : Nat) (s t : List Char) : Prop :=
  ∃ behind, numberMarks count (s ++ t) = numberMarks count s ++ behind ∧
    (behind = numberMarks count t ∨
      '%' ∈ behind ∧ ¬MarksClosed s ∧ strayMark? count (s ++ t) ≠ none)

namespace FollowsApart

variable {count : Nat} {s t : List Char}

theorem cons {c : Char} (h : FollowsApart count s t) (alone : markAtFront? (c :: s) = none)
    (apart : markAtFront? (c :: (s ++ t)) = none) : FollowsApart count (c :: s) t := by
  obtain ⟨behind, parts, cases⟩ := h
  obtain ⟨numbered, stray⟩ := numberMarks_cons count apart
  refine ⟨behind, ?_, ?_⟩
  · rw [(numberMarks_cons count alone).1, List.cons_append, numbered, parts]
    rfl
  · rcases cases with same | ⟨present, unclosed, found⟩
    · exact .inl same
    · refine .inr ⟨present, fun closed => ?_, stray ▸ found⟩
      exact unclosed (closed.of_suffix (List.suffix_cons c s))

theorem mark {name : List Char} (h : FollowsApart count s t) (some_char : name ≠ [])
    (free : ')' ∉ name) : FollowsApart count (markOf name ++ s) t := by
  obtain ⟨behind, parts, cases⟩ := h
  obtain ⟨numbered, stray⟩ := numberMarks_mark count some_char free (s ++ t)
  refine ⟨behind, ?_, ?_⟩
  · rw [(numberMarks_mark count some_char free s).1, List.append_assoc, numbered, parts,
      List.append_assoc]
  · rcases cases with same | ⟨present, unclosed, found⟩
    · exact .inl same
    · refine .inr ⟨present, fun closed => ?_, fun nowhere => found ?_⟩
      · exact unclosed (closed.of_suffix (List.suffix_append _ s))
      · rw [List.append_assoc, stray] at nowhere
        exact (Option.or_eq_none_iff.mp nowhere).2

/-- A mark that runs over names no argument, since it has a blank in its name. -/
theorem overrun {opened inside : List Char} {c : Char} (blank : isBlank c = true)
    (free : ')' ∉ opened ++ c :: inside) :
    FollowsApart count ('%' :: '(' :: opened) (c :: inside ++ [')', 's'] ++ t) := by
  have whole : '%' :: '(' :: opened ++ (c :: inside ++ [')', 's'] ++ t) =
      markOf (opened ++ c :: inside) ++ t := by
    simp [markOf]
  have unknown : argumentNumber? count (opened ++ c :: inside) = none :=
    argumentNumber?_of_blank (List.mem_append_right opened List.mem_cons_self) blank
  have unclosed : ')' ∉ '%' :: '(' :: opened := by
    simp only [List.mem_cons, not_or]
    exact ⟨by decide, by decide, fun member => free (List.mem_append_left _ member)⟩
  have kept : numberMarks count ('%' :: '(' :: opened) = '%' :: '(' :: opened := by
    rw [numberMarks, fragments_of_closing_not_mem unclosed, flatMap_numbered_char]
  have some_char : opened ++ c :: inside ≠ [] := by simp
  obtain ⟨numbered, stray⟩ := numberMarks_mark count some_char free t
  refine ⟨c :: inside ++ [')', 's'] ++ numberMarks count t, ?_, ?_⟩
  · rw [whole, numbered, kept, Fragment.numbered, unknown]
    simp [markOf]
  · by_cases present : '%' ∈ c :: inside
    · refine .inr ⟨?_, fun closed => ?_, ?_⟩
      · exact List.mem_append_left _ (List.mem_append_left _ present)
      · exact free (List.mem_append_left _ (closed opened (List.suffix_refl _)))
      · rw [whole, stray, Fragment.stray?, unknown]
        exact Option.some_ne_none _
    · -- no mark begins in what is left, so it is written as if it stood alone
      have plain : '%' ∉ c :: inside ++ [')', 's'] := List.not_mem_append present (by decide)
      have alone : Unmarked (c :: inside ++ [')', 's'] ++ t.take 1) :=
        (unmarked_of_length_le_one (List.length_take_le 1 t)).behind plain
      exact .inl (numberMarks_append alone).symm

end FollowsApart

/-- A text that begins with a blank is numbered apart from the text in front of it, unless a mark
runs over. -/
theorem followsApart_of_beginsBlank (count : Nat) {s t : List Char} (blank : BeginsBlank t) :
    FollowsApart count s t := by
  fun_induction fragments s with
  | case1 => exact ⟨numberMarks count t, by rw [numberMarks_nil]; rfl, .inl rfl⟩
  | case2 c rest alone ih =>
    cases runs : markAtFront? (c :: rest ++ t) with
    | none => exact ih.cons alone runs
    | some name =>
      obtain ⟨opened, d, inside, more, parts, first, rfl, rfl⟩ :=
        exists_of_markAtFront?_append (List.cons_ne_nil c rest) blank alone runs
      rw [parts]
      exact .overrun first (markAtFront?_eq_some_iff.mp runs).2.1
  | case3 c rest name found ih =>
    obtain ⟨some_char, free, more, whole⟩ := markAtFront?_eq_some_iff.mp found
    have split : rest = '(' :: name ++ [')', 's'] ++ more := (List.cons_eq_cons.mp whole).2
    have tail : rest.drop (name.length + 3) = more := by
      rw [split, List.drop_append_of_le_length (by simp)]
      simp
    rw [whole]
    exact (tail ▸ ih).mark some_char free

end ListQuery.Sql
