import ListQuery.Proofs.Text.Words
/-!
Trimmed and joined texts. Trimming leaves a text alone that has nothing to drop at its ends, and
what holds of the separator and of every part of a joined text holds of the whole of it.
-/
namespace ListQuery.Text

section
variable {drop : Char → Bool} {s : List Char}

theorem dropWhile_of_head (first : ∀ c ∈ s.head?, drop c = false) : s.dropWhile drop = s := by
  cases s with
  | nil => rfl
  | cons c rest => rw [List.dropWhile_cons, first c rfl, if_neg Bool.false_ne_true]

theorem trimWhere_of_ends (first : ∀ c ∈ s.head?, drop c = false)
    (last : ∀ c ∈ s.getLast?, drop c = false) : trimWhere drop s = s := by
  rw [trimWhere, dropWhile_of_head first, dropWhile_of_head, List.reverse_reverse]
  rwa [List.head?_reverse]

theorem trimWhere_of_all (kept : ∀ c ∈ s, drop c = false) : trimWhere drop s = s :=
  trimWhere_of_ends (fun c first => kept c (List.mem_of_mem_head? first))
    fun c last => kept c (List.mem_of_mem_getLast? last)

theorem trimWhere_sublist (drop : Char → Bool) (s : List Char) : (trimWhere drop s).Sublist s := by
  have back := List.dropWhile_sublist drop (l := (s.dropWhile drop).reverse)
  have front := List.dropWhile_sublist drop (l := s)
  have both := back.reverse
  rw [List.reverse_reverse] at both
  exact both.trans front

/-- One more character to drop at each end makes no difference. -/
theorem trimWhere_between {a b : Char} (opening : drop a = true) (closing : drop b = true)
    (s : List Char) : trimWhere drop (a :: (s ++ [b])) = trimWhere drop s := by
  have last : [b].dropWhile drop = [] := by rw [List.dropWhile_cons, if_pos closing]; rfl
  rw [trimWhere, trimWhere, List.dropWhile_cons, if_pos opening, List.dropWhile_append, last]
  split
  · next none_left => rw [List.isEmpty_iff.mp none_left]
  · rw [List.reverse_append, List.reverse_singleton, List.singleton_append, List.dropWhile_cons,
      if_pos closing]

/-- Of a text with one character to drop at each end, trimming leaves what stands between them. -/
theorem trimWhere_enclosed {a b : Char} (opening : drop a = true) (closing : drop b = true)
    (kept : ∀ c ∈ s, drop c = false) : trimWhere drop (a :: (s ++ [b])) = s := by
  rw [trimWhere_between opening closing, trimWhere_of_all kept]

end

theorem forall_mem_intercalate {α : Type} {P : α → Prop} {separator : List α}
    {groups : List (List α)} (between : ∀ a ∈ separator, P a)
    (inside : ∀ g ∈ groups, ∀ a ∈ g, P a) : ∀ a ∈ separator.intercalate groups, P a := by
  induction groups with
  | nil => exact fun a member => absurd member List.not_mem_nil
  | cons first rest ih =>
    rw [List.forall_mem_cons] at inside
    cases rest with
    | nil =>
      rw [List.intercalate_singleton]
      exact inside.1
    | cons second more =>
      rw [List.intercalate_cons_cons]
      exact List.forall_mem_append.mpr
        ⟨List.forall_mem_append.mpr ⟨inside.1, between⟩, ih inside.2⟩

theorem sublist_intercalate {α : Type} {f : List α → List α} {groups : List (List α)}
    (separator : List α) (smaller : ∀ g ∈ groups, (f g).Sublist g) :
    (separator.intercalate (groups.map f)).Sublist (separator.intercalate groups) := by
  induction groups with
  | nil => exact List.Sublist.refl _
  | cons first rest ih =>
    rw [List.forall_mem_cons] at smaller
    cases rest with
    | nil =>
      rw [List.map_singleton, List.intercalate_singleton, List.intercalate_singleton]
      exact smaller.1
    | cons second more =>
      have later := ih smaller.2
      rw [List.map_cons] at later
      rw [List.map_cons, List.map_cons, List.intercalate_cons_cons, List.intercalate_cons_cons]
      exact (smaller.1.append (List.Sublist.refl separator)).append later

end ListQuery.Text
