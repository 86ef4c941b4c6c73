import ListQuery.Distinct
import Mathlib.Data.List.Forall2
import Mathlib.Data.List.Nodup
/-!
What keeping first occurrences keeps. Every key of the entries still has one entry, namely the first
one, and of two lists of entries the second one adds only keys that the first one lacks.
-/
namespace ListQuery

theorem mem_distinct {name : String} {names : List String} :
    name ∈ distinct names ↔ name ∈ names := by
  induction names with
  | nil => rfl
  | cons first rest ih =>
    rw [distinct, List.mem_cons, List.mem_cons, List.mem_filter, ih]
    by_cases same : name = first <;> simp [same]

section
variable {α : Type} {entries : List (String × α)} {e : String × α}

theorem mem_of_mem_firstByKey (h : e ∈ firstByKey entries) : e ∈ entries := by
  induction entries with
  | nil => exact h
  | cons entry rest ih =>
    rcases List.mem_cons.mp h with rfl | later
    · exact List.mem_cons_self
    · exact List.mem_cons_of_mem _ (ih (List.mem_filter.mp later).1)

/-- Every key keeps an entry. -/
theorem exists_mem_firstByKey (h : e ∈ entries) : ∃ kept ∈ firstByKey entries, kept.1 = e.1 := by
  induction entries with
  | nil => cases h
  | cons entry rest ih =>
    by_cases same : e.1 = entry.1
    · exact ⟨entry, List.mem_cons_self, same.symm⟩
    · have later : e ∈ rest := (List.mem_cons.mp h).resolve_left fun equal => same (by rw [equal])
      obtain ⟨kept, member, key⟩ := ih later
      refine ⟨kept, List.mem_cons_of_mem _ (List.mem_filter.mpr ⟨member, ?_⟩), key⟩
      rw [key]
      exact decide_eq_true same

/-- No key keeps two entries. -/
theorem nodup_keys_firstByKey (entries : List (String × α)) :
    ((firstByKey entries).map (·.1)).Nodup := by
  induction entries with
  | nil => exact List.nodup_nil
  | cons entry rest ih =>
    rw [firstByKey, List.map_cons, List.nodup_cons]
    constructor
    · intro again
      obtain ⟨later, inside, same⟩ := List.mem_map.mp again
      exact of_decide_eq_true (List.mem_filter.mp inside).2 same
    · exact ih.sublist (List.filter_sublist.map _)

/-- What is kept of a list that goes on: later entries count only under keys that were not there. -/
theorem firstByKey_append (xs ys : List (String × α)) : firstByKey (xs ++ ys) =
    firstByKey xs ++ (firstByKey ys).filter fun e => e.1 ∉ xs.map (·.1) := by
  induction xs with
  | nil => simp [firstByKey]
  | cons entry rest ih =>
    have both : ∀ e ∈ firstByKey ys, (decide (e.1 ≠ entry.1) && decide (e.1 ∉ rest.map (·.1))) =
        decide (e.1 ∉ (entry :: rest).map (·.1)) := by
      intro e _
      rw [← Bool.decide_and, decide_eq_decide, List.map_cons, List.mem_cons, not_or]
    rw [List.cons_append, firstByKey, firstByKey, ih, List.filter_append, List.filter_filter,
      List.filter_congr both, List.cons_append]

theorem mem_firstByKey_append {xs ys : List (String × α)} : e ∈ firstByKey (xs ++ ys) ↔
    e ∈ firstByKey xs ∨ ((∀ x ∈ xs, x.1 ≠ e.1) ∧ e ∈ firstByKey ys) := by
  have fresh : e.1 ∉ xs.map (·.1) ↔ ∀ x ∈ xs, x.1 ≠ e.1 := by
    simp only [List.mem_map, not_exists, not_and, ne_eq]
  rw [firstByKey_append, List.mem_append, List.mem_filter, and_comm, decide_eq_true_iff, fresh]

/-- A list that goes on keeps what its beginning keeps. -/
theorem firstByKey_extends {xs ys : List (String × α)} (goes_on : xs <+: ys) :
    firstByKey xs <+: firstByKey ys := by
  obtain ⟨more, rfl⟩ := goes_on
  rw [firstByKey_append]
  exact List.prefix_append _ _

theorem firstByKey_map {β : Type} (f : α → β) (entries : List (String × α)) :
    firstByKey (entries.map fun e => (e.1, f e.2)) =
      (firstByKey entries).map fun e => (e.1, f e.2) := by
  induction entries with
  | nil => rfl
  | cons entry rest ih =>
    rw [List.map_cons, firstByKey, firstByKey, ih, List.filter_map, List.map_cons]
    rfl

/-- Leaving out keys does not change which entries of the other keys are kept. -/
theorem firstByKey_filter (p : String → Bool) (entries : List (String × α)) :
    firstByKey (entries.filter fun e => p e.1) = (firstByKey entries).filter fun e => p e.1 := by
  induction entries with
  | nil => rfl
  | cons entry rest ih =>
    by_cases kept : p entry.1 = true
    · rw [firstByKey, List.filter_cons, List.filter_cons, if_pos kept, if_pos kept, firstByKey, ih,
        List.filter_filter, List.filter_filter]
      simp only [Bool.and_comm]
    · -- the entries that are passed over because of this one are left out anyway
      have differs : ∀ e ∈ firstByKey rest, p e.1 = (p e.1 && decide (e.1 ≠ entry.1)) := by
        intro e _
        by_cases same : e.1 = entry.1
        · simp [same, kept]
        · simp [same]
      rw [firstByKey, List.filter_cons, List.filter_cons, if_neg kept, if_neg kept, ih,
        List.filter_filter, List.filter_congr differs]

/-- Distinct keys are all kept. -/
theorem firstByKey_of_nodup (nodup : (entries.map (·.1)).Nodup) : firstByKey entries = entries := by
  induction entries with
  | nil => rfl
  | cons entry rest ih =>
    obtain ⟨fresh, nodup⟩ := List.nodup_cons.mp nodup
    have kept : ∀ later ∈ rest, decide (later.1 ≠ entry.1) = true := fun later inside =>
      decide_eq_true fun same => fresh (List.mem_map.mpr ⟨later, inside, same⟩)
    rw [firstByKey, ih nodup, List.filter_eq_self.mpr kept]

theorem range_append_filter (n m : Nat) :
    List.range n ++ (List.range m).filter (fun i => ¬i < n) = List.range (max n m) := by
  rcases Nat.le_total m n with short | long
  · have none_left : (List.range m).filter (fun i => ¬i < n) = [] :=
      List.filter_eq_nil_iff.mpr fun i inside => by
        have below := List.mem_range.mp inside
        simpa using Nat.lt_of_lt_of_le below short
    rw [none_left, List.append_nil, Nat.max_eq_left short]
  · obtain ⟨d, rfl⟩ := Nat.exists_eq_add_of_le long
    have passed : (List.range n).filter (fun i => ¬i < n) = [] :=
      List.filter_eq_nil_iff.mpr fun i inside => by simpa using List.mem_range.mp inside
    have kept : ((List.range d).map (n + ·)).filter (fun i => ¬i < n) =
        (List.range d).map (n + ·) :=
      List.filter_eq_self.mpr fun i inside => by
        obtain ⟨j, _, rfl⟩ := List.mem_map.mp inside
        simp
    rw [List.range_add, List.filter_append, passed, kept, List.nil_append,
      Nat.max_eq_right long, List.range_add]

/-- Of several beginnings of one sequence with distinct keys the longest one is kept. -/
theorem firstByKey_flatten_ranges {entry : Nat → String × α}
    (distinct_keys : ∀ i j, (entry i).1 = (entry j).1 → i = j) (sizes : List Nat) :
    firstByKey ((sizes.map fun n => (List.range n).map entry).flatten) =
      (List.range (sizes.foldr max 0)).map entry := by
  induction sizes with
  | nil => rfl
  | cons n rest ih =>
    have nodup : (((List.range n).map entry).map (·.1)).Nodup := by
      rw [List.map_map]
      exact List.nodup_range.map fun i j => distinct_keys i j
    have listed (i : Nat) : (entry i).1 ∈ ((List.range n).map entry).map (·.1) ↔ i < n := by
      simp only [List.map_map, List.mem_map, List.mem_range, Function.comp_apply]
      constructor
      · rintro ⟨j, inside, same⟩
        exact distinct_keys j i same ▸ inside
      · exact fun inside => ⟨i, inside, rfl⟩
    rw [List.map_cons, List.flatten_cons, firstByKey_append, ih, firstByKey_of_nodup nodup,
      List.foldr_cons, List.filter_map]
    simp only [Function.comp_def, listed]
    rw [← List.map_append, range_append_filter]

/-- The entry of a list with distinct keys under its key. -/
theorem filter_eq_singleton_of_nodup (nodup : (entries.map (·.1)).Nodup) (member : e ∈ entries) :
    (entries.filter fun x => x.1 = e.1) = [e] := by
  induction entries with
  | nil => cases member
  | cons entry rest ih =>
    obtain ⟨fresh, nodup⟩ := List.nodup_cons.mp nodup
    have differs : ∀ x ∈ rest, x.1 ≠ entry.1 := fun x inside same =>
      fresh (List.mem_map.mpr ⟨x, inside, same⟩)
    rcases List.mem_cons.mp member with rfl | later
    · have none_later : (rest.filter fun x => x.1 = e.1) = [] :=
        List.filter_eq_nil_iff.mpr fun x inside => by simpa using differs x inside
      simp [none_later]
    · have other : entry.1 ≠ e.1 := (differs e later).symm
      simp [other, ih nodup later]

/-- In front of a kept entry the list has no other keys than those that are kept in front of it. -/
theorem exists_split_of_firstByKey {before after : List (String × α)}
    (split : firstByKey entries = before ++ e :: after) :
    ∃ front back, entries = front ++ e :: back ∧ ∀ x ∈ front, ∃ kept ∈ before, kept.1 = x.1 := by
  induction entries generalizing before after with
  | nil => exact absurd split.symm (by simp [firstByKey])
  | cons entry rest ih =>
    rw [firstByKey] at split
    cases before with
    | nil =>
      cases split
      exact ⟨[], rest, rfl, nofun⟩
    | cons first before =>
      rw [List.cons_append] at split
      obtain ⟨rfl, kept_later⟩ := List.cons_eq_cons.mp split
      obtain ⟨near, later, parts, rfl, rest_kept⟩ := List.filter_eq_append_iff.mp kept_later
      obtain ⟨dropped, far, rfl, equal, _, _⟩ := List.filter_eq_cons_iff.mp rest_kept
      rw [← List.append_assoc] at parts
      obtain ⟨front, back, rfl, kept⟩ := ih parts
      refine ⟨entry :: front, back, rfl, List.forall_mem_cons.mpr ⟨⟨entry, List.mem_cons_self, rfl⟩,
        fun x inside => ?_⟩⟩
      obtain ⟨y, member, same⟩ := kept x inside
      by_cases head : y.1 = entry.1
      · exact ⟨entry, List.mem_cons_self, head.symm.trans same⟩
      · rcases List.mem_append.mp member with there | there
        · exact ⟨y, List.mem_cons_of_mem _ (List.mem_filter.mpr ⟨there, decide_eq_true head⟩), same⟩
        · exact absurd (decide_eq_true head) (equal y there)

end

/-- A place in several lists together is a place in one of them. -/
theorem exists_split_of_flatten {α : Type} {lists : List (List α)} {before after : List α} {e : α}
    (split : lists.flatten = before ++ e :: after) :
    ∃ own ∈ lists, ∃ front back, own = front ++ e :: back ∧ front ⊆ before := by
  induction lists generalizing before with
  | nil => exact absurd split.symm (by simp)
  | cons first rest ih =>
    rw [List.flatten_cons] at split
    rcases List.append_eq_append_iff.mp split with ⟨near, rfl, later⟩ | ⟨near, parts, later⟩
    · obtain ⟨own, listed, front, back, rfl, inside⟩ := ih later
      exact ⟨_, List.mem_cons_of_mem _ listed, front, back, rfl, fun x there =>
        List.mem_append_right _ (inside there)⟩
    · cases near with
      | nil =>
        have start : rest.flatten = [] ++ e :: after := later.symm
        obtain ⟨own, listed, front, back, rfl, inside⟩ := ih start
        exact ⟨_, List.mem_cons_of_mem _ listed, front, back, rfl, fun x there =>
          absurd (inside there) List.not_mem_nil⟩
      | cons x near =>
        cases later
        exact ⟨first, List.mem_cons_self, before, near, parts, List.Subset.refl _⟩

end ListQuery
