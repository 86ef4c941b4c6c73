import ListQuery.Distinct
import ListQuery.OrderedMap
/-!
What inserting does to the entries of a map. No entry comes in but the new one, a key that was not
there comes last, and a map is made again from its entries in order. After any number of entries the
keys stand in the order in which they first came, and each has the value that came last.
-/
namespace ListQuery

section
variable {α : Type} {key : String} {value : α} {entries : List (String × α)}

theorem mem_of_mem_insertEntry {e : String × α} (h : e ∈ insertEntry key value entries) :
    e = (key, value) ∨ e ∈ entries := by
  induction entries with
  | nil => exact .inl (List.mem_singleton.mp h)
  | cons entry rest ih =>
    rw [insertEntry] at h
    split at h
    · rcases List.mem_cons.mp h with new | later
      · exact .inl new
      · exact .inr (List.mem_cons_of_mem _ later)
    · rcases List.mem_cons.mp h with rfl | later
      · exact .inr List.mem_cons_self
      · exact (ih later).imp_right (List.mem_cons_of_mem _)

theorem forall_mem_insertEntry {P : α → Prop} (new : P value) (old : ∀ e ∈ entries, P e.2) :
    ∀ e ∈ insertEntry key value entries, P e.2 := by
  intro e member
  rcases mem_of_mem_insertEntry member with rfl | before
  · exact new
  · exact old e before

theorem insertEntry_of_fresh (fresh : key ∉ entries.map Prod.fst) :
    insertEntry key value entries = entries ++ [(key, value)] := by
  induction entries with
  | nil => rfl
  | cons entry rest ih =>
    rw [List.map_cons, List.mem_cons, not_or] at fresh
    rw [insertEntry, if_neg (Ne.symm fresh.1), ih fresh.2, List.cons_append]

theorem lookup_cons_eq_ite (asked : String) : ((key, value) :: entries).lookup asked =
    if asked = key then some value else entries.lookup asked := by
  rw [List.lookup_cons]
  by_cases same : asked = key
  · rw [if_pos same, beq_iff_eq.mpr same]
  · rw [if_neg same, beq_false_of_ne same]

theorem lookup_insertEntry (asked : String) : (insertEntry key value entries).lookup asked =
    if asked = key then some value else entries.lookup asked := by
  induction entries with
  | nil => exact lookup_cons_eq_ite asked
  | cons entry rest ih =>
    obtain ⟨first, old⟩ := entry
    rw [insertEntry, lookup_cons_eq_ite]
    by_cases there : first = key
    · rw [if_pos there, lookup_cons_eq_ite, there]
      by_cases same : asked = key <;> simp only [same, if_true, if_false]
    · rw [if_neg there, lookup_cons_eq_ite, ih]
      by_cases same : asked = first
      · have other : asked ≠ key := same ▸ there
        rw [if_pos same, if_neg other, if_pos same]
      · rw [if_neg same, if_neg same]

end

namespace OrderedMap

variable {α β : Type}

theorem eq_of_entries_eq {m n : OrderedMap α} (same : m.entries = n.entries) : m = n := by
  cases m
  cases n
  cases same
  rfl

theorem entries_foldl_insert {m : OrderedMap α} {more : List (String × α)}
    (nodup : ((m.entries ++ more).map Prod.fst).Nodup) :
    (more.foldl (fun m e => m.insert e.1 e.2) m).entries = m.entries ++ more := by
  induction more generalizing m with
  | nil => rw [List.foldl_nil, List.append_nil]
  | cons e rest ih =>
    have fresh : e.1 ∉ m.entries.map Prod.fst := by
      rw [List.map_append, List.nodup_append] at nodup
      exact fun old => nodup.2.2 _ old _ List.mem_cons_self rfl
    have longer : (m.insert e.1 e.2).entries = m.entries ++ [e] := insertEntry_of_fresh fresh
    rw [List.append_cons, ← longer] at nodup
    rw [List.foldl_cons, ih nodup, longer, ← List.append_cons]

theorem get?_foldl_insert {m : OrderedMap α} {more : List (String × α)} (asked : String) :
    (more.foldl (fun m e => m.insert e.1 e.2) m).get? asked =
      (more.reverse.lookup asked).or (m.get? asked) := by
  induction more generalizing m with
  | nil => rfl
  | cons e rest ih =>
    have later : (m.insert e.1 e.2).get? asked = ([e].lookup asked).or (m.get? asked) := by
      rw [get?, entries_insert, lookup_insertEntry, get?, lookup_cons_eq_ite]
      by_cases same : asked = e.1
      · rw [if_pos same, if_pos same, Option.some_or]
      · rw [if_neg same, if_neg same, List.lookup_nil, Option.none_or]
    rw [List.foldl_cons, ih, List.reverse_cons, List.lookup_append, Option.or_assoc, later]

theorem keys_foldl_insert {m : OrderedMap α} {more : List (String × α)} :
    (more.foldl (fun m e => m.insert e.1 e.2) m).keys =
      m.keys ++ (distinct (more.map (·.1))).filter fun key => key ∉ m.keys := by
  induction more generalizing m with
  | nil => exact (List.append_nil _).symm
  | cons e rest ih =>
    rw [List.foldl_cons, ih, keys_insert, List.map_cons, distinct, List.filter_cons,
      List.filter_filter]
    by_cases known : e.1 ∈ m.keys
    · have other : ∀ key ∈ distinct (rest.map (·.1)),
          decide (key ∉ m.keys) = (decide (key ∉ m.keys) && decide (key ≠ e.1)) := by
        intro key _
        by_cases same : key = e.1 <;> simp [same, known]
      rw [if_pos known, if_neg (by simpa using known), List.filter_congr other]
    · have other : ∀ key ∈ distinct (rest.map (·.1)),
          decide (key ∉ m.keys ++ [e.1]) = (decide (key ∉ m.keys) && decide (key ≠ e.1)) := by
        intro key _
        simp
      rw [if_neg known, if_pos (by simpa using known), List.filter_congr other,
        List.append_assoc, List.singleton_append]

theorem mem_of_mem_foldl_insert {m : OrderedMap α} {more : List (String × α)} {e : String × α}
    (h : e ∈ (more.foldl (fun m e => m.insert e.1 e.2) m).entries) : e ∈ more ∨ e ∈ m.entries := by
  induction more generalizing m with
  | nil => exact .inr h
  | cons first rest ih =>
    rcases ih h with later | before
    · exact .inl (List.mem_cons_of_mem _ later)
    · rcases mem_of_mem_insertEntry before with rfl | old
      · exact .inl List.mem_cons_self
      · exact .inr old

theorem mem_of_mem_ofList {entries : List (String × α)} {e : String × α}
    (h : e ∈ (ofList entries).entries) : e ∈ entries :=
  (mem_of_mem_foldl_insert h).resolve_right List.not_mem_nil

/-- The value of a key is the one that was entered last. -/
theorem get?_ofList (entries : List (String × α)) (asked : String) :
    (ofList entries).get? asked = entries.reverse.lookup asked := by
  rw [ofList, get?_foldl_insert]
  exact Option.or_none

/-- The keys stand in the order in which they were first entered. -/
theorem keys_ofList (entries : List (String × α)) :
    (ofList entries).keys = distinct (entries.map (·.1)) := by
  rw [ofList, keys_foldl_insert]
  exact List.filter_eq_self.mpr fun _ _ => rfl

/-- A map is made again from its entries. -/
theorem ofList_entries (m : OrderedMap α) : ofList m.entries = m :=
  eq_of_entries_eq (entries_foldl_insert m.nodup)

/-- The same keys with other values. -/
def map (f : α → β) (m : OrderedMap α) : OrderedMap β :=
  ⟨m.entries.map fun e => (e.1, f e.2), by
    rw [List.map_map]
    exact m.nodup⟩

theorem entries_map (f : α → β) (m : OrderedMap α) :
    (m.map f).entries = m.entries.map fun e => (e.1, f e.2) := rfl

end OrderedMap

end ListQuery
