/-!
Maps that remember the order of first insertion. A key that is inserted again keeps its place and
takes the new value, so the keys are always distinct.
-/
namespace ListQuery

/-- Replaces the value of a key at its place, or adds the key at the end. -/
def insertEntry {α : Type} (key : String) (value : α) : List (String × α) → List (String × α)
  | [] => [(key, value)]
  | entry :: rest =>
    if entry.1 = key then (key, value) :: rest else entry :: insertEntry key value rest

theorem map_fst_insertEntry {α : Type} (key : String) (value : α) (entries : List (String × α)) :
    (insertEntry key value entries).map Prod.fst =
      if key ∈ entries.map Prod.fst then entries.map Prod.fst
      else entries.map Prod.fst ++ [key] := by
  induction entries with
  | nil => simp [insertEntry]
  | cons entry rest ih =>
    by_cases h : entry.1 = key
    · simp [insertEntry, h]
    · have h' : ¬key = entry.1 := fun e => h e.symm
      simp only [insertEntry, h, if_false, List.map_cons, ih, List.mem_cons, h', false_or]
      split <;> simp

theorem nodup_insertEntry {α : Type} (key : String) (value : α) {entries : List (String × α)}
    (h : (entries.map Prod.fst).Nodup) :
    ((insertEntry key value entries).map Prod.fst).Nodup := by
  rw [map_fst_insertEntry]
  split
  · exact h
  · next absent =>
    rw [List.nodup_append]
    refine ⟨h, by simp, ?_⟩
    intro a ha b hb
    have : b = key := by simpa using hb
    rintro rfl
    exact absent (this ▸ ha)

structure OrderedMap (α : Type) where
  entries : List (String × α)
  nodup : (entries.map Prod.fst).Nodup
  deriving DecidableEq, Repr

namespace OrderedMap

def empty {α : Type} : OrderedMap α := ⟨[], List.nodup_nil⟩

def insert {α : Type} (m : OrderedMap α) (key : String) (value : α) : OrderedMap α :=
  ⟨insertEntry key value m.entries, nodup_insertEntry key value m.nodup⟩

def ofList {α : Type} (entries : List (String × α)) : OrderedMap α :=
  entries.foldl (fun m e => m.insert e.1 e.2) empty

def keys {α : Type} (m : OrderedMap α) : List String := m.entries.map Prod.fst

def get? {α : Type} (m : OrderedMap α) (key : String) : Option α := m.entries.lookup key

def isEmpty {α : Type} (m : OrderedMap α) : Bool := m.entries.isEmpty

@[simp] theorem entries_empty {α : Type} : (empty : OrderedMap α).entries = [] := rfl

@[simp] theorem entries_insert {α : Type} (m : OrderedMap α) (key : String) (value : α) :
    (m.insert key value).entries = insertEntry key value m.entries := rfl

theorem keys_insert {α : Type} (m : OrderedMap α) (key : String) (value : α) :
    (m.insert key value).keys = if key ∈ m.keys then m.keys else m.keys ++ [key] :=
  map_fst_insertEntry key value m.entries

example : (ofList [("a", 1), ("b", 2), ("a", 3)]).entries = [("a", 3), ("b", 2)] := by decide

end OrderedMap

end ListQuery
