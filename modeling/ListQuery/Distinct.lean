/-!
First occurrences. Of equal names, or of entries under equal names, the first one is kept; the rest
keep their order.
-/
namespace ListQuery

/-- The first entry of each key, in order. -/
def firstByKey {α : Type} : List (String × α) → List (String × α)
  | [] => []
  | entry :: rest => entry :: (firstByKey rest).filter fun later => later.1 ≠ entry.1

/-- The first occurrence of each name, in order. -/
def distinct : List String → List String
  | [] => []
  | name :: rest => name :: (distinct rest).filter fun later => later ≠ name

/-- The first name that was seen before. -/
def firstRepeat? (seen : List String) : List String → Option String
  | [] => none
  | name :: rest => if name ∈ seen then some name else firstRepeat? (name :: seen) rest

theorem nodup_of_firstRepeat? {seen names : List String} (h : firstRepeat? seen names = none) :
    names.Nodup ∧ ∀ name ∈ names, name ∉ seen := by
  induction names generalizing seen with
  | nil => simp
  | cons name rest ih =>
    unfold firstRepeat? at h
    split at h
    · cases h
    · next unseen =>
      have inner := ih h
      refine ⟨List.nodup_cons.mpr ⟨fun inside => ?_, inner.1⟩, ?_⟩
      · exact inner.2 name inside (List.mem_cons_self ..)
      · intro other member
        rcases List.mem_cons.mp member with rfl | member
        · exact unseen
        · exact fun earlier => inner.2 other member (List.mem_cons_of_mem _ earlier)

example : firstByKey [("a", 1), ("b", 2), ("a", 3)] = [("a", 1), ("b", 2)] := by decide
example : firstRepeat? [] ["a", "b", "a", "b"] = some "a" := by decide

end ListQuery
