import ListQuery.Join.ActivityLog
import ListQuery.Proofs.Join.Key
import ListQuery.Proofs.Join.Trace
/-!
Where the conditions of joins reach. Every join is tied to the main table or to a join in front of
it. One hop keeps this, walks and lists of walks keep it, and it is not lost when a later join under
a name that is there already is left out.
-/
namespace ListQuery

/-- Joins under their names, each tied by a relationship to a known name or to one before it. -/
inductive Scoped (reach : Relationship → Prop) : List String → List (String × Join) → Prop
  | nil {known : List String} : Scoped reach known []
  | cons {known : List String} {origin key : String} {j : Join} {rest : List (String × Join)}
      {rel : Relationship} (reached : reach rel) (here : origin ∈ known)
      (named : j.key? = some key) (ties : rel.Ties origin key j)
      (later : Scoped reach (key :: known) rest) : Scoped reach known ((key, j) :: rest)

namespace Scoped

variable {reach : Relationship → Prop} {known : List String} {entries : List (String × Join)}

theorem mono (tied : Scoped reach known entries) {names : List String} (more : known ⊆ names) :
    Scoped reach names entries := by
  induction tied generalizing names with
  | nil => exact .nil
  | cons reached here named ties _ ih =>
    exact .cons reached (more here) named ties (ih (List.cons_subset_cons _ more))

theorem append {xs ys : List (String × Join)} (first : Scoped reach known xs)
    (second : Scoped reach (xs.map (·.1) ++ known) ys) : Scoped reach known (xs ++ ys) := by
  induction first with
  | nil => exact second
  | cons reached here named ties _ ih =>
    refine .cons reached here named ties (ih (second.mono ?_))
    intro name inside
    simp only [List.map_cons, List.cons_append, List.mem_cons, List.mem_append] at inside ⊢
    tauto

theorem flatten {walks : List (List (String × Join))}
    (each : ∀ keyed ∈ walks, Scoped reach known keyed) : Scoped reach known walks.flatten := by
  induction walks with
  | nil => exact .nil
  | cons first rest ih =>
    rw [List.forall_mem_cons] at each
    rw [List.flatten_cons]
    apply each.1.append
    exact (ih each.2).mono (List.subset_append_right _ _)

/-- Joins under a known name can be left out. -/
theorem without (tied : Scoped reach known entries) {name : String} (member : name ∈ known) :
    Scoped reach known (entries.filter fun e => e.1 ≠ name) := by
  induction tied with
  | nil => exact .nil
  | @cons known origin key j rest rel reached here named ties _ ih =>
    have inner := ih (List.mem_cons_of_mem _ member)
    by_cases same : key = name
    · subst same
      rw [List.filter_cons_of_neg (by simp)]
      exact inner.mono (List.cons_subset.mpr ⟨member, List.Subset.refl _⟩)
    · rw [List.filter_cons_of_pos (by simpa using same)]
      exact .cons reached here named ties inner

theorem firstByKey (tied : Scoped reach known entries) :
    Scoped reach known (firstByKey entries) := by
  induction tied with
  | nil => exact .nil
  | cons reached here named ties _ ih =>
    exact .cons reached here named ties (ih.without List.mem_cons_self)

end Scoped

section
variable {reach : Relationship → Prop} {known : List String}

/-- The joins of one hop: all of them have names, and the last name is what the hop leads to. -/
theorem Relationship.Leads.exists_scoped {rel : Relationship} {origin reference : String}
    {joins : List Join} (leads : rel.Leads origin joins reference) (reached : reach rel)
    (here : origin ∈ known) : ∃ keyed, joins.mapM keyedJoin = .ok keyed ∧
      Scoped reach known keyed ∧ reference ∈ keyed.map (·.1) ++ known := by
  induction leads generalizing known with
  | done => exact ⟨[], rfl, .nil, here⟩
  | @join origin key reference j rest named ties _ ih =>
    have first : keyedJoin j = .ok (key, j) := keyedJoin_eq_ok_iff.mpr ⟨rfl, named⟩
    have onward : key ∈ key :: known := List.mem_cons_self
    obtain ⟨keyed, run, tied, ends⟩ := ih onward
    refine ⟨(key, j) :: keyed, ?_, .cons reached here named ties tied, ?_⟩
    · rw [List.mapM_cons, first, run]
      rfl
    · simp only [List.map_cons, List.cons_append, List.mem_cons, List.mem_append] at ends ⊢
      tauto

variable {graph : Option Graph} {o : Options} (named : ∀ rel, reach rel → rel.IsNamed)
include named

theorem Registry.Walked.tied {r : Registry} {parent : String} {followed path : List String}
    {keyed : List (String × Join)} (walked : Walked graph o r parent followed path keyed)
    (reached : ∀ rel, r.Reaches graph rel → reach rel) (here : parent ∈ known) :
    Scoped reach known keyed := by
  induction walked generalizing known with
  | ended | unknown _ | nowhere _ _ => exact .nil
  | stopped found joined run _ =>
    have own := reached _ (reaches_of_get? found)
    obtain ⟨keyed, again, tied, _⟩ :=
      (Relationship.leads_of_hop? (named _ own) joined).exists_scoped own here
    rw [run] at again
    cases again
    exact tied
  | onward found joined run leads _ ih =>
    have own := reached _ (reaches_of_get? found)
    obtain ⟨keyed, again, tied, ends⟩ :=
      (Relationship.leads_of_hop? (named _ own) joined).exists_scoped own here
    rw [run] at again
    cases again
    exact tied.append (ih (fun rel next => reached rel (reaches_of_next? leads next)) ends)

end

end ListQuery
