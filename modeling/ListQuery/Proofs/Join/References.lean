import ListQuery.Join.ActivityLog
import ListQuery.Proofs.Join.Agreement
import ListQuery.Proofs.Join.Kept
import Mathlib.Data.List.Infix
/-!
References in another order, and further references. The names that tables are joined under depend
on which paths a description refers to and not on their order, and paths that come later leave the
joins of the earlier ones where they are.
-/
namespace ListQuery

open Column

section
variable {graph : Option Graph} {o : Options} {r : Registry}

/-- A name is joined exactly when the walk along one of the paths joins it. -/
theorem Registry.exists_key_iff {joins : List Join} (built : r.joins graph o = .ok joins)
    {key : String} : (∃ j ∈ joins, j.key? = some key) ↔
      ∃ p ∈ o.paths, ∃ keyed, r.walkPath graph o p = .ok keyed ∧ ∃ e ∈ keyed, e.1 = key := by
  constructor
  · rintro ⟨j, listed, named⟩
    obtain ⟨walks, runs, rfl⟩ := joins_eq_ok_iff.mp built
    obtain ⟨e, kept, rfl⟩ := List.mem_map.mp listed
    have inside := mem_of_mem_firstByKey kept
    rw [key?_of_walks runs e inside] at named
    obtain ⟨keyed, walked, member⟩ := List.mem_flatten.mp inside
    obtain ⟨p, asked, ran⟩ := forall_mem_of_mapM (mapM_eq_ok_iff.mpr runs)
      (P := fun keyed => ∃ p ∈ o.paths, r.walkPath graph o p = .ok keyed)
      (fun p asked _ ran => ⟨p, asked, ran⟩) keyed walked
    exact ⟨p, asked, keyed, ran, e, member, Option.some.inj named⟩
  · rintro ⟨p, asked, keyed, ran, e, inside, rfl⟩
    exact exists_join_of_walk built asked ran inside

end

section
variable {graph : Option Graph} {r : Registry} {o u : Options}
  (same : r.walkPath graph o = r.walkPath graph u)
include same

theorem Registry.ownJoins_congr (p : String) : r.ownJoins graph o p = r.ownJoins graph u p := by
  rw [ownJoins, ownJoins, same]

/-- The same paths, in whatever order, are joined under the same names. -/
theorem Registry.keys_of_same_paths (paths : ∀ p, p ∈ o.paths ↔ p ∈ u.paths) {js ks : List Join}
    (first : r.joins graph o = .ok js) (second : r.joins graph u = .ok ks) (key : String) :
    (∃ j ∈ js, j.key? = some key) ↔ ∃ k ∈ ks, k.key? = some key := by
  rw [exists_key_iff first, exists_key_iff second, same]
  simp only [paths]

variable (begins : o.paths <+: u.paths)
include begins

/-- Further paths are joined whenever each of them is. -/
theorem Registry.exists_joins_iff_of_extends : (∃ ks, r.joins graph u = .ok ks) ↔
    (∃ js, r.joins graph o = .ok js) ∧
      ∀ p ∈ u.paths, p ∉ o.paths → ∃ own, r.ownJoins graph u p = .ok own := by
  simp only [exists_joins_iff, ownJoins_congr same]
  constructor
  · intro each
    exact ⟨fun p asked => each p (begins.subset asked), fun p asked _ => each p asked⟩
  · rintro ⟨old, new⟩ p asked
    by_cases known : p ∈ o.paths
    · exact old p known
    · exact new p asked known

/-- Further paths add their joins behind those that are there. -/
theorem Registry.joins_extends {js ks : List Join} (first : r.joins graph o = .ok js)
    (second : r.joins graph u = .ok ks) : js <+: ks := by
  obtain ⟨old, runs, rfl⟩ := joins_eq_ok_iff.mp first
  obtain ⟨all, longer, rfl⟩ := joins_eq_ok_iff.mp second
  rw [same] at runs
  have front : old <+: all :=
    prefix_of_mapM begins (mapM_eq_ok_iff.mpr runs) (mapM_eq_ok_iff.mpr longer)
  exact (firstByKey_extends front.flatten).map _

end

/-- The names that tables are joined under do not depend on the order of the references, and further
references leave the joins as they are and add theirs behind them. -/
theorem Registry.joins_follow_references {graph : Option Graph} {r : Registry} {o u : Options}
    (agree : ∀ column ∈ typeColumns (some r) graph,
      o.filter.get? column = u.filter.get? column) :
    ((∀ p, p ≠ "" →
        ((∃ column ∈ o.columns, path column = p) ↔ ∃ column ∈ u.columns, path column = p)) →
      ((∃ js, r.joins graph o = .ok js) ↔ ∃ ks, r.joins graph u = .ok ks) ∧
        ∀ js ks, r.joins graph o = .ok js → r.joins graph u = .ok ks →
          ∀ key, (∃ j ∈ js, j.key? = some key) ↔ ∃ k ∈ ks, k.key? = some key) ∧
    (o.paths <+: u.paths →
      ((∃ ks, r.joins graph u = .ok ks) ↔ (∃ js, r.joins graph o = .ok js) ∧
          ∀ p ∈ u.paths, p ∉ o.paths → ∃ own, r.ownJoins graph u p = .ok own) ∧
        ∀ js ks, r.joins graph o = .ok js → r.joins graph u = .ok ks → js <+: ks) := by
  have listed : r ∈ (some r).toList ++ graph.elim [] Graph.registries := List.mem_cons_self
  have same := walkPath_congr (Graph.agree_of_typeColumns agree)
    (agree_of_typeColumns agree listed)
  constructor
  · intro references
    have paths : ∀ p, p ∈ o.paths ↔ p ∈ u.paths := by
      intro p
      rw [Options.mem_paths, Options.mem_paths]
      exact and_congr_right (references p)
    refine ⟨?_, fun js ks first second => keys_of_same_paths same paths first second⟩
    simp only [exists_joins_iff, ownJoins_congr same, paths]
  · intro begins
    exact ⟨exists_joins_iff_of_extends same begins, fun js ks => joins_extends same begins⟩

theorem Registry.joins_follow_references_for_comments :
    let o : Options := { Options.default with
      filter := .ofList [("commentable_type", .text "Activity")]
      search := .ofList [("commentable.tags.name", .text "run"),
        ("commentable.users.name", .text "Ann")] }
    let u : Options := { Options.default with
      filter := .ofList [("commentable_type", .text "Activity")]
      filterOr := .ofList [("commentable.users.email", .null)]
      search := .ofList [("commentable.tags.name", .text "ride"),
        ("commentable.users.name", .text "Bob")] }
    let v : Options := { o with order := [⟨"commentable.tags.parent.name", "ASC"⟩] }
    let joins := ActivityLog.comments.joins (some ActivityLog.graph)
    ∃ js ks vs, joins o = .ok js ∧ joins u = .ok ks ∧ joins v = .ok vs ∧ js ≠ ks ∧
      (∀ key, (∃ j ∈ js, j.key? = some key) ↔ ∃ k ∈ ks, k.key? = some key) ∧ js <+: vs := by
  intro o u v joins
  have o_names : (joins o).map (·.map Join.key?) =
      .ok [some "activities", some "activity_tags", some "tags", some "users"] := by decide +kernel
  have u_names : (joins u).map (·.map Join.key?) =
      .ok [some "activities", some "users", some "activity_tags", some "tags"] := by decide +kernel
  have v_names : (joins v).map (·.map Join.key?) = .ok [some "activities", some "activity_tags",
      some "tags", some "users", some "parent_tags"] := by decide +kernel
  obtain ⟨js, first, js_names⟩ := map_eq_ok_iff.mp o_names
  obtain ⟨ks, second, ks_names⟩ := map_eq_ok_iff.mp u_names
  obtain ⟨vs, third, _⟩ := map_eq_ok_iff.mp v_names
  have o_paths : o.paths = ["commentable.tags", "commentable.users"] := by decide +kernel
  have u_paths : u.paths = ["commentable.users", "commentable.tags"] := by decide +kernel
  have references : ∀ p, p ≠ "" →
      ((∃ column ∈ o.columns, path column = p) ↔ ∃ column ∈ u.columns, path column = p) := by
    intro p dotted
    have paths : p ∈ o.paths ↔ p ∈ u.paths := by
      rw [o_paths, u_paths, List.mem_pair, List.mem_pair, or_comm]
    rwa [Options.mem_paths, Options.mem_paths, and_iff_right dotted, and_iff_right dotted] at paths
  have begins : o.paths <+: v.paths := ⟨["commentable.tags.parent"], by decide +kernel⟩
  have u_agrees : ∀ column ∈ typeColumns (some ActivityLog.comments) (some ActivityLog.graph),
      o.filter.get? column = u.filter.get? column := fun _ _ => rfl
  have v_agrees : ∀ column ∈ typeColumns (some ActivityLog.comments) (some ActivityLog.graph),
      o.filter.get? column = v.filter.get? column := fun _ _ => rfl
  have reordered := (joins_follow_references u_agrees).1 references
  have extended := (joins_follow_references v_agrees).2 begins
  refine ⟨js, ks, vs, first, second, third, ?_, reordered.2 js ks first second,
    extended.2 js vs first third⟩
  rintro rfl
  rw [js_names] at ks_names
  exact absurd ks_names (by decide)

end ListQuery
