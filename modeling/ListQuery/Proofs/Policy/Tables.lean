import ListQuery.Proofs.Column.Folded
import ListQuery.Proofs.Join.ActivityLog
import ListQuery.Proofs.Join.Kept
import ListQuery.Proofs.Policy.Precedence
import ListQuery.Query.Params
/-!
The tables of the columns that a list of activities allows. The policy compares columns without
regard to case, while a registry knows its relationships only as they are written. Every dotted
column that is accepted is one of the tags; it finds its table exactly when some column of the same
description spells the tags as the registry does.
-/
namespace ListQuery

open Column Text

namespace Policy

theorem IsListed.mono {names more : List String} {column : String} (listed : IsListed names column)
    (subset : names ⊆ more) : IsListed more column := by
  obtain ⟨name, member, same⟩ := listed
  exact ⟨name, subset member, same⟩

/-- The columns that a policy lists for some use. -/
def columns (p : Policy) : List String := p.filterColumns ++ p.searchColumns ++ p.orderColumns

/-- Every column of an accepted description is listed for some use. -/
theorem isListed_of_accepted {p : Policy} {o : Options} (accepted : p.rejection? o = none)
    {column : String} (used : column ∈ o.columns) : IsListed p.columns column := by
  have rules := rejection?_eq_none_iff.mp accepted
  have filtered (allowed : allows p.filterColumns column = true) : IsListed p.columns column :=
    (allows_iff_isListed.mp allowed).mono fun name member => by simp [columns, member]
  simp only [Options.columns, List.append_assoc, List.mem_append, List.mem_map] at used
  rcases used with filter | filterOr | ⟨c, member, rfl⟩ | search | ⟨clause, member, rfl⟩
  · exact filtered (rules.filters column (List.mem_append_left _ filter))
  · exact filtered (rules.filters column (List.mem_append_right _ filterOr))
  · exact filtered (rules.conditions c member).column
  · refine (allows_iff_isListed.mp (rules.searches column search)).mono fun name member => ?_
    simp [columns, member]
  · refine (allows_iff_isListed.mp (rules.orders clause member)).mono fun name member => ?_
    simp [columns, member]

end Policy

namespace ActivityLog

/-- A column that is written with the name of the main table or of a joined one, as a database reads
names. -/
def FindsTable (table : String) (joins : List Join) (column : String) : Prop :=
  ∃ qualifier, head? (resolve column) = some qualifier ∧
    (folded qualifier = table ∨ ∃ j ∈ joins, j.key? = some (folded qualifier))

/-- The columns that a list of activities allows are safe names in small letters, and the dotted
ones are those of the tags. -/
theorem columns_activities (maximum : Int) : ∀ name ∈ (Policy.activities maximum).columns,
    IsSafe name ∧ folded name = name ∧
      (isDotted name = true → ∃ last ∈ ["name", "id"], segments name = ["tags", last]) := by
  have listed : ∀ name ∈ (Policy.activities 0).columns, IsSafe name ∧ folded name = name ∧
      (isDotted name = true → ∃ last ∈ ["name", "id"], segments name = ["tags", last]) := by
    decide +kernel
  exact listed

/-- An accepted dotted column has two segments, and the first one is a spelling of the tags. -/
theorem splitOn_of_accepted {maximum : Int} {o : Options}
    (accepted : (Policy.activities maximum).rejection? o = none) {column : String}
    (used : column ∈ o.columns) (dotted : isDotted column = true) :
    ∃ owner last, column.toList.splitOn '.' = [owner, last] ∧
      folded (String.ofList owner) = "tags" := by
  have safe := (Policy.rejection?_eq_none_iff.mp accepted).names column used
  obtain ⟨name, member, same⟩ := Policy.isListed_of_accepted accepted used
  obtain ⟨plain, small, tagged⟩ := columns_activities maximum name member
  have spelled : folded column = name := by rw [← safe.lower_eq, ← same, plain.lower_eq, small]
  obtain ⟨last, _, parts⟩ := tagged (by rw [← spelled, isDotted_folded, dotted])
  rw [← spelled, segments_folded, segments, List.map_map] at parts
  obtain ⟨owner, others, split, first, rest⟩ := List.map_eq_cons_iff.mp parts
  obtain ⟨final, rfl, _⟩ := List.map_eq_singleton_iff.mp rest
  exact ⟨owner, final, split, first⟩

section
variable (o : Options)

theorem walkPath_tags : ∃ near far,
    activities.walkPath none o "tags" = .ok [("activity_tags", near), ("tags", far)] := by
  have keyed {table : String} (known : table ∈ tableNames) (condition : String) :
      keyedJoin ⟨table, condition, none⟩ = .ok (table, ⟨table, condition, none⟩) :=
    keyedJoin_eq_ok_iff.mpr ⟨rfl, key?_of_table known condition⟩
  have parts : segments "tags" = ["tags"] := by decide +kernel
  rw [Registry.walkPath, parts]
  exact ⟨_, _, Registry.walk_of_no_next rfl rfl
    (mapM_eq_ok_iff.mpr (.cons (keyed (by decide) _) (.cons (keyed (by decide) _) .nil))) rfl⟩

/-- Any other spelling of the tags leads nowhere. -/
theorem walkPath_of_other_spelling {spelling : String} (one : segments spelling = [spelling])
    (small : folded spelling = "tags") (other : spelling ≠ "tags") :
    activities.walkPath none o spelling = .ok [] := by
  have not_users : spelling ≠ "users" := by
    rintro rfl
    exact absurd small (by decide +kernel)
  have missing : activities.get? spelling = none := by
    rw [Registry.get?, List.find?_eq_none]
    intro rel member
    rcases List.mem_pair.mp member with rfl | rfl
    · exact fun same => other (beq_iff_eq.mp same).symm
    · exact fun same => not_users (beq_iff_eq.mp same).symm
  rw [Registry.walkPath, one, Registry.walk, missing]

end

section
variable {maximum : Int} {o : Options}
  (accepted : (Policy.activities maximum).rejection? o = none)
include accepted

/-- The walks of an accepted description: the path in small letters finds the tags, and all others
find nothing. -/
theorem exists_walkPath {p : String} (asked : p ∈ o.paths) :
    ∃ keyed, activities.walkPath none o p = .ok keyed ∧ (p ≠ "tags" → keyed = []) := by
  obtain ⟨some_path, column, used, rfl⟩ := Options.mem_paths.mp asked
  obtain ⟨owner, last, parts, small⟩ :=
    splitOn_of_accepted accepted used (isDotted_of_path_ne some_path)
  have owned : column.toList.splitOn '.' = [] ++ [owner, last] := parts
  have one := segments_path_of_owned owned
  rw [path_of_pair parts] at one ⊢
  by_cases same : String.ofList owner = "tags"
  · obtain ⟨near, far, walked⟩ := walkPath_tags o
    rw [same]
    exact ⟨_, walked, fun other => absurd rfl other⟩
  · exact ⟨[], walkPath_of_other_spelling o one small same, fun _ => rfl⟩

/-- The tags are joined exactly for a description that has them as a path. -/
theorem tags_joined_iff {joins : List Join} (built : activities.joins none o = .ok joins) :
    (∃ j ∈ joins, j.key? = some "tags") ↔ "tags" ∈ o.paths := by
  obtain ⟨walks, runs, rfl⟩ := Registry.joins_eq_ok_iff.mp built
  have run := mapM_eq_ok_iff.mpr runs
  constructor
  · rintro ⟨j, joined, key⟩
    obtain ⟨e, kept, rfl⟩ := List.mem_map.mp joined
    obtain ⟨keyed, listed, inside⟩ := List.mem_flatten.mp (mem_of_mem_firstByKey kept)
    refine forall_mem_of_mapM run (P := fun keyed => keyed ≠ [] → "tags" ∈ o.paths) ?_ keyed listed
      (List.ne_nil_of_mem inside)
    intro p asked found walked some_join
    obtain ⟨again, same, empty⟩ := exists_walkPath accepted asked
    rw [walked] at same
    cases same
    by_contra missing
    exact some_join (empty fun equal => missing (equal ▸ asked))
  · intro asked
    obtain ⟨near, far, walked⟩ := walkPath_tags o
    have found : ("tags", far) ∈ walks.flatten :=
      List.mem_flatten.mpr ⟨_, mem_of_mapM run asked walked, by simp⟩
    obtain ⟨kept, first, same⟩ := exists_mem_firstByKey found
    refine ⟨kept.2, List.mem_map_of_mem first, ?_⟩
    rw [Registry.key?_of_walks runs kept (mem_of_mem_firstByKey first), same]

/-- The joins of an accepted description are always found, and a dotted column of it finds its table
exactly when some column spells the tags in small letters. -/
theorem finds_table_iff_tags_in_small_letters :
    ∃ joins, activities.joins none o = .ok joins ∧
      ∀ column ∈ o.columns, isDotted column = true →
        (FindsTable "activities" joins column ↔ ∃ other ∈ o.columns, path other = "tags") := by
  obtain ⟨walks, run⟩ : ∃ walks, o.paths.mapM (activities.walkPath none o) = .ok walks :=
    exists_mapM_eq_ok_iff.mpr fun p asked => by
      obtain ⟨keyed, walked, _⟩ := exists_walkPath accepted asked
      exact ⟨keyed, walked⟩
  have built := Registry.joins_eq_ok_iff.mpr ⟨walks, mapM_eq_ok_iff.mp run, rfl⟩
  refine ⟨_, built, fun column used dotted => ?_⟩
  obtain ⟨owner, last, parts, small⟩ := splitOn_of_accepted accepted used dotted
  have owned : column.toList.splitOn '.' = [] ++ [owner, last] := parts
  have not_main : "tags" ≠ "activities" := by decide
  rw [FindsTable, head?_resolve, owner?_of_owned owned]
  simp only [Option.some_inj, exists_eq_left', small, not_main, false_or]
  rw [tags_joined_iff accepted built, Options.mem_paths]
  exact and_iff_right (by decide)

end

theorem finds_table_iff_tags_in_small_letters_for_two_spellings :
    ∃ o, Options.ofParams [("filter[user_id]", "1"), ("search[Tags.name]", "card"),
        ("search[tags.name]", "run")] = .ok o ∧
      (Policy.activities Policy.defaultMaxPageSize).rejection? o = none ∧
      ∃ joins, activities.joins none o = .ok joins ∧
        ∀ column ∈ o.columns, isDotted column = true →
          (FindsTable "activities" joins column ↔ ∃ other ∈ o.columns, path other = "tags") := by
  obtain ⟨o, parsed, accepted⟩ : ∃ o, Options.ofParams [("filter[user_id]", "1"),
      ("search[Tags.name]", "card"), ("search[tags.name]", "run")] = .ok o ∧
      (Policy.activities Policy.defaultMaxPageSize).rejection? o = none :=
    ⟨_, rfl, by decide +kernel⟩
  exact ⟨o, parsed, accepted, finds_table_iff_tags_in_small_letters accepted⟩

/-- A request that spells the tags with a capital is accepted, and its column has no table. -/
theorem capital_tags_not_joined :
    ∃ o, Options.ofParams [("filter[user_id]", "1"), ("search[Tags.name]", "card")] = .ok o ∧
      (Policy.activities Policy.defaultMaxPageSize).rejection? o = none ∧
      "Tags.name" ∈ o.columns ∧ isDotted "Tags.name" = true ∧
      activities.joins none o = .ok [] ∧ ¬FindsTable "activities" [] "Tags.name" := by
  refine ⟨_, rfl, by decide +kernel, by decide, by decide +kernel, by decide +kernel, ?_⟩
  rintro ⟨qualifier, written, place⟩
  have named : head? (resolve "Tags.name") = some "Tags" := by decide +kernel
  rw [named] at written
  cases written
  rcases place with main | ⟨j, joined, _⟩
  · exact absurd main (by decide +kernel)
  · cases joined

end ActivityLog

end ListQuery
