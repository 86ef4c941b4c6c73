import ListQuery.Join.ActivityLog
import ListQuery.Proofs.Join.Key
import ListQuery.Proofs.Join.Walk
import Mathlib.Tactic.IntervalCases
/-!
The names that the tables of an activity log are joined under. A column is written with the name of
the last relationship on its path; that is the name of the joined table unless a table was joined to
itself or the table was selected by a type.
-/
namespace ListQuery.ActivityLog

open Column Text

def tableNames : List String := ["activity_tags", "tags", "users", "activities"]

def copyNames : List String := ["parent_tags", "parent_tags_2", "parent_tags_3"]

def joinedNames : List String := tableNames ++ copyNames

/-- A table without an alias goes by its own name. -/
theorem key?_of_table {name : String} (h : name ∈ tableNames) (condition : String) :
    (⟨name, condition, none⟩ : Join).key? = some name := by
  have each : ∀ name ∈ tableNames, IsWord name := by decide +kernel
  exact Join.key?_of_isWord (each name h) condition

/-- A copy of a table goes by the name of the copy. -/
theorem key?_of_copy {copy : String} (h : copy ∈ copyNames) (condition : String) :
    (⟨"tags" ++ " AS " ++ copy, condition, some copy⟩ : Join).key? = some copy := by
  have each : ∀ copy ∈ copyNames, IsWord copy := by decide +kernel
  exact Join.key?_of_copy (by decide +kernel) (each copy h) condition

variable (o : Options)

theorem tagsOfActivity_joins : tagsOfActivity.JoinsUnder (· ∈ joinedNames) o := by
  intro parent depth pos
  refine ⟨_, rfl, fun hop same => ?_⟩
  cases same
  refine List.forall_mem_cons.mpr ⟨⟨"activity_tags", key?_of_table (by decide) _, by decide⟩,
    List.forall_mem_singleton.mpr ⟨"tags", key?_of_table (by decide) _, by decide⟩⟩

theorem ownerOfActivity_joins : ownerOfActivity.JoinsUnder (· ∈ joinedNames) o := by
  intro parent depth pos
  refine ⟨_, rfl, fun hop same => ?_⟩
  cases same
  exact List.forall_mem_singleton.mpr ⟨"users", key?_of_table (by decide) _, by decide⟩

theorem activityOfPhoto_joins : activityOfPhoto.JoinsUnder (· ∈ joinedNames) o := by
  intro parent depth pos
  refine ⟨_, rfl, fun hop same => ?_⟩
  cases same
  exact List.forall_mem_singleton.mpr ⟨"activities", key?_of_table (by decide) _, by decide⟩

theorem copyName_mem {depth : Nat} (pos : 1 ≤ depth) (shallow : depth ≤ 3) :
    parentOfTag.copyName depth ∈ copyNames := by
  interval_cases depth <;> decide +kernel

theorem parentOfTag_joins : parentOfTag.JoinsUnder (· ∈ joinedNames) o := by
  intro parent depth pos
  by_cases deep : 3 < depth
  · have stops : parentOfTag.bareHop? parent o depth = .ok none :=
      if_pos (by exact_mod_cast deep)
    refine ⟨none, ?_, nofun⟩
    rw [Relationship.hop?, stops]
    rfl
  · have goes : parentOfTag.bareHop? parent o depth = _ := if_neg (by exact_mod_cast deep)
    have copy := copyName_mem pos (Nat.not_lt.mp deep)
    refine ⟨_, by rw [Relationship.hop?, goes]; rfl, fun hop same => ?_⟩
    cases same
    exact List.forall_mem_singleton.mpr
      ⟨_, key?_of_copy copy _, List.mem_append_right tableNames copy⟩

theorem subjectOfComment_joins : subjectOfComment.JoinsUnder (· ∈ joinedNames) o := by
  intro parent depth pos
  have goes : subjectOfComment.bareHop? parent o depth =
      .ok ((Relationship.mappedTable? "commentable_type"
        (.ofList [("Activity", "activities"), ("Tag", "tags")]) o).map fun table =>
          ⟨[⟨table, columnsEqual table "id" parent "commentable_id", none⟩], table⟩) := rfl
  cases selected : Relationship.mappedTable? "commentable_type"
      (.ofList [("Activity", "activities"), ("Tag", "tags")]) o with
  | none =>
    rw [selected] at goes
    refine ⟨none, ?_, nofun⟩
    rw [Relationship.hop?, goes]
    rfl
  | some table =>
    rw [selected] at goes
    refine ⟨_, by rw [Relationship.hop?, goes]; rfl, fun hop same => ?_⟩
    cases same
    have known : table ∈ tableNames := by
      have listed : table ∈ ["activities", "tags"] := Relationship.mem_of_mappedTable? selected
      have each : ∀ name ∈ ["activities", "tags"], name ∈ tableNames := by decide
      exact each table listed
    exact List.forall_mem_singleton.mpr
      ⟨table, key?_of_table known _, List.mem_append_left copyNames known⟩

/-- A relationship of the log is one of five. -/
theorem mem_graph {rel : Relationship} (h : ∃ r ∈ graph.registries, rel ∈ r.relationships) :
    rel = tagsOfActivity ∨ rel = ownerOfActivity ∨ rel = parentOfTag ∨ rel = subjectOfComment ∨
      rel = activityOfPhoto := by
  obtain ⟨r, member, inside⟩ := h
  simp only [graph, List.mem_cons, List.not_mem_nil, or_false] at member
  rcases member with rfl | rfl | rfl | rfl | rfl
  · rcases List.mem_pair.mp inside with rfl | rfl
    · exact .inl rfl
    · exact .inr (.inl rfl)
  · exact .inr (.inr (.inl (List.mem_singleton.mp inside)))
  · exact .inr (.inr (.inr (.inl (List.mem_singleton.mp inside))))
  · exact .inr (.inr (.inr (.inr (List.mem_singleton.mp inside))))
  · cases inside

/-- Every relationship of the log joins tables under names of the list. -/
theorem joinsUnder_joinedNames :
    ∀ r ∈ graph.registries, ∀ rel ∈ r.relationships, rel.JoinsUnder (· ∈ joinedNames) o := by
  intro r member rel inside
  rcases mem_graph ⟨r, member, inside⟩ with rfl | rfl | rfl | rfl | rfl
  · exact tagsOfActivity_joins o
  · exact ownerOfActivity_joins o
  · exact parentOfTag_joins o
  · exact subjectOfComment_joins o
  · exact activityOfPhoto_joins o

/-- A relationship of a kind that joins its table under the table's own name. -/
def IsPlain (rel : Relationship) : Prop :=
  match rel.kind with
  | .selfReferential _ | .polymorphic _ _ _ => False
  | _ => True

variable {o}

theorem exists_own_join {rel : Relationship} (h : ∃ r ∈ graph.registries, rel ∈ r.relationships)
    (plain : IsPlain rel) {origin : String} {depth : Nat} {hop : Hop}
    (joined : rel.hop? origin o depth = .ok (some hop)) :
    ∃ j ∈ hop.joins, j.key? = some rel.name := by
  rcases mem_graph h with rfl | rfl | rfl | rfl | rfl
  · cases joined
    exact ⟨_, List.mem_cons_of_mem _ List.mem_cons_self, key?_of_table (by decide) _⟩
  · cases joined
    exact ⟨_, List.mem_cons_self, key?_of_table (by decide) _⟩
  · cases plain
  · cases plain
  · cases joined
    exact ⟨_, List.mem_cons_self, key?_of_table (by decide) _⟩

theorem isPlain_of_name_mem {rel : Relationship}
    (h : ∃ r ∈ graph.registries, rel ∈ r.relationships)
    (named : rel.name ∈ graph.tables ++ joinedNames) : IsPlain rel := by
  rcases mem_graph h with rfl | rfl | rfl | rfl | rfl
  · trivial
  · trivial
  · exact absurd named (by decide)
  · exact absurd named (by decide)
  · trivial

/-- For every column whose path is walked to its end, what stands in front of the dot is the main
table or a joined one exactly when the last hop is neither a self-reference nor polymorphic. -/
theorem qualifier_joined_iff {table : String} {r : Registry} (held : graph.get? table = some r)
    (o : Options) : ∃ joins, graph.joins table o = .ok joins ∧
      ∀ column ∈ o.columns, ∀ last,
        r.Walks (some graph) o table [] (segments (path column)) last →
          ((∃ qualifier, head? (resolve column) = some qualifier ∧
              (qualifier = table ∨ ∃ j ∈ joins, j.key? = some qualifier)) ↔ IsPlain last) := by
  obtain ⟨member, rfl⟩ := Graph.of_get? held
  obtain ⟨joins, built, kinds, walked⟩ := Registry.exists_joins (joinsUnder_joinedNames o) member
  refine ⟨joins, ?_, fun column used last walks => ?_⟩
  · rw [Graph.joins, held]
    exact built
  have listed := walks.mem_relationships member
  have some_name : last.name ≠ "" := by
    rcases mem_graph listed with rfl | rfl | rfl | rfl | rfl <;> decide
  obtain ⟨owner, dotted⟩ := walks.owner? some_name
  rw [head?_resolve, owner]
  constructor
  · rintro ⟨qualifier, same, place⟩
    cases same
    refine isPlain_of_name_mem listed (List.mem_append.mpr ?_)
    rcases place with base | ⟨j, joined, key⟩
    · rw [base]
      exact .inl (List.mem_map_of_mem member)
    · obtain ⟨name, again, kind⟩ := kinds j joined
      rw [key] at again
      cases again
      exact .inr kind
  · intro plain
    -- the last hop joins a table under the owner's name, and no later join takes that name away
    obtain ⟨keyed, ran, _⟩ := Registry.exists_walk (joinsUnder_joinedNames o) member r.parent []
      (segments (path column))
    obtain ⟨origin, depth, hop, own, _, hops, run, inside⟩ :=
      walks.exists_last_hop (joinsUnder_joinedNames o) member ran
    obtain ⟨j, joined, key⟩ := exists_own_join listed plain hops
    have mine : (last.name, j) ∈ keyed :=
      inside _ (mem_of_mapM run joined (keyedJoin_eq_ok_iff.mpr ⟨rfl, key⟩))
    exact ⟨last.name, rfl, .inr (walked column used dotted keyed ran _ mine)⟩

theorem qualifier_joined_iff_for_tags :
    let o : Options := { Options.default with
      filter := .ofList [("tags.name", .text "Hill"), ("tags.parent.name", .text "Outdoor")] }
    graph.get? "activities" = some activities ∧ ∃ joins, graph.joins "activities" o = .ok joins ∧
      ∀ column ∈ o.columns, ∀ last,
        activities.Walks (some graph) o "activities" [] (segments (path column)) last →
          ((∃ qualifier, head? (resolve column) = some qualifier ∧
              (qualifier = "activities" ∨ ∃ j ∈ joins, j.key? = some qualifier)) ↔
            IsPlain last) := by
  intro o
  have held : graph.get? "activities" = some activities := rfl
  exact ⟨held, qualifier_joined_iff held o⟩

/-- The copy of a table that is joined to itself does not go by the name of the relationship. -/
theorem parent_of_tag_not_joined :
    let o : Options := { Options.default with
      filter := .ofList [("tags.parent.name", .text "Outdoor")] }
    ∃ joins, graph.joins "activities" o = .ok joins ∧
      activities.Walks (some graph) o "activities" [] (segments (path "tags.parent.name"))
        parentOfTag ∧
      ¬∃ qualifier, head? (resolve "tags.parent.name") = some qualifier ∧
        (qualifier = "activities" ∨ ∃ j ∈ joins, j.key? = some qualifier) := by
  intro o
  have walked : (graph.joins "activities" o).map (fun joins => joins.map Join.key?) =
      .ok [some "activity_tags", some "tags", some "parent_tags"] := by decide +kernel
  have parts : segments (path "tags.parent.name") = ["tags", "parent"] := by decide +kernel
  have written : head? (resolve "tags.parent.name") = some "parent" := by decide +kernel
  obtain ⟨joins, built, keys⟩ := map_eq_ok_iff.mp walked
  refine ⟨joins, built, parts ▸ .follow rfl rfl rfl (.arrive rfl rfl), ?_⟩
  rintro ⟨qualifier, same, place⟩
  rw [written] at same
  cases same
  rcases place with base | ⟨j, member, key⟩
  · exact absurd base (by decide)
  · have listed := List.mem_map_of_mem (f := Join.key?) member
    rw [keys, key] at listed
    exact absurd listed (by decide)

end ListQuery.ActivityLog
